import Egress.CommandLine.Reader
import Mathlib.Data.List.Forall2

/-!
# Occurrences — what a command line says, in whatever way it is written

An option may be given by its name or by its letter, letters may share an argument, and the value
of `--probe` may stand in its argument or in the next one. Main statement: a command line is read
occurrence by occurrence, so that how it is written makes no difference, not even to its errors.
-/

namespace Egress
namespace CommandLine

/-! ## Occurrences and how they are written -/

/-- An option that is given once, with its value. -/
inductive Occurrence
  | ipv6
  | verify
  | quiet
  | verbose
  | probe (value : String)
  deriving DecidableEq, Repr

namespace Occurrence

def option : Occurrence → Opt
  | .ipv6 => .ipv6
  | .verify => .verify
  | .quiet => .quiet
  | .verbose => .verbose
  | .probe _ => .probe

/-- The argument that an option without a value makes up. -/
def name? : Occurrence → Option String
  | .ipv6 => some "--ipv6"
  | .verify => some "--verify"
  | .quiet => some "--quiet"
  | .verbose => some "--verbose"
  | .probe _ => none

def letter? : Occurrence → Option Char
  | .ipv6 => some '6'
  | .verify => none
  | .quiet => some 'q'
  | .verbose => some 'v'
  | .probe _ => none

end Occurrence

/-- The letters of options without a value, as they stand behind one dash. -/
abbrev Clustered (os : List Occurrence) (cs : List Char) : Prop :=
  List.Forall₂ (fun o c => o.letter? = some c) os cs

/-- The ways to write occurrences as arguments. A value of its own cannot look like an option, and
one that follows its letter directly is there and has no equals sign in front. -/
inductive Written : List Occurrence → List String → Prop
  | nil : Written [] []
  | name {o : Occurrence} {name : String} {os : List Occurrence} {arguments : List String} :
      o.name? = some name → Written os arguments →
      Written (o :: os) (name :: arguments)
  | letters {flags os : List Occurrence} {cs : List Char} {arguments : List String} :
      Clustered flags cs → cs ≠ [] → Written os arguments →
      Written (flags ++ os) (String.ofList ('-' :: cs) :: arguments)
  | probe {value : String} {os : List Occurrence} {arguments : List String} :
      value.toList.head? ≠ some '-' → Written os arguments →
      Written (.probe value :: os) ("--probe" :: value :: arguments)
  | probeWith {value : String} {os : List Occurrence} {arguments : List String} :
      Written os arguments →
      Written (.probe value :: os) (("--probe=" ++ value) :: arguments)
  | lettersProbe {flags os : List Occurrence} {cs : List Char} {value : String}
      {arguments : List String} :
      Clustered flags cs → value.toList.head? ≠ some '-' → Written os arguments →
      Written (flags ++ .probe value :: os)
        (String.ofList ('-' :: (cs ++ ['p'])) :: value :: arguments)
  | lettersProbeWith {flags os : List Occurrence} {cs : List Char} {value : String}
      {arguments : List String} :
      Clustered flags cs → value ≠ "" → value.toList.head? ≠ some '=' → Written os arguments →
      Written (flags ++ .probe value :: os)
        (String.ofList ('-' :: (cs ++ 'p' :: value.toList)) :: arguments)

/-! ## Tokens of occurrences -/

/-- The tokens that occurrences are read as. -/
inductive Tokenized : List Occurrence → List Token → Prop
  | nil : Tokenized [] []
  | flag {o : Occurrence} {os : List Occurrence} {ts : List Token} :
      o.option ≠ .probe → Tokenized os ts →
      Tokenized (o :: os) (.option o.option :: ts)
  | attached {value : String} {os : List Occurrence} {ts : List Token} :
      Tokenized os ts → Tokenized (.probe value :: os) (.attached value :: ts)
  | word {value : String} {os : List Occurrence} {ts : List Token} :
      Tokenized os ts → Tokenized (.probe value :: os) (.option .probe :: .word value :: ts)

theorem Tokenized.flags {flags os : List Occurrence} {cs : List Char} {ts : List Token}
    (hflags : Clustered flags cs) (h : Tokenized os ts) :
    Tokenized (flags ++ os) (flags.map (fun o => .option o.option) ++ ts) := by
  induction hflags with
  | nil => exact h
  | @cons o c flags cs hletter _ ih =>
    refine .flag ?_ ih
    intro hprobe
    cases o <;> simp_all [Occurrence.option, Occurrence.letter?]

theorem Tokenized.not_mem {os : List Occurrence} {ts : List Token} (h : Tokenized os ts) :
    .option .help ∉ ts ∧ .option .version ∉ ts := by
  induction h with
  | nil => simp
  | @flag o os ts _ _ ih => cases o <;> simpa [Occurrence.option] using ih
  | attached _ ih => simpa using ih
  | word _ ih => simpa using ih

namespace Token

theorem ofLong_name {o : Occurrence} {name : String} (h : o.name? = some name)
    (arguments : List String) :
    ofArguments (name :: arguments) = .option o.option :: ofArguments arguments := by
  cases o <;> cases h <;> rfl

theorem ofShorts_letters {flags : List Occurrence} {cs : List Char} (h : Clustered flags cs)
    (rest : List Char) :
    ofShorts (cs ++ rest) = flags.map (fun o => .option o.option) ++ ofShorts rest := by
  induction h with
  | nil => rfl
  | @cons o c flags cs hletter _ ih =>
    rw [List.cons_append, List.map_cons, List.cons_append, ← ih]
    cases o <;> cases hletter <;> rfl

/-- No option has the dash for its letter. -/
theorem ofArguments_letters {flags : List Occurrence} {cs rest : List Char}
    (h : Clustered flags cs) (hne : cs ++ rest ≠ []) (hdash : rest.head? ≠ some '-')
    (arguments : List String) :
    ofArguments (String.ofList ('-' :: (cs ++ rest)) :: arguments) =
      flags.map (fun o => .option o.option) ++ ofShorts rest ++ ofArguments arguments := by
  rw [← ofShorts_letters h]
  cases h with
  | nil =>
    cases rest with
    | nil => contradiction
    | cons c rest => exact ofArguments_shorts (by simpa using hdash) rest arguments
  | @cons o c flags cs hletter _ =>
    refine ofArguments_shorts ?_ _ arguments
    rintro rfl
    cases o <;> simp [Occurrence.letter?] at hletter

theorem ofAttached_value {value : String} (hne : value ≠ "")
    (hequals : value.toList.head? ≠ some '=') : ofAttached value.toList = .attached value := by
  have hlist : value.toList ≠ [] := by simpa using hne
  unfold ofAttached
  split
  case h_1 heq => contradiction
  case h_2 heq => simp [heq] at hequals
  case h_3 => rw [String.ofList_toList]

end Token

/-- However occurrences are written, the arguments are read as their tokens. -/
theorem Written.tokenized {os : List Occurrence} {arguments : List String}
    (h : Written os arguments) : Tokenized os (Token.ofArguments arguments) := by
  induction h with
  | nil => exact .nil
  | @name o name os arguments hname _ ih =>
    rw [Token.ofLong_name hname]
    refine .flag ?_ ih
    cases o <;> simp_all [Occurrence.option, Occurrence.name?]
  | @letters flags os cs arguments hflags hne _ ih =>
    have hall : cs ++ [] ≠ [] := by simpa using hne
    rw [← List.append_nil cs, Token.ofArguments_letters hflags hall (by simp), List.append_assoc]
    exact .flags hflags ih
  | probe hvalue _ ih =>
    have hname : ∀ rest, Token.ofArguments ("--probe" :: rest) =
        .option .probe :: Token.ofArguments rest := fun _ => rfl
    rw [hname, Token.ofArguments_word hvalue]
    exact .word ih
  | @probeWith value os arguments _ ih =>
    have hchars : ("--probe=" ++ value).toList =
        '-' :: '-' :: 'p' :: 'r' :: 'o' :: 'b' :: 'e' :: '=' :: value.toList := by
      rw [String.toList_append]
      rfl
    have hlong : Token.ofLong ('p' :: 'r' :: 'o' :: 'b' :: 'e' :: '=' :: value.toList) =
        .attached (String.ofList value.toList) := rfl
    rw [Token.ofArguments_long hchars, hlong, String.ofList_toList]
    exact .attached ih
  | @lettersProbe flags os cs value arguments hflags hvalue _ ih =>
    rw [Token.ofArguments_letters hflags (by simp) (by decide), Token.ofArguments_word hvalue,
      List.append_assoc]
    exact .flags hflags (.word ih)
  | @lettersProbeWith flags os cs value arguments hflags hne hequals _ ih =>
    have hrest : Token.ofShorts ('p' :: value.toList) = [.attached value] := by
      rw [← Token.ofAttached_value hne hequals]
      rfl
    rw [Token.ofArguments_letters hflags (by simp) (by simp), hrest, List.append_assoc]
    exact .flags hflags (.attached ih)

/-! ## Reading occurrence by occurrence -/

namespace Progress

variable {p q : Progress}

/-- What an occurrence adds, where no value is pending. -/
def accept (p : Progress) : Occurrence → Except UsageError Progress
  | .probe value => p.takeProbe value
  | o => p.takeFlag o.option

/-- The end of the arguments, where no value is pending. -/
def conclude (p : Progress) : Except UsageError Command :=
  match conflict? p.given with
  | some (o, r) => .error (.conflict o r)
  | none => .ok (.run p.options)

theorem accept_flag {o : Occurrence} (h : o.option ≠ .probe) (p : Progress) :
    p.accept o = p.takeFlag o.option := by
  cases o with
  | probe value => contradiction
  | _ => rfl

theorem finish_eq (p : Progress) : p.finish = p.settle >>= conclude := rfl

theorem settle_eq_ok (h : p.pending = .nothing) : p.settle = .ok p := by
  rw [settle, h]

theorem pending_of_takeProbe {value : String} (h : p.takeProbe value = .ok q) :
    q.pending = p.pending := by
  obtain ⟨-, d, -, rfl⟩ := takeProbe_eq_ok_iff.1 h
  rfl

theorem pending_of_takeFlag {o : Opt} (h : p.takeFlag o = .ok q) : q.pending = p.pending := by
  rcases takeFlag_eq_ok_iff.1 h with ⟨-, rfl⟩ | ⟨-, -, rfl⟩ <;> rfl

theorem pending_of_accept {o : Occurrence} (h : p.accept o = .ok q) : q.pending = p.pending := by
  cases o with
  | probe value => exact pending_of_takeProbe h
  | _ => exact pending_of_takeFlag h

theorem pending_of_settle (h : p.settle = .ok q) : q.pending = .nothing := by
  rcases settle_eq_ok_iff.1 h with ⟨hpending, rfl⟩ | ⟨value, -, h⟩
  · exact hpending
  · exact pending_of_takeProbe h

/-- An occurrence that was read leaves no value pending. -/
theorem settle_bind_accept_settle (p : Progress) (o : Occurrence) :
    (p.settle >>= fun settled => settled.accept o >>= settle) =
      p.settle >>= fun settled => settled.accept o := by
  cases hsettle : p.settle with
  | error e => rfl
  | ok settled =>
    change (settled.accept o >>= settle) = settled.accept o
    cases haccept : settled.accept o with
    | error e => rfl
    | ok q => exact settle_eq_ok ((pending_of_accept haccept).trans (pending_of_settle hsettle))

theorem foldlM_take_flag {o : Occurrence} (h : o.option ≠ .probe) (p : Progress) :
    ([.option o.option].foldlM take p >>= settle) =
      p.settle >>= fun settled => settled.accept o := by
  have htake : p.take (.option o.option) = p.settle >>= fun settled => settled.accept o := by
    rw [take, takeOption]
    refine bind_congr fun settled => ?_
    rw [if_neg h, accept_flag h]
  rw [← settle_bind_accept_settle, List.foldlM_cons, htake]
  simp

theorem foldlM_take_attached (value : String) (p : Progress) :
    ([.attached value].foldlM take p >>= settle) =
      p.settle >>= fun settled => settled.accept (.probe value) := by
  have htake : p.take (.attached value) =
      p.settle >>= fun settled => settled.accept (.probe value) := rfl
  rw [← settle_bind_accept_settle, List.foldlM_cons, htake]
  simp

/-- A value in an argument of its own is looked at late, but no otherwise than one that was
attached. -/
theorem foldlM_take_word (value : String) (p : Progress) :
    ([.option .probe, .word value].foldlM take p >>= settle) =
      p.settle >>= fun settled => settled.accept (.probe value) := by
  -- What was pending is settled when the option is met, in front of its own value.
  cases hsettle : p.settle with
  | error e =>
    have htake : p.take (.option .probe) = .error e := by
      rw [take, takeOption, hsettle]
      rfl
    rw [List.foldlM_cons, htake]
    rfl
  | ok settled =>
    have htake : p.take (.option .probe) = .ok { settled with pending := .awaiting } := by
      rw [take, takeOption, hsettle]
      rfl
    have hsame : { settled with pending := .nothing } = settled := by
      rw [← pending_of_settle hsettle]
    rw [List.foldlM_cons, htake]
    change ({ settled with pending := .nothing } : Progress).takeProbe value = _
    rw [hsame]
    rfl

theorem foldlM_take_append {o : Occurrence} {os : List Occurrence} {block ts : List Token}
    (hblock : ∀ p : Progress, (block.foldlM take p >>= settle) =
      p.settle >>= fun settled => settled.accept o)
    (hrest : ∀ p : Progress, (ts.foldlM take p >>= settle) = p.settle >>= os.foldlM accept)
    (p : Progress) :
    ((block ++ ts).foldlM take p >>= settle) = p.settle >>= (o :: os).foldlM accept := by
  calc
    ((block ++ ts).foldlM take p >>= settle)
        = block.foldlM take p >>= fun q => ts.foldlM take q >>= settle := by
          rw [List.foldlM_append, bind_assoc]
    _ = (block.foldlM take p >>= settle) >>= os.foldlM accept := by
          rw [bind_assoc]
          exact bind_congr hrest
    _ = p.settle >>= (o :: os).foldlM accept := by
          rw [hblock, bind_assoc]
          exact bind_congr fun settled => List.foldlM_cons.symm

/-- Reading the tokens is reading the occurrences that they stand for, one after the other. -/
theorem foldlM_take_tokenized {os : List Occurrence} {ts : List Token} (h : Tokenized os ts)
    (p : Progress) : (ts.foldlM take p >>= settle) = p.settle >>= os.foldlM accept := by
  -- Each occurrence is a block of tokens, taken up from whatever was taken up in front of it.
  induction h generalizing p with
  | nil => simp
  | flag hflag _ ih => exact foldlM_take_append (foldlM_take_flag hflag) ih p
  | @attached value os ts _ ih => exact foldlM_take_append (foldlM_take_attached value) ih p
  | @word value os ts _ ih => exact foldlM_take_append (foldlM_take_word value) ih p

/-- Without a call for help or for the version, no token ends the reading early. -/
theorem read_eq_foldlM {ts : List Token} (hhelp : .option .help ∉ ts)
    (hversion : .option .version ∉ ts) (p : Progress) :
    p.read ts = ts.foldlM take p >>= finish := by
  fun_induction Progress.read p ts with
  | case1 p => simp
  | case2 p ts => simp at hhelp
  | case3 p ts => simp at hversion
  | case4 p t ts _ _ ih =>
    simp only [List.mem_cons, not_or] at hhelp hversion
    rw [List.foldlM_cons, bind_assoc]
    exact bind_congr fun next => ih next hhelp.2 hversion.2

end Progress

/-- Only the occurrences count for what is read, and not how they are written. -/
theorem read_of_written {os : List Occurrence} {arguments : List String}
    (h : Written os arguments) :
    read arguments = os.foldlM Progress.accept {} >>= Progress.conclude := by
  obtain ⟨hhelp, hversion⟩ := h.tokenized.not_mem
  have hsettle : Progress.settle {} = .ok {} := rfl
  calc
    read arguments
        = (Token.ofArguments arguments).foldlM Progress.take {} >>= Progress.finish :=
          Progress.read_eq_foldlM hhelp hversion {}
    _ = ((Token.ofArguments arguments).foldlM Progress.take {} >>= Progress.settle) >>=
          Progress.conclude := by
          rw [bind_assoc]
          exact bind_congr Progress.finish_eq
    _ = os.foldlM Progress.accept {} >>= Progress.conclude := by
          rw [Progress.foldlM_take_tokenized h.tokenized, hsettle]
          rfl

end CommandLine
end Egress
