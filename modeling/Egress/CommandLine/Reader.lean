import Egress.CommandLine.Options
import Egress.CommandLine.Token

/-!
# Reading a command line

Tokens are taken from left to right, and the first error wins. A value that stands in an argument
of its own is looked at when the next option is taken up, or at the end; options that exclude each
other are looked for last.
-/

namespace Egress
namespace CommandLine

/-! ## Progress -/

/-- Whether `--probe` was taken up and its value is still to be looked at. -/
inductive Pending
  | nothing
  | awaiting
  | holding (value : String)
  deriving DecidableEq, Repr

/-- What the tokens up to some point have given. -/
structure Progress where
  /-- The options in the order in which they were first given. Each further `--verbose` counts as
  given anew. -/
  given : List Opt := []
  probe : Option Destination := none
  verbose : Nat := 0
  pending : Pending := .nothing
  deriving DecidableEq, Repr

namespace Progress

/-- The value of `--probe` is looked at. A second one is refused whatever it is. -/
def takeProbe (p : Progress) (value : String) : Except UsageError Progress :=
  if .probe ∈ p.given then .error (.repeated .probe)
  else
    match Destination.ofText value with
    | .ok destination =>
      .ok { p with given := p.given ++ [.probe], probe := some destination }
    | .error e => .error (.invalidValue value e)

/-- Nothing is pending any more. -/
def settle (p : Progress) : Except UsageError Progress :=
  match p.pending with
  | .nothing => .ok p
  | .awaiting => .error .missingValue
  | .holding value => { p with pending := .nothing }.takeProbe value

/-- An option without a value. Only `--verbose` may be repeated. -/
def takeFlag (p : Progress) (o : Opt) : Except UsageError Progress :=
  if o = .verbose then
    .ok { p with given := p.given.erase o ++ [o], verbose := min 255 (p.verbose + 1) }
  else if o ∈ p.given then .error (.repeated o)
  else .ok { p with given := p.given ++ [o] }

def takeOption (p : Progress) (o : Opt) : Except UsageError Progress := do
  let p ← p.settle
  if o = .probe then .ok { p with pending := .awaiting } else p.takeFlag o

/-- A word is the value that was awaited, or has no meaning. -/
def takeWord (p : Progress) (text : String) : Except UsageError Progress :=
  if p.pending = .awaiting then .ok { p with pending := .holding text }
  else .error (.unexpected text)

def take (p : Progress) : Token → Except UsageError Progress
  | .option o => p.takeOption o
  | .attached value => do (← p.settle).takeProbe value
  | .word text => p.takeWord text
  | .wrong e => .error e

/-- The first of the given options beside which its rival was given, with that rival. -/
def conflict? (given : List Opt) : Option (Opt × Opt) :=
  given.findSome? fun o => (o.rival?.filter (· ∈ given)).map fun r => (o, r)

def options (p : Progress) : Options where
  probe := p.probe
  ipv6 := .ipv6 ∈ p.given
  verify := .verify ∈ p.given
  verbose := p.verbose
  quiet := .quiet ∈ p.given

def finish (p : Progress) : Except UsageError Command := do
  let p ← p.settle
  match conflict? p.given with
  | some (o, r) => .error (.conflict o r)
  | none => .ok (.run p.options)

/-- Help and version are given as soon as they are asked for. -/
def read (p : Progress) : List Token → Except UsageError Command
  | [] => p.finish
  | .option .help :: _ => do
    let _ ← p.settle
    return .help
  | .option .version :: _ => do
    let _ ← p.settle
    return .version
  | t :: ts => do (← p.take t).read ts

end Progress

/-- The command that the arguments of the program ask for. -/
def read (arguments : List String) : Except UsageError Command :=
  Progress.read {} (Token.ofArguments arguments)

/-! ## Steps that were taken -/

theorem bind_eq_ok_iff {α β : Type} {x : Except UsageError α} {f : α → Except UsageError β}
    {b : β} : (x >>= f) = .ok b ↔ ∃ a, x = .ok a ∧ f a = .ok b := by
  cases x <;> simp [bind, Except.bind]

namespace Progress

variable {p q : Progress}

theorem takeProbe_eq_ok_iff {value : String} :
    p.takeProbe value = .ok q ↔
      .probe ∉ p.given ∧ ∃ d, Destination.ofText value = .ok d ∧
        q = { p with given := p.given ++ [.probe], probe := some d } := by
  unfold takeProbe
  split
  case isTrue hgiven => simp [hgiven]
  case isFalse hgiven =>
    cases Destination.ofText value <;> simp [hgiven, eq_comm]

theorem settle_eq_ok_iff :
    p.settle = .ok q ↔
      (p.pending = .nothing ∧ q = p) ∨
        ∃ value, p.pending = .holding value ∧
          { p with pending := .nothing }.takeProbe value = .ok q := by
  unfold settle
  cases hpending : p.pending <;> simp [eq_comm]

theorem takeFlag_eq_ok_iff {o : Opt} :
    p.takeFlag o = .ok q ↔
      (o = .verbose ∧ q = { p with
        given := p.given.erase o ++ [o], verbose := min 255 (p.verbose + 1) }) ∨
      (o ≠ .verbose ∧ o ∉ p.given ∧ q = { p with given := p.given ++ [o] }) := by
  unfold takeFlag
  split
  case isTrue hverbose => simp [hverbose, eq_comm]
  case isFalse hother =>
    split
    case isTrue hgiven => simp [hother, hgiven]
    case isFalse hgiven => simp [hother, hgiven, eq_comm]

theorem takeOption_eq_ok_iff {o : Opt} :
    p.takeOption o = .ok q ↔ ∃ settled, p.settle = .ok settled ∧
      ((o = .probe ∧ q = { settled with pending := .awaiting }) ∨
        (o ≠ .probe ∧ settled.takeFlag o = .ok q)) := by
  unfold takeOption
  rw [bind_eq_ok_iff]
  refine exists_congr fun settled => and_congr_right fun _ => ?_
  by_cases hprobe : o = .probe
  · simp [hprobe, eq_comm]
  · simp [hprobe]

theorem takeWord_eq_ok_iff {text : String} :
    p.takeWord text = .ok q ↔ p.pending = .awaiting ∧ q = { p with pending := .holding text } := by
  unfold takeWord
  split
  case isTrue hawaiting => simp [hawaiting, eq_comm]
  case isFalse hother => simp [hother]

theorem finish_eq_run_iff {options : Options} :
    p.finish = .ok (.run options) ↔
      ∃ settled, p.settle = .ok settled ∧ conflict? settled.given = none ∧
        settled.options = options := by
  unfold finish
  rw [bind_eq_ok_iff]
  refine exists_congr fun settled => and_congr_right fun _ => ?_
  cases conflict? settled.given <;> simp

/-- A run is what all tokens together ask for; none of them is left unread. -/
theorem read_eq_run_iff {ts : List Token} {options : Options} :
    p.read ts = .ok (.run options) ↔
      .option .help ∉ ts ∧ .option .version ∉ ts ∧
        ∃ q, ts.foldlM take p = .ok q ∧ q.finish = .ok (.run options) := by
  fun_induction Progress.read p ts with
  | case1 p => simp [pure, Except.pure]
  | case2 p ts => simp [bind_eq_ok_iff, pure, Except.pure]
  | case3 p ts => simp [bind_eq_ok_iff, pure, Except.pure]
  | case4 p t ts hhelp hversion ih =>
    simp only [bind_eq_ok_iff, List.foldlM_cons, List.mem_cons, not_or, ih]
    constructor
    · rintro ⟨next, htake, hnohelp, hnoversion, q, hfold, hfinish⟩
      exact ⟨⟨fun h => hhelp h.symm, hnohelp⟩, ⟨fun h => hversion h.symm, hnoversion⟩, q,
        ⟨next, htake, hfold⟩, hfinish⟩
    · rintro ⟨⟨-, hnohelp⟩, ⟨-, hnoversion⟩, q, ⟨next, htake, hfold⟩, hfinish⟩
      exact ⟨next, htake, hnohelp, hnoversion, q, hfold, hfinish⟩

end Progress
end CommandLine
end Egress
