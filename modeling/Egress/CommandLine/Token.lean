import Egress.CommandLine.UsageError

/-!
# Tokens

What each argument stands for by itself. Short options may stand in one argument, so an argument
can be several tokens. Behind the argument `--` no argument is an option or a value any more.
-/

namespace Egress
namespace CommandLine

inductive Token
  | option (o : Opt)
  /-- The option `--probe` with its value in the same argument. -/
  | attached (value : String)
  /-- An argument that is no option: the value of an option in front of it, or nothing. -/
  | word (text : String)
  | wrong (e : UsageError)
  deriving DecidableEq, Repr

namespace Token

/-- Only `--probe` takes a value. -/
def ofLong (cs : List Char) : Token :=
  let name := String.ofList (cs.takeWhile (· ≠ '='))
  match Opt.ofLong? name, cs.dropWhile (· ≠ '=') with
  | none, _ => .wrong (.unexpected ("--" ++ name))
  | some o, [] => .option o
  | some .probe, _ :: value => .attached (String.ofList value)
  | some o, _ :: value => .wrong (.excessValue (String.ofList value) o)

/-- A value may be set off from its short option by an equals sign. -/
def ofAttached : List Char → Token
  | [] => .option .probe
  | '=' :: value => .attached (String.ofList value)
  | value => .attached (String.ofList value)

/-- Short options behind one dash. The rest behind `p` is its value. -/
def ofShorts : List Char → List Token
  | [] => []
  | c :: cs =>
    match Opt.ofShort? c with
    | none => [.wrong (.unexpected (String.ofList ['-', c]))]
    | some .probe => [ofAttached cs]
    | some o => .option o :: ofShorts cs

def ofArguments : List String → List Token
  | [] => []
  | argument :: arguments =>
    match argument.toList with
    | ['-', '-'] => arguments.map fun a => .wrong (.unexpected a)
    | '-' :: '-' :: cs => ofLong cs :: ofArguments arguments
    | '-' :: c :: cs => ofShorts (c :: cs) ++ ofArguments arguments
    | _ => .word argument :: ofArguments arguments

/-! ## Kinds of arguments -/

/-- Whatever does not start with a dash is a word. -/
theorem ofArguments_word {text : String} (h : text.toList.head? ≠ some '-')
    (arguments : List String) :
    ofArguments (text :: arguments) = .word text :: ofArguments arguments := by
  rw [ofArguments]
  split
  case h_4 => rfl
  all_goals
    rename_i heq
    simp [heq] at h

theorem ofArguments_shorts {c : Char} (h : c ≠ '-') (cs : List Char) (arguments : List String) :
    ofArguments (String.ofList ('-' :: c :: cs) :: arguments) =
      ofShorts (c :: cs) ++ ofArguments arguments := by
  rw [ofArguments, String.toList_ofList]
  split
  case h_3 heq =>
    cases heq
    rfl
  all_goals simp_all

theorem ofArguments_long {argument : String} {c : Char} {cs : List Char}
    (h : argument.toList = '-' :: '-' :: c :: cs) (arguments : List String) :
    ofArguments (argument :: arguments) = ofLong (c :: cs) :: ofArguments arguments := by
  rw [ofArguments, h]
  rfl

end Token
end CommandLine
end Egress
