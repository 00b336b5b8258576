import Egress.CommandLine.Option
import Egress.Destination
import Egress.Terminal.Plain
import Egress.Terminal.Span
import Egress.Text.Line

/-!
# Usage errors

What is wrong with a command line. What was given wrongly stands out in the message. Arguments are
quoted as they are, so without colour the control sequences that they bring are taken out together
with those of the message. Only the first line counts, also where a quoted argument goes on behind
it.
-/

namespace Egress
namespace CommandLine

inductive UsageError
  | unexpected (argument : String)
  /-- The value of `--probe` is missing. -/
  | missingValue
  | invalidValue (value : String) (error : Destination.Error)
  | excessValue (value : String) (option : Opt)
  | repeated (option : Opt)
  | conflict (first second : Opt)
  deriving DecidableEq, Repr

namespace UsageError

def spans : UsageError → List Span
  | .unexpected argument => ["unexpected argument '", .invalid argument, "' found"]
  | .missingValue =>
    ["a value is required for '", .invalid Opt.probe.label, "' but none was supplied"]
  | .invalidValue value error =>
    ["invalid value '", .invalid value, "' for '", .literal Opt.probe.label, "': ", error.message]
  | .excessValue value option =>
    ["unexpected value '", .invalid value, "' for '", .literal option.label,
      "' found; no more were expected"]
  | .repeated option =>
    ["the argument '", .invalid option.label, "' cannot be used multiple times"]
  | .conflict first second =>
    ["the argument '", .invalid first.label, "' cannot be used with '", .invalid second.label, "'"]

/-- Behind every error stands where to read on. A control sequence that a quoted argument leaves
open may reach that far. -/
def pointer : List Span :=
  ["\n\nFor more information, try '", .literal Opt.help.label, "'.\n"]

def head : List Span := [.error "error:", " "]

/-- The whole text, with its styles. -/
def chars (e : UsageError) : List Char := Span.join true (head ++ e.spans ++ pointer)

/-- The error told in a plain text. -/
def message (e : UsageError) : String :=
  String.ofList (Text.firstLine (Terminal.plain false e.chars))

/-- The error as it is printed. Without colour it is made plain as a stream. -/
def printed (color : Bool) (e : UsageError) : String :=
  String.ofList (Text.firstLine (if color then e.chars else Terminal.plain true e.chars))

/-- Every error says something: its first word has no end of a line in it. -/
theorem printed_ne_empty (color : Bool) (e : UsageError) : e.printed color ≠ "" := by
  obtain ⟨rest, hchars⟩ : ∃ rest, e.chars =
      Emphasis.error.styles.flatMap Colour.select ++ ("error:".toList ++ rest) := by
    refine ⟨Colour.reset ++ ' ' :: Span.join true (e.spans ++ pointer), ?_⟩
    simp [chars, head, Span.join, Span.error, Span.chars]
  have hplain : Terminal.plain true e.chars = "error:".toList ++ Terminal.plain true rest := by
    rw [hchars, Span.plain_styles]
    exact Terminal.plain_append rest (List.all_eq_true.1 (by decide))
  have hline : Text.firstLine (if color then e.chars else Terminal.plain true e.chars) ≠ [] := by
    cases color with
    | true =>
      rw [if_pos rfl, hchars]
      exact Text.firstLine_ne_nil (by decide) (by decide)
    | false =>
      rw [if_neg (by decide), hplain]
      exact Text.firstLine_ne_nil (by decide) (by decide)
  rw [printed, ne_eq, String.ofList_eq_empty_iff]
  exact hline

end UsageError
end CommandLine
end Egress
