import Egress.Terminal.Colour
import Egress.Terminal.Plain

/-!
# Spans

Texts of which parts stand out on a terminal in colour. A part that stands out has its styles
selected in front of it and ended behind it. Made plain, the text does not tell the styles.
-/

namespace Egress

/-- What makes a part of a text stand out. -/
inductive Emphasis
  | error
  | invalid
  | literal
  | heading
  deriving DecidableEq, Repr

def Emphasis.styles : Emphasis → List (List Char)
  | .error => [Colour.bold, Colour.red]
  | .invalid => [Colour.yellow]
  | .literal => [Colour.bold]
  | .heading => [Colour.bold, Colour.underline]

structure Span where
  text : String
  emphasis : Option Emphasis := none
  deriving DecidableEq, Repr

namespace Span

instance : Coe String Span := ⟨fun text => { text }⟩

def error (text : String) : Span := ⟨text, some .error⟩

def invalid (text : String) : Span := ⟨text, some .invalid⟩

def literal (text : String) : Span := ⟨text, some .literal⟩

def heading (text : String) : Span := ⟨text, some .heading⟩

def chars (color : Bool) (s : Span) : List Char :=
  match s.emphasis with
  | none => s.text.toList
  | some e =>
    if color then e.styles.flatMap Colour.select ++ s.text.toList ++ Colour.reset
    else s.text.toList

/-- The text that the spans make up. -/
def join (color : Bool) (spans : List Span) : List Char := spans.flatMap (chars color)

theorem plain_styles (stream : Bool) (e : Emphasis) (cs : List Char) :
    Terminal.plain stream (e.styles.flatMap Colour.select ++ cs) = Terminal.plain stream cs := by
  cases e <;> rfl

end Span
end Egress
