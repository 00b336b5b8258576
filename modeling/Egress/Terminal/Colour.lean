/-!
# Colour

Texts in a terminal's colours: a control sequence in front selects a style, and one behind ends it.
-/

namespace Egress
namespace Colour

/-! ## Styles -/

def bold : List Char := ['1']

def dim : List Char := ['2']

def underline : List Char := ['4']

def red : List Char := ['3', '1']

def yellow : List Char := ['3', '3']

/-! ## Control sequences -/

/-- The control sequence that selects a style. -/
def select (style : List Char) : List Char := '\x1b' :: '[' :: style ++ ['m']

/-- The control sequence that ends every style. -/
def reset : List Char := select ['0']

/-- A text that ends its style half-way takes it up again. -/
def resume (style : List Char) : List Char → List Char
  | '\x1b' :: '[' :: '0' :: 'm' :: cs => reset ++ select style ++ resume style cs
  | c :: cs => c :: resume style cs
  | [] => []

def paint (color : Bool) (style : List Char) (cs : List Char) : List Char :=
  if color then select style ++ resume style cs ++ reset else cs

theorem paint_false (style cs : List Char) : paint false style cs = cs := rfl

theorem resume_eq_self {style cs : List Char} (h : '\x1b' ∉ cs) : resume style cs = cs := by
  induction cs with
  | nil => rfl
  | cons c cs ih =>
    have hne : c ≠ '\x1b' := fun hc => h (by simp [hc])
    have hrest : '\x1b' ∉ cs := fun hc => h (by simp [hc])
    rw [resume.eq_2 _ _ _ (fun _ hc => absurd hc hne), ih hrest]

/-! ## When to colour -/

/-- Colour can be forced; it can be turned off; and where nothing is said, a terminal gets it. The
texts are those of the variables that ask for it, and `0` says no. -/
def wanted (forced off allowed : Option String) (terminal : Bool) : Bool :=
  if forced.any (· ≠ "0") then true
  else if off.isSome then false
  else allowed.all (· ≠ "0") && terminal

end Colour
end Egress
