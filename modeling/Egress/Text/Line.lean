/-!
# Lines

The first line of a text.
-/

namespace Egress
namespace Text

/-- A carriage return in front of the line feed belongs to the line end. -/
def firstLine (cs : List Char) : List Char :=
  let line := cs.takeWhile (· ≠ '\n')
  if line.getLast? = some '\r' then line.dropLast else line

theorem firstLine_ne_nil {a b : Char} {cs : List Char} (ha : a ≠ '\n') (hb : b ≠ '\n') :
    firstLine (a :: b :: cs) ≠ [] := by
  have hline : (a :: b :: cs).takeWhile (· ≠ '\n') = a :: b :: cs.takeWhile (· ≠ '\n') := by
    simp [ha, hb]
  -- A carriage return may be taken off its end, but the first character stays.
  rw [firstLine, hline]
  split <;> simp

end Text
end Egress
