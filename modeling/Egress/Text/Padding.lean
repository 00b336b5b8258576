/-!
# Padding

Texts filled up with spaces to a least width. A longer text stays as it is.
-/

namespace Egress
namespace Text

/-- The text at the right end of a field of at least `width` characters. -/
def alignRight (width : Nat) (text : String) : String :=
  String.ofList (text.toList.leftpad width ' ')

/-- The text at the left end of a field of at least `width` characters. -/
def alignLeft (width : Nat) (text : String) : String :=
  String.ofList (text.toList.rightpad width ' ')

theorem length_alignRight (width : Nat) (text : String) :
    (alignRight width text).length = max width text.length := by
  simp [alignRight, String.length_toList]
  omega

end Text
end Egress
