import Egress.Text.Digits

/-!
# Link addresses

The hardware address of an interface: six octets, each written with two digits. Reading is wider
than writing: an octet may be read from any number of digits, as long as its value is that of an
octet.
-/

namespace Egress

open Text

structure Mac where
  octets : List UInt8
  length_octets : octets.length = 6 := by rfl
  deriving DecidableEq, Repr

namespace Mac

def octetChars (o : UInt8) : List Char :=
  (Nat.toDigits 16 o.toNat).leftpad 2 '0'

def text (mac : Mac) : String :=
  String.ofList ([':'].intercalate (mac.octets.map octetChars))

/-- What stands behind the plus sign of a number, if it has one. -/
def dropPlus : List Char → List Char
  | '+' :: cs => cs
  | cs => cs

/-- An octet may have leading zeros and a plus sign before its digits. -/
def readOctet? (cs : List Char) : Option UInt8 :=
  (readDigits? 16 (dropPlus cs)).bind fun n => if n < 256 then some (UInt8.ofNat n) else none

/-- Six octets with a colon between each two of them, and nothing else, are a link address. -/
def ofText? (text : String) : Option Mac :=
  ((text.toList.splitOn ':').mapM readOctet?).bind fun octets =>
    if h : octets.length = 6 then some ⟨octets, h⟩ else none

end Mac

end Egress
