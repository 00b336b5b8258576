import Egress.Ip.Basic
import Egress.Text.Digits

/-!
# Reading IP addresses

A reader takes a whole text: there is an address or there is none. Separators cut the text into
pieces, and each piece is read on its own.
-/

namespace Egress

open Text

/-! ## IPv4 -/

namespace Ipv4

/-- An octet has to stand as it is written, so without leading zeros. -/
def readOctet? (cs : List Char) : Option UInt8 :=
  (readDigits? 10 cs).bind fun n =>
    if n < 256 ∧ cs = Nat.toDigits 10 n then some (UInt8.ofNat n) else none

def read? (cs : List Char) : Option Ipv4 :=
  match cs.splitOn '.' with
  | [a, b, c, d] => do
    return ⟨← readOctet? a, ← readOctet? b, ← readOctet? c, ← readOctet? d⟩
  | _ => none

theorem readOctet?_toDigits (o : UInt8) : readOctet? (Nat.toDigits 10 o.toNat) = some o := by
  simp [readOctet?, readDigits?_toDigits (show 1 < 10 by decide) (show 10 ≤ 16 by decide),
    o.toNat_lt]

end Ipv4

/-! ## IPv6 -/

namespace Ipv6

/-- A group has one to four hexadecimal digits. -/
def readGroup? (cs : List Char) : Option UInt16 :=
  if cs.length ≤ 4 then (readDigits? 16 cs).map UInt16.ofNat else none

/-- The end of a list of groups is one group. -/
def readPlainEnd? (cs : List Char) : Option (List UInt16) := (readGroup? cs).map ([·])

/-- At the end of an address an IPv4 address may stand for the last two groups. -/
def readLastEnd? (cs : List Char) : Option (List UInt16) :=
  ((Ipv4.read? cs).map Ipv4.words).or (readPlainEnd? cs)

def readPieces? (readEnd? : List Char → Option (List UInt16)) :
    List (List Char) → Option (List UInt16)
  | [] => none
  | [p] => readEnd? p
  | p :: ps => do return (← readGroup? p) :: (← readPieces? readEnd? ps)

/-- Groups with colons between them. -/
def readGroups? (readEnd? : List Char → Option (List UInt16)) (cs : List Char) :
    Option (List UInt16) :=
  readPieces? readEnd? (cs.splitOn ':')

/-- What stands on one side of a gap: groups, or nothing at all. -/
def readSide? (readEnd? : List Char → Option (List UInt16)) (cs : List Char) :
    Option (List UInt16) :=
  if cs = [] then some [] else readGroups? readEnd? cs

/-- What stands before and behind the first `::`. -/
def splitAtGap? : List Char → Option (List Char × List Char)
  | [] => none
  | [_] => none
  | c :: d :: cs =>
    if c = ':' ∧ d = ':' then some ([], cs)
    else (splitAtGap? (d :: cs)).map fun (before, after) => (c :: before, after)

/-- The gap `::` stands for at least one zero group. -/
def fillGap? (head tail : List UInt16) : Option Ipv6 :=
  if head.length + tail.length < 8 then
    ofGroups? (head ++ List.replicate (8 - (head.length + tail.length)) 0 ++ tail)
  else none

def read? (cs : List Char) : Option Ipv6 :=
  match splitAtGap? cs with
  | none => (readGroups? readLastEnd? cs).bind ofGroups?
  | some (before, after) => do
    fillGap? (← readSide? readPlainEnd? before) (← readSide? readLastEnd? after)

theorem readGroup?_toDigits (g : UInt16) : readGroup? (Nat.toDigits 16 g.toNat) = some g := by
  have hlength : (Nat.toDigits 16 g.toNat).length ≤ 4 :=
    (Nat.length_toDigits_le_iff (by decide) (by decide)).2 g.toNat_lt
  simp [readGroup?, hlength, readDigits?_toDigits (show 1 < 16 by decide) (Nat.le_refl 16)]

end Ipv6

/-! ## Either family -/

namespace Ip

def read? (cs : List Char) : Option Ip :=
  ((Ipv4.read? cs).map Ip.v4).or ((Ipv6.read? cs).map Ip.v6)

def ofText? (text : String) : Option Ip := read? text.toList

end Ip
end Egress
