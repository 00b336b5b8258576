import Egress.Ip.Basic
import Egress.Text.Numeral

/-!
# The grammar of IP addresses

Which texts are addresses, said by how a text is put together and not by how it is cut.
-/

namespace Egress

open Text

/-! ## IPv4 -/

namespace Ipv4

/-- A decimal number up to 255 without leading zeros. -/
def Octet (cs : List Char) (o : UInt8) : Prop := Numeral 10 cs o.toNat ∧ NoLeadingZero cs

inductive Written : List Char → Ipv4 → Prop
  | dotted {a b c d : List Char} {ip : Ipv4} :
      Octet a ip.a → Octet b ip.b → Octet c ip.c → Octet d ip.d →
      Written (a ++ '.' :: (b ++ '.' :: (c ++ '.' :: d))) ip

theorem Octet.not_mem {x : Char} {cs : List Char} {o : UInt8} (hx : digitValue? x = none)
    (h : Octet cs o) : x ∉ cs :=
  h.1.not_mem (by decide) hx

theorem octet_iff {cs : List Char} {o : UInt8} : Octet cs o ↔ cs = Nat.toDigits 10 o.toNat :=
  numeral_and_noLeadingZero_iff

namespace Written

variable {cs : List Char} {ip : Ipv4}

theorem dot_mem (h : Written cs ip) : '.' ∈ cs := by
  cases h
  simp

/-- Dots are the only characters besides digits. -/
theorem not_mem {x : Char} (hx : digitValue? x = none) (hdot : x ≠ '.') (h : Written cs ip) :
    x ∉ cs := by
  cases h with
  | dotted ha hb hc hd => simp [ha.not_mem hx, hb.not_mem hx, hc.not_mem hx, hd.not_mem hx, hdot]

end Written
end Ipv4

/-! ## IPv6 -/

namespace Ipv6

/-- One to four hexadecimal digits. -/
def Group (cs : List Char) (g : UInt16) : Prop := Numeral 16 cs g.toNat ∧ cs.length ≤ 4

/-- One group, as any list of groups may end. -/
inductive PlainEnd : List Char → List UInt16 → Prop
  | group {cs : List Char} {g : UInt16} : Group cs g → PlainEnd cs [g]

/-- One group or an IPv4 address, as a list of groups may end at the end of an address. -/
inductive LastEnd : List Char → List UInt16 → Prop
  | group {cs : List Char} {g : UInt16} : Group cs g → LastEnd cs [g]
  | dotted {cs : List Char} {ip : Ipv4} : Ipv4.Written cs ip → LastEnd cs ip.words

/-- Groups with colons between them, with an end of the given kind. -/
inductive Groups (End : List Char → List UInt16 → Prop) : List Char → List UInt16 → Prop
  | last {cs : List Char} {gs : List UInt16} : End cs gs → Groups End cs gs
  | cons {p cs : List Char} {g : UInt16} {gs : List UInt16} :
      Group p g → Groups End cs gs → Groups End (p ++ ':' :: cs) (g :: gs)

/-- What may stand on one side of a gap: groups, or nothing at all. -/
inductive Side (End : List Char → List UInt16 → Prop) : List Char → List UInt16 → Prop
  | empty : Side End [] []
  | groups {cs : List Char} {gs : List UInt16} : Groups End cs gs → Side End cs gs

/-- Eight groups, or fewer with one gap `::` in place of all the groups that are missing. -/
inductive Written : List Char → Ipv6 → Prop
  | full {cs : List Char} {ip : Ipv6} : Groups LastEnd cs ip.groups → Written cs ip
  | gap {before after : List Char} {head tail : List UInt16} {missing : Nat} {ip : Ipv6} :
      Side PlainEnd before head → Side LastEnd after tail → 0 < missing →
      ip.groups = head ++ List.replicate missing 0 ++ tail →
      Written (before ++ ':' :: ':' :: after) ip

theorem Group.not_mem {x : Char} {cs : List Char} {g : UInt16} (hx : digitValue? x = none)
    (h : Group cs g) : x ∉ cs :=
  h.1.not_mem (Nat.le_refl 16) hx

/-! ### Characters of an address -/

theorem Groups.not_mem {End : List Char → List UInt16 → Prop} {x : Char} {cs : List Char}
    {gs : List UInt16} (hend : ∀ {cs gs}, End cs gs → x ∉ cs) (hx : digitValue? x = none)
    (hcolon : x ≠ ':') (h : Groups End cs gs) : x ∉ cs := by
  induction h with
  | last h => exact hend h
  | cons hg _ ih => simp [hg.not_mem hx, hcolon, ih]

theorem PlainEnd.not_mem {x : Char} {cs : List Char} {gs : List UInt16}
    (hx : digitValue? x = none) (h : PlainEnd cs gs) : x ∉ cs := by
  rcases h with ⟨hg⟩
  exact hg.not_mem hx

theorem LastEnd.not_mem {x : Char} {cs : List Char} {gs : List UInt16}
    (hx : digitValue? x = none) (hdot : x ≠ '.') (h : LastEnd cs gs) : x ∉ cs := by
  rcases h with hg | hip
  · exact hg.not_mem hx
  · exact hip.not_mem hx hdot

theorem Side.not_mem {End : List Char → List UInt16 → Prop} {x : Char} {cs : List Char}
    {gs : List UInt16} (hend : ∀ {cs gs}, End cs gs → x ∉ cs) (hx : digitValue? x = none)
    (hcolon : x ≠ ':') (h : Side End cs gs) : x ∉ cs := by
  rcases h with _ | h
  · simp
  · exact h.not_mem hend hx hcolon

/-- Colons and dots are the only characters besides digits. -/
theorem Written.not_mem {x : Char} {cs : List Char} {ip : Ipv6} (hx : digitValue? x = none)
    (hdot : x ≠ '.') (hcolon : x ≠ ':') (h : Written cs ip) : x ∉ cs := by
  cases h with
  | full h => exact h.not_mem (fun hend => hend.not_mem hx hdot) hx hcolon
  | gap hhead htail =>
    have hbefore := hhead.not_mem (fun hend => hend.not_mem hx) hx hcolon
    have hafter := htail.not_mem (fun hend => hend.not_mem hx hdot) hx hcolon
    simp [hbefore, hafter, hcolon]

theorem Groups.colon_mem {cs : List Char} {gs : List UInt16} (h : Groups LastEnd cs gs)
    (hlength : 2 < gs.length) : ':' ∈ cs := by
  cases h with
  | last h => rcases h with _ | _ <;> simp [Ipv4.words] at hlength
  | cons => simp

theorem Written.colon_mem {cs : List Char} {ip : Ipv6} (h : Written cs ip) : ':' ∈ cs := by
  cases h with
  | full h => exact h.colon_mem (by simp [ip.length_groups])
  | gap => simp

end Ipv6

/-! ## Either family -/

namespace Ip

inductive Written : List Char → Ip → Prop
  | v4 {cs : List Char} {ip : Ipv4} : Ipv4.Written cs ip → Written cs (.v4 ip)
  | v6 {cs : List Char} {ip : Ipv6} : Ipv6.Written cs ip → Written cs (.v6 ip)

theorem Written.not_mem {x : Char} {cs : List Char} {ip : Ip} (hx : digitValue? x = none)
    (hdot : x ≠ '.') (hcolon : x ≠ ':') (h : Written cs ip) : x ∉ cs := by
  rcases h with h | h
  · exact h.not_mem hx hdot
  · exact h.not_mem hx hdot hcolon

end Ip
end Egress
