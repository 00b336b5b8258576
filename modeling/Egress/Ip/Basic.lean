/-!
# IP addresses

Addresses of both families. An IPv4 address also has an IPv6 form, `::ffff:a.b.c.d`; `canonical`
takes that form back to the IPv4 address.
-/

namespace Egress

/-! ## The two families -/

inductive Family
  | v4
  | v6
  deriving DecidableEq, Repr, Inhabited

structure Ipv4 where
  a : UInt8
  b : UInt8
  c : UInt8
  d : UInt8
  deriving DecidableEq, Repr, Inhabited

structure Ipv6 where
  groups : List UInt16
  length_groups : groups.length = 8 := by rfl
  deriving DecidableEq, Repr

inductive Ip
  | v4 (ip : Ipv4)
  | v6 (ip : Ipv6)
  deriving DecidableEq, Repr

/-! ## IPv4 -/

namespace Ipv4

def unspecified : Ipv4 := ⟨0, 0, 0, 0⟩

def octets (ip : Ipv4) : List UInt8 := [ip.a, ip.b, ip.c, ip.d]

/-- The number whose high and low octet are given. -/
def word (high low : UInt8) : UInt16 := UInt16.ofNat (256 * high.toNat + low.toNat)

/-- The address as two groups of an IPv6 address. -/
def words (ip : Ipv4) : List UInt16 := [word ip.a ip.b, word ip.c ip.d]

def ofWords (g h : UInt16) : Ipv4 where
  a := UInt8.ofNat (g.toNat / 256)
  b := UInt8.ofNat (g.toNat % 256)
  c := UInt8.ofNat (h.toNat / 256)
  d := UInt8.ofNat (h.toNat % 256)

theorem toNat_word (high low : UInt8) : (word high low).toNat = 256 * high.toNat + low.toNat := by
  have hhigh := high.toNat_lt
  have hlow := low.toNat_lt
  rw [word, UInt16.toNat_ofNat']
  omega

theorem ofWords_word (ip : Ipv4) : ofWords (word ip.a ip.b) (word ip.c ip.d) = ip := by
  have ha := ip.a.toNat_lt
  have hb := ip.b.toNat_lt
  have hc := ip.c.toNat_lt
  have hd := ip.d.toNat_lt
  have hhigh : ∀ m n : Nat, n < 256 → (256 * m + n) / 256 = m := by omega
  have hlow : ∀ m n : Nat, n < 256 → (256 * m + n) % 256 = n := by omega
  cases ip
  simp [ofWords, toNat_word, hhigh, hlow, hb, hd]

theorem words_ofWords (g h : UInt16) : (ofWords g h).words = [g, h] := by
  have hword : ∀ w : UInt16,
      word (UInt8.ofNat (w.toNat / 256)) (UInt8.ofNat (w.toNat % 256)) = w := by
    intro w
    have hw := w.toNat_lt
    apply UInt16.toNat_inj.1
    rw [toNat_word, UInt8.toNat_ofNat', UInt8.toNat_ofNat']
    omega
  simp [words, ofWords, hword]

end Ipv4

/-! ## IPv6 -/

namespace Ipv6

def unspecified : Ipv6 := ⟨[0, 0, 0, 0, 0, 0, 0, 0], rfl⟩

instance : Inhabited Ipv6 := ⟨unspecified⟩

def ofGroups? (gs : List UInt16) : Option Ipv6 :=
  if h : gs.length = 8 then some ⟨gs, h⟩ else none

/-- The IPv6 form of an IPv4 address. -/
def ofIpv4 (ip : Ipv4) : Ipv6 := ⟨[0, 0, 0, 0, 0, 0xffff] ++ ip.words, rfl⟩

/-- The IPv4 address whose IPv6 form this is. -/
def embedded? (ip : Ipv6) : Option Ipv4 :=
  match ip.groups with
  | [0, 0, 0, 0, 0, 0xffff, g, h] => some (Ipv4.ofWords g h)
  | _ => none

theorem ofGroups?_groups (ip : Ipv6) : ofGroups? ip.groups = some ip := by
  simp [ofGroups?, ip.length_groups]

theorem embedded?_ofIpv4 (ip : Ipv4) : (ofIpv4 ip).embedded? = some ip := by
  simp [ofIpv4, embedded?, Ipv4.words, Ipv4.ofWords_word]

theorem eq_ofIpv4_of_embedded? {ip : Ipv6} {small : Ipv4} (h : ip.embedded? = some small) :
    ip = ofIpv4 small := by
  rcases ip with ⟨gs, hgs⟩
  simp only [embedded?] at h
  split at h
  · cases h
    simp [ofIpv4, Ipv4.words_ofWords]
  · contradiction

theorem embedded?_eq_some_iff {ip : Ipv6} {small : Ipv4} :
    ip.embedded? = some small ↔ ip = ofIpv4 small :=
  ⟨eq_ofIpv4_of_embedded?, fun h => h ▸ embedded?_ofIpv4 small⟩

end Ipv6

/-! ## Either family -/

namespace Ip

instance : Inhabited Ip := ⟨.v4 Ipv4.unspecified⟩

def family : Ip → Family
  | .v4 _ => .v4
  | .v6 _ => .v6

/-- Bits in an address of the family. -/
def width : Family → Nat
  | .v4 => 32
  | .v6 => 128

def unspecified : Family → Ip
  | .v4 => .v4 Ipv4.unspecified
  | .v6 => .v6 Ipv6.unspecified

def isUnspecified (ip : Ip) : Bool :=
  ip = unspecified ip.family

/-- The IPv4 address itself in place of its IPv6 form, and any other address as it is. -/
def canonical : Ip → Ip
  | .v4 ip => .v4 ip
  | .v6 ip => (ip.embedded?.map Ip.v4).getD (.v6 ip)

theorem canonical_ofIpv4 (ip : Ipv4) : canonical (.v6 (.ofIpv4 ip)) = .v4 ip := by
  simp [canonical, Ipv6.embedded?_ofIpv4]

theorem canonical_canonical (ip : Ip) : ip.canonical.canonical = ip.canonical := by
  cases ip with
  | v4 ip => rfl
  | v6 ip => cases h : ip.embedded? <;> simp [canonical, h]

end Ip
end Egress
