import Egress.Ip.Basic

/-!
# Writing IP addresses

An IPv4 address is four decimal numbers. An IPv6 address is its groups in lower case, without
leading zeros, with the first of its longest runs of at least two zero groups written as `::`;
only the IPv6 form of an IPv4 address ends in dotted numbers.
-/

namespace Egress

namespace Ipv4

def chars (ip : Ipv4) : List Char :=
  ['.'].intercalate (ip.octets.map fun o => Nat.toDigits 10 o.toNat)

end Ipv4

namespace Ipv6

/-! ## Runs of zero groups -/

/-- Length of the run of zero groups that a list starts with. -/
def leadingZeros (gs : List UInt16) : Nat := (gs.takeWhile (· == 0)).length

/-- Start and length of the first of the longest runs of zero groups. -/
def zeroRun : List UInt16 → Nat × Nat
  | [] => (0, 0)
  | g :: gs =>
    let (start, size) := zeroRun gs
    let here := leadingZeros (g :: gs)
    if size ≤ here then (0, here) else (start + 1, size)

theorem eq_replicate_leadingZeros_append (gs : List UInt16) :
    gs = List.replicate (leadingZeros gs) 0 ++ gs.drop (leadingZeros gs) := by
  induction gs with
  | nil => rfl
  | cons g gs ih =>
    by_cases hg : g = 0
    · subst hg
      have hsucc : leadingZeros (0 :: gs) = leadingZeros gs + 1 := by simp [leadingZeros]
      rw [hsucc, List.replicate_succ, List.drop_succ_cons, List.cons_append, ← ih]
    · have hzero : leadingZeros (g :: gs) = 0 := by simp [leadingZeros, hg]
      rw [hzero]
      rfl

/-- What lies between the head and the tail around the run is zeros only. -/
theorem eq_take_append_replicate_append_drop (gs : List UInt16) :
    gs = gs.take (zeroRun gs).1 ++ List.replicate (zeroRun gs).2 0 ++
      gs.drop ((zeroRun gs).1 + (zeroRun gs).2) := by
  induction gs with
  | nil => rfl
  | cons g gs ih =>
    by_cases h : (zeroRun gs).2 ≤ leadingZeros (g :: gs)
    · simpa [zeroRun, h] using eq_replicate_leadingZeros_append (g :: gs)
    · have hsplit : (zeroRun gs).1 + 1 + (zeroRun gs).2 =
          (zeroRun gs).1 + (zeroRun gs).2 + 1 := by omega
      simp only [zeroRun, h, if_false, List.take_succ_cons, hsplit, List.drop_succ_cons,
        List.cons_append]
      rw [← ih]

/-! ## Text -/

/-- Groups in hexadecimal with colons between them. -/
def joinGroups (gs : List UInt16) : List Char :=
  [':'].intercalate (gs.map fun g => Nat.toDigits 16 g.toNat)

/-- The groups with their run of zeros left out, if there is one to leave out. -/
def compressed (gs : List UInt16) : List Char :=
  let (start, size) := zeroRun gs
  if size < 2 then joinGroups gs
  else joinGroups (gs.take start) ++ [':', ':'] ++ joinGroups (gs.drop (start + size))

def chars (ip : Ipv6) : List Char :=
  match ip.embedded? with
  | some small => "::ffff:".toList ++ small.chars
  | none => compressed ip.groups

end Ipv6

namespace Ip

def chars : Ip → List Char
  | .v4 ip => ip.chars
  | .v6 ip => ip.chars

def text (ip : Ip) : String := String.ofList ip.chars

theorem toList_text (ip : Ip) : ip.text.toList = ip.chars := String.toList_ofList

end Ip
end Egress
