import Egress.Ip.Basic

/-!
# Network masks

A mask is an address whose leading bits tell which part of another address names its network. The
number of those bits is the length of the mask. Main statements: the mask that is built for a length
has this length, as far as the address has room for it; and a mask with a gap has none.
-/

namespace Egress

/-! ## Bits -/

/-- The lowest `width` bits of a number, the highest of them first. -/
def bitsOf (width n : Nat) : List Bool :=
  (List.range width).reverse.map n.testBit

theorem length_bitsOf (width n : Nat) : (bitsOf width n).length = width := by
  simp [bitsOf]

theorem getElem_bitsOf {width n i : Nat} (h : i < (bitsOf width n).length) :
    (bitsOf width n)[i] = n.testBit (width - 1 - i) := by
  simp [bitsOf]

namespace Ip

def bits : Ip → List Bool
  | .v4 ip => ip.octets.flatMap fun o => bitsOf 8 o.toNat
  | .v6 ip => ip.groups.flatMap fun g => bitsOf 16 g.toNat

/-- The number of leading ones. A mask with a one behind a zero counts as a mask without ones. -/
def maskLength (mask : Ip) : Nat :=
  let ones := mask.bits.takeWhile id
  let rest := mask.bits.dropWhile id
  if rest.contains true then 0 else ones.length

/-! ## Building a mask -/

/-- A word of `width` bits that starts with `ones` ones. -/
def maskWord (width ones : Nat) : Nat :=
  1 <<< width - 1 <<< (width - ones)

/-- The mask of the family with `length` leading ones, or with ones only if there is no room for
them. -/
def mask (family : Family) (length : Nat) : Ip :=
  match family with
  | .v4 =>
    let octet (start : Nat) := UInt8.ofNat (maskWord 8 (length - start))
    .v4 ⟨octet 0, octet 8, octet 16, octet 24⟩
  | .v6 =>
    let group (start : Nat) := UInt16.ofNat (maskWord 16 (length - start))
    .v6 ⟨[group 0, group 16, group 32, group 48, group 64, group 80, group 96, group 112], rfl⟩

/-! ## The bits of a mask -/

theorem maskWord_lt (width ones : Nat) : maskWord width ones < 1 <<< width := by
  have hwidth := Nat.two_pow_pos width
  have hzeros := Nat.two_pow_pos (width - ones)
  rw [maskWord, Nat.shiftLeft_eq, Nat.shiftLeft_eq]
  omega

theorem testBit_maskWord {width ones i : Nat} :
    (maskWord width ones).testBit i = (decide (i < width) && decide (width - ones ≤ i)) := by
  have hle : 2 ^ (width - ones) ≤ 2 ^ width := Nat.pow_le_pow_right (by decide) (by omega)
  have hpos := Nat.two_pow_pos (width - ones)
  -- All bits of the word, less those of the zeros at its end.
  have hword : maskWord width ones = 2 ^ width - (2 ^ (width - ones) - 1 + 1) := by
    rw [maskWord, Nat.shiftLeft_eq, Nat.shiftLeft_eq]
    omega
  rw [hword, Nat.testBit_two_pow_sub_succ (by omega), Nat.testBit_two_pow_sub_one,
    ← decide_not, decide_eq_decide.2 Nat.not_lt]

theorem bitsOf_maskWord (width ones : Nat) : bitsOf width (maskWord width ones) =
    List.replicate (min ones width) true ++ List.replicate (width - ones) false := by
  refine List.ext_getElem ?_ fun i hi _ => ?_
  · rw [length_bitsOf, List.length_append, List.length_replicate, List.length_replicate]
    omega
  · rw [length_bitsOf] at hi
    rw [getElem_bitsOf, testBit_maskWord, List.getElem_append]
    simp only [List.length_replicate, List.getElem_replicate]
    split
    · rw [decide_eq_true (by omega), decide_eq_true (by omega)]
      rfl
    · rw [decide_eq_false (by omega : ¬width - ones ≤ width - 1 - i), Bool.and_false]

/-- Words that share out the ones between them, each as many as there is room for. -/
theorem flatMap_bitsOf_maskWord (width ones count : Nat) :
    ((List.range count).flatMap fun k => bitsOf width (maskWord width (ones - width * k))) =
      List.replicate (min ones (width * count)) true ++
        List.replicate (width * count - ones) false := by
  induction count with
  | zero => simp
  | succ count ih =>
    rw [List.range_succ, List.flatMap_append, ih, List.flatMap_singleton, bitsOf_maskWord,
      Nat.mul_succ]
    rcases Nat.le_total ones (width * count) with h | h
    · -- The ones came to an end before the last word.
      have hnone : ones - width * count = 0 := by omega
      have hmin : min ones (width * count + width) = min ones (width * count) := by omega
      have hzeros : width * count + width - ones = width * count - ones + width := by omega
      rw [hnone, hmin, hzeros, ← List.replicate_append_replicate, Nat.zero_min, Nat.sub_zero,
        List.append_assoc, List.replicate_zero, List.nil_append]
    · -- There is no zero before the last word.
      have hnone : width * count - ones = 0 := by omega
      have hmin : min ones (width * count + width) =
          min ones (width * count) + min (ones - width * count) width := by omega
      have hzeros : width * count + width - ones = width - (ones - width * count) := by omega
      rw [hnone, hmin, hzeros, ← List.replicate_append_replicate, List.replicate_zero,
        List.append_nil, List.append_assoc]

theorem bits_mask (family : Family) (length : Nat) : (mask family length).bits =
    List.replicate (min length (width family)) true ++
      List.replicate (width family - length) false := by
  cases family with
  | v4 =>
    have hoctet : ∀ start, (UInt8.ofNat (maskWord 8 (length - start))).toNat =
        maskWord 8 (length - start) :=
      fun start => UInt8.toNat_ofNat_of_lt' (maskWord_lt 8 _)
    rw [show width .v4 = 8 * 4 from rfl, ← flatMap_bitsOf_maskWord]
    simp only [mask, bits, Ipv4.octets, List.flatMap_cons, List.flatMap_nil, hoctet]
    rfl
  | v6 =>
    have hgroup : ∀ start, (UInt16.ofNat (maskWord 16 (length - start))).toNat =
        maskWord 16 (length - start) :=
      fun start => UInt16.toNat_ofNat_of_lt' (maskWord_lt 16 _)
    rw [show width .v6 = 16 * 8 from rfl, ← flatMap_bitsOf_maskWord]
    simp only [mask, bits, List.flatMap_cons, List.flatMap_nil, hgroup]
    rfl

/-! ## The length of a mask -/

theorem maskLength_of_leading {ip : Ip} {ones zeros : Nat}
    (h : ip.bits = List.replicate ones true ++ List.replicate zeros false) :
    ip.maskLength = ones := by
  have htake : (List.replicate zeros false).takeWhile id = [] := by cases zeros <;> rfl
  have hdrop : (List.replicate zeros false).dropWhile id = List.replicate zeros false := by
    cases zeros <;> rfl
  simp [maskLength, h, htake, hdrop]

/-- A mask with a one behind a zero has no length of its own. -/
theorem maskLength_of_gap {ip : Ip} {before after : List Bool}
    (h : ip.bits = before ++ false :: after) (hone : true ∈ after) : ip.maskLength = 0 := by
  have hrest : true ∈ (before ++ false :: after).dropWhile id := by
    -- The leading ones end at the gap, or even before it.
    clear h
    induction before with
    | nil => exact List.mem_cons_of_mem false hone
    | cons b before ih =>
      cases b with
      | true => exact ih
      | false => exact List.mem_append_right (false :: before) (List.mem_cons_of_mem false hone)
  rw [← h] at hrest
  simp [maskLength, hrest]

/-- A mask that is built for a length has this length, or is as long as the addresses are. -/
theorem maskLength_mask (family : Family) (length : Nat) :
    (mask family length).maskLength = min length (width family) :=
  maskLength_of_leading (bits_mask family length)

end Ip
end Egress
