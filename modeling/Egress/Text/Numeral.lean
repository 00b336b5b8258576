import Egress.Text.Digits

/-!
# Numerals

Which texts are numbers in a base, said without reading them from left to right. Main statements:
`readDigits?` reads exactly the numerals, and a decimal numeral without leading zeros is the one
that `Nat.toDigits` writes.
-/

namespace Egress
namespace Text

/-- A digit of the base, where a letter may stand in either case. -/
def IsDigit (base : Nat) (c : Char) (d : Nat) : Prop :=
  d < base ∧ (c = d.digitChar ∨ c = d.digitChar.toUpper)

/-- At least one digit; each further digit makes the number before it count `base` times. -/
inductive Numeral (base : Nat) : List Char → Nat → Prop
  | digit {c : Char} {d : Nat} : IsDigit base c d → Numeral base [c] d
  | push {cs : List Char} {c : Char} {n d : Nat} :
      Numeral base cs n → IsDigit base c d → Numeral base (cs ++ [c]) (base * n + d)

/-- Only the numeral of zero itself starts with the digit zero. -/
def NoLeadingZero (cs : List Char) : Prop := cs.head? = some '0' → cs = ['0']

/-! ## Digits -/

theorem toNat_of_digitValue? {c : Char} {d : Nat} (h : digitValue? c = some d) :
    (d < 10 ∧ c.toNat = d + 48) ∨ (10 ≤ d ∧ d < 16 ∧ (c.toNat = d + 87 ∨ c.toNat = d + 55)) := by
  have hle : ∀ {a b : Char}, a ≤ b → a.toNat ≤ b.toNat := fun hab => by
    simpa [Char.le_def, UInt32.le_iff_toNat_le] using hab
  simp only [digitValue?] at h
  split at h
  · rename_i hc
    cases h
    simp only [Char.isDigit, Bool.and_eq_true, decide_eq_true_eq] at hc
    have hlow : 48 ≤ c.toNat := hle hc.1
    have hhigh : c.toNat ≤ 57 := hle hc.2
    omega
  · split at h
    · rename_i hc
      cases h
      have hlow : 97 ≤ c.toNat := hle hc.1
      have hhigh : c.toNat ≤ 102 := hle hc.2
      omega
    · split at h
      · rename_i hc
        cases h
        have hlow : 65 ≤ c.toNat := hle hc.1
        have hhigh : c.toNat ≤ 70 := hle hc.2
        omega
      · cases h

theorem digitValue?_eq_some_iff {c : Char} {d : Nat} :
    digitValue? c = some d ↔ IsDigit 16 c d := by
  constructor
  · intro h
    have hdecimal : ∀ k : Fin 10, Char.ofNat (k.val + 48) = k.val.digitChar := by decide
    have hlower : ∀ k : Fin 6, Char.ofNat (k.val + 10 + 87) = (k.val + 10).digitChar := by decide
    have hupper : ∀ k : Fin 6, Char.ofNat (k.val + 10 + 55) = (k.val + 10).digitChar.toUpper := by
      decide
    rw [← Char.ofNat_toNat c]
    rcases toNat_of_digitValue? h with ⟨hd, hc⟩ | ⟨hten, hd, hc | hc⟩
    · exact ⟨by omega, .inl (hc ▸ hdecimal ⟨d, hd⟩)⟩
    all_goals obtain ⟨k, rfl⟩ := Nat.exists_eq_add_of_le' hten
    · exact ⟨hd, .inl (hc ▸ hlower ⟨k, by omega⟩)⟩
    · exact ⟨hd, .inr (hc ▸ hupper ⟨k, by omega⟩)⟩
  · rintro ⟨hd, rfl | rfl⟩
    · exact digitValue?_digitChar hd
    · have hall : ∀ k : Fin 16, digitValue? k.val.digitChar.toUpper = some k.val := by decide
      exact hall ⟨d, hd⟩

theorem pushDigit?_eq_some_iff {base n m : Nat} {c : Char} (hbase : base ≤ 16) :
    pushDigit? base n c = some m ↔ ∃ d, IsDigit base c d ∧ m = base * n + d := by
  simp only [pushDigit?, Option.bind_eq_some_iff, digitValue?_eq_some_iff]
  constructor
  · rintro ⟨d, hd, hm⟩
    split at hm
    · rename_i hlt
      exact ⟨d, ⟨hlt, hd.2⟩, (Option.some.inj hm).symm⟩
    · contradiction
  · rintro ⟨d, hd, rfl⟩
    exact ⟨d, ⟨Nat.lt_of_lt_of_le hd.1 hbase, hd.2⟩, by simp [hd.1]⟩

/-! ## Characters of a numeral -/

namespace Numeral

variable {base n : Nat} {cs : List Char}

theorem ne_nil (h : Numeral base cs n) : cs ≠ [] := by
  cases h <;> simp

theorem not_mem {c : Char} (hbase : base ≤ 16) (hc : digitValue? c = none)
    (h : Numeral base cs n) : c ∉ cs := by
  have hdigit : ∀ {x : Char} {d : Nat}, IsDigit base x d → c ≠ x := by
    rintro x d hd rfl
    have hvalue := digitValue?_eq_some_iff.2 ⟨Nat.lt_of_lt_of_le hd.1 hbase, hd.2⟩
    simp [hc] at hvalue
  induction h with
  | digit hd => simpa using hdigit hd
  | push _ hd ih => simpa using ⟨ih, hdigit hd⟩

theorem lt_pow (h : Numeral base cs n) : n < base.pow cs.length := by
  induction h with
  | digit hd => simpa using hd.1
  | @push cs c n d _ hd ih =>
    rw [List.length_append, List.length_singleton]
    calc
      base * n + d < base * n + base := Nat.add_lt_add_left hd.1 _
      _ = base * (n + 1) := (Nat.mul_succ base n).symm
      _ ≤ base * base.pow cs.length := Nat.mul_le_mul_left base ih
      _ = base.pow (cs.length + 1) := Nat.mul_comm ..

end Numeral

/-! ## Numbers -/

theorem foldlM_pushDigit?_append_iff {base m : Nat} {c : Char} (hbase : base ≤ 16)
    (cs : List Char) :
    (cs ++ [c]).foldlM (pushDigit? base) 0 = some m ↔
      ∃ n d, cs.foldlM (pushDigit? base) 0 = some n ∧ IsDigit base c d ∧ m = base * n + d := by
  have hstep : ∀ n, [c].foldlM (pushDigit? base) n = pushDigit? base n c := by
    intro n
    simp
  rw [List.foldlM_append]
  simp only [Option.bind_eq_bind, Option.bind_eq_some_iff, hstep, pushDigit?_eq_some_iff hbase]
  constructor
  · rintro ⟨n, hn, d, hd, hm⟩
    exact ⟨n, d, hn, hd, hm⟩
  · rintro ⟨n, d, hn, hd, hm⟩
    exact ⟨n, hn, d, hd, hm⟩

theorem readDigits?_eq_some_iff_foldlM {base n : Nat} {cs : List Char} :
    readDigits? base cs = some n ↔
      cs ≠ [] ∧ cs.foldlM (pushDigit? base) 0 = some n := by
  cases cs <;> simp [readDigits?]

/-- The texts that are read as numbers are the numerals. -/
theorem readDigits?_eq_some_iff {base n : Nat} {cs : List Char} (hbase : base ≤ 16) :
    readDigits? base cs = some n ↔ Numeral base cs n := by
  rw [readDigits?_eq_some_iff_foldlM]
  constructor
  · rintro ⟨hne, hread⟩
    -- The last digit is the one that was pushed last.
    generalize hlength : cs.length = k
    induction k generalizing cs n with
    | zero => exact absurd (List.length_eq_zero_iff.1 hlength) hne
    | succ k ih =>
      have hsplit := List.dropLast_concat_getLast hne
      rw [← hsplit] at hread ⊢
      obtain ⟨m, d, hm, hd, rfl⟩ := (foldlM_pushDigit?_append_iff hbase _).1 hread
      by_cases hinit : cs.dropLast = []
      · rw [hinit] at hm ⊢
        have hzero : m = 0 := by simpa using hm.symm
        subst hzero
        simpa using Numeral.digit hd
      · exact (ih hinit hm (by simp [hlength])).push hd
  · intro h
    refine ⟨h.ne_nil, ?_⟩
    induction h with
    | digit hd => exact (foldlM_pushDigit?_append_iff hbase []).2 ⟨0, _, rfl, hd, by simp⟩
    | push _ hd ih => exact (foldlM_pushDigit?_append_iff hbase _).2 ⟨_, _, ih, hd, rfl⟩

theorem numeral_toDigits {base : Nat} (hone : 1 < base) (hbase : base ≤ 16) (n : Nat) :
    Numeral base (Nat.toDigits base n) n :=
  (readDigits?_eq_some_iff hbase).1 (readDigits?_toDigits hone hbase n)

/-! ## Decimal numbers without leading zeros -/

theorem eq_digitChar_of_isDigit_ten {c : Char} {d : Nat} (h : IsDigit 10 c d) :
    c = d.digitChar := by
  have hall : ∀ k : Fin 10, k.val.digitChar.toUpper = k.val.digitChar := by decide
  rcases h with ⟨hd, rfl | rfl⟩
  · rfl
  · exact hall ⟨d, hd⟩

theorem noLeadingZero_toDigits (n : Nat) : NoLeadingZero (Nat.toDigits 10 n) := by
  induction n using Nat.strongRecOn with
  | ind n ih =>
    rcases Nat.lt_or_ge n 10 with hlt | hge
    · intro h
      rw [Nat.toDigits_of_lt_base hlt] at h ⊢
      simpa using h
    · intro h
      have hpos : n / 10 ≠ 0 := by omega
      rw [Nat.toDigits_of_base_le (by decide) hge, List.head?_append,
        Option.or_of_isSome (List.isSome_head?.2 Nat.toDigits_ne_nil)] at h
      have hzero := readDigits?_toDigits (show 1 < 10 by decide) (show 10 ≤ 16 by decide) (n / 10)
      rw [ih (n / 10) (Nat.div_lt_self (by omega) (by decide)) h] at hzero
      exact absurd (Option.some.inj hzero).symm hpos

theorem eq_toDigits_of_numeral {cs : List Char} {n : Nat} (h : Numeral 10 cs n)
    (hzero : NoLeadingZero cs) : cs = Nat.toDigits 10 n := by
  induction h with
  | digit hd => rw [Nat.toDigits_of_lt_base hd.1, eq_digitChar_of_isDigit_ten hd]
  | @push cs c n d hcs hd ih =>
    have hhead : cs.head? ≠ some '0' := by
      intro h
      have hlength := congrArg List.length (hzero (by simp [List.head?_append, h]))
      exact hcs.ne_nil (by simpa using hlength)
    have hinit := ih fun h => absurd h hhead
    have hn : n ≠ 0 := by
      rintro rfl
      exact hhead (by rw [hinit]; rfl)
    have hlt := hd.1
    rw [Nat.toDigits_of_base_le (by decide) (by omega), hinit, eq_digitChar_of_isDigit_ten hd]
    congr 1
    · rw [show (10 * n + d) / 10 = n by omega]
    · rw [show (10 * n + d) % 10 = d by omega]

/-- Each number has one decimal numeral without leading zeros. -/
theorem numeral_and_noLeadingZero_iff {cs : List Char} {n : Nat} :
    Numeral 10 cs n ∧ NoLeadingZero cs ↔ cs = Nat.toDigits 10 n := by
  constructor
  · rintro ⟨h, hzero⟩
    exact eq_toDigits_of_numeral h hzero
  · rintro rfl
    exact ⟨numeral_toDigits (by decide) (by decide) n, noLeadingZero_toDigits n⟩

end Text
end Egress
