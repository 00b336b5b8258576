/-!
# Numbers in digits

Reading numbers in any base up to sixteen. Main statement: the digits that `Nat.toDigits` writes
read back as the number they were written for.
-/

namespace Egress
namespace Text

/-! ## One digit -/

/-- Letters count in either case. -/
def digitValue? (c : Char) : Option Nat :=
  if c.isDigit then some (c.toNat - 48)
  else if 'a' ≤ c ∧ c ≤ 'f' then some (c.toNat - 87)
  else if 'A' ≤ c ∧ c ≤ 'F' then some (c.toNat - 55)
  else none

theorem digitValue?_digitChar {d : Nat} (hd : d < 16) :
    digitValue? d.digitChar = some d := by
  have hall : ∀ d : Fin 16, digitValue? d.val.digitChar = some d.val := by decide
  exact hall ⟨d, hd⟩

/-! ## Whole numbers -/

/-- The number that a number `n` becomes when the digit `c` is written behind it. -/
def pushDigit? (base n : Nat) (c : Char) : Option Nat :=
  (digitValue? c).bind fun d => if d < base then some (base * n + d) else none

/-- A text of at least one digit, and of nothing else, is a number. Leading zeros are allowed. -/
def readDigits? (base : Nat) : List Char → Option Nat
  | [] => none
  | c :: cs => (c :: cs).foldlM (pushDigit? base) 0

theorem pushDigit?_digitChar {base n d : Nat} (hbase : base ≤ 16) (hd : d < base) :
    pushDigit? base n d.digitChar = some (base * n + d) := by
  simp [pushDigit?, digitValue?_digitChar (Nat.lt_of_lt_of_le hd hbase), hd]

theorem foldlM_pushDigit?_toDigits {base : Nat} (hone : 1 < base) (hbase : base ≤ 16) (n : Nat) :
    (Nat.toDigits base n).foldlM (pushDigit? base) 0 = some n := by
  induction n using Nat.strongRecOn with
  | ind n ih =>
    rcases Nat.lt_or_ge n base with hlt | hge
    · simp [Nat.toDigits_of_lt_base hlt, pushDigit?_digitChar hbase hlt]
    · have hpos : 0 < base := by omega
      have hmod : n % base < base := Nat.mod_lt n hpos
      rw [Nat.toDigits_of_base_le hone hge, List.foldlM_append,
        ih (n / base) (Nat.div_lt_self (by omega) hone)]
      simp [pushDigit?_digitChar hbase hmod, Nat.div_add_mod]

/-- Written digits read back. -/
theorem readDigits?_toDigits {base : Nat} (hone : 1 < base) (hbase : base ≤ 16) (n : Nat) :
    readDigits? base (Nat.toDigits base n) = some n := by
  have hread := foldlM_pushDigit?_toDigits hone hbase n
  revert hread
  cases h : Nat.toDigits base n with
  | nil => exact absurd h Nat.toDigits_ne_nil
  | cons c cs => exact id

end Text
end Egress
