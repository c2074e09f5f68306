import Mathlib.Algebra.Order.Ring.Nat

/-!
# Naturals as binary64 numbers

Rounding a natural to a 53-bit significand, to nearest with ties to even. Naturals up to `2 ^ 53`
are exact, and nothing larger rounds below that. An integer rounds by its magnitude.
-/

namespace Binary64

/-- The first natural past which not every natural is representable. -/
def exactBound : Nat := 2 ^ 53

/-- The representable natural nearest to a natural, ties to even. -/
def round (value : Nat) : Nat :=
  if value ≤ exactBound then value
  else
    let unit := 2 ^ (Nat.log2 value - 52)
    let quotient := value / unit
    let remainder := value % unit
    if unit < 2 * remainder ∨ (unit = 2 * remainder ∧ quotient % 2 = 1) then (quotient + 1) * unit
    else quotient * unit

/-- Naturals up to the bound are exact. -/
theorem round_of_le {value : Nat} (small : value ≤ exactBound) : round value = value := by
  unfold round
  rw [if_pos small]

/-- Nothing above the bound rounds below it. -/
theorem exactBound_le_round {value : Nat} (large : exactBound ≤ value) :
    exactBound ≤ round value := by
  unfold round
  by_cases small : value ≤ exactBound
  · rw [if_pos small]
    exact large
  rw [if_neg small]
  dsimp only
  have positive : value ≠ 0 := by
    unfold exactBound at large
    omega
  have magnitude : 53 ≤ Nat.log2 value := (Nat.le_log2 positive).mpr large
  have floor : exactBound ≤ value / 2 ^ (Nat.log2 value - 52) * 2 ^ (Nat.log2 value - 52) := by
    have whole : 2 ^ 52 * 2 ^ (Nat.log2 value - 52) ≤ value := by
      rw [← Nat.pow_add, Nat.add_sub_cancel' (by omega)]
      exact Nat.log2_self_le positive
    have significand : 2 ^ 52 ≤ value / 2 ^ (Nat.log2 value - 52) :=
      (Nat.le_div_iff_mul_le (Nat.two_pow_pos _)).mpr whole
    have unit : 2 ≤ 2 ^ (Nat.log2 value - 52) := by
      calc
        2 = 2 ^ 1 := rfl
        _ ≤ 2 ^ (Nat.log2 value - 52) := Nat.pow_le_pow_right (by decide) (by omega)
    calc
      exactBound = 2 ^ 52 * 2 := rfl
      _ ≤ value / 2 ^ (Nat.log2 value - 52) * 2 ^ (Nat.log2 value - 52) :=
        Nat.mul_le_mul significand unit
  split
  · exact floor.trans (Nat.mul_le_mul_right _ (Nat.le_succ _))
  · exact floor

/-- Only zero rounds to zero. -/
theorem round_eq_zero {value : Nat} : round value = 0 ↔ value = 0 := by
  by_cases small : value ≤ exactBound
  · rw [round_of_le small]
  · have large := exactBound_le_round (show exactBound ≤ value by omega)
    unfold exactBound at small large
    omega

/-- The representable integer nearest to an integer, ties to even. -/
def roundInt (value : Int) : Int := value.sign * round value.natAbs

/-- A natural rounds alike as an integer. -/
theorem roundInt_natCast (value : Nat) : roundInt value = round value := by
  unfold roundInt
  rw [Int.natAbs_natCast]
  by_cases zero : value = 0
  · subst zero
    rfl
  · have positive : (value : Int).sign = 1 := Int.sign_eq_one_of_pos (by omega)
    rw [positive, Int.one_mul]

/-- Rounding keeps the sign. -/
theorem roundInt_pos {value : Int} : 0 < roundInt value ↔ 0 < value := by
  constructor
  · intro rounded
    by_contra nonpositive
    have sign : value.sign ≤ 0 := Int.sign_nonpos_iff.mpr (by omega)
    have magnitude : (0 : Int) ≤ round value.natAbs := Int.natCast_nonneg _
    have product : roundInt value ≤ 0 := Int.mul_nonpos_of_nonpos_of_nonneg sign magnitude
    omega
  · intro positive
    lift value to Nat using by omega
    have nonzero := mt (@round_eq_zero value).mp (by omega)
    rw [roundInt_natCast]
    omega

/-- A rounded sum stays under a limit below the bound exactly when the exact sum does. -/
theorem round_sum_le_iff {left right limit : Nat} (exact : limit < exactBound) :
    round (round left + round right) ≤ round limit ↔ left + right ≤ limit := by
  rw [round_of_le (Nat.le_of_lt exact)]
  have above : ∀ value, exactBound ≤ value → limit < round value := fun value large =>
    Nat.lt_of_lt_of_le exact (exactBound_le_round large)
  by_cases leftSmall : left ≤ exactBound
  · by_cases rightSmall : right ≤ exactBound
    · rw [round_of_le leftSmall, round_of_le rightSmall]
      by_cases sumSmall : left + right ≤ exactBound
      · rw [round_of_le sumSmall]
      · have exceeded := above (left + right) (by omega)
        omega
    · have large := exactBound_le_round (show exactBound ≤ right by omega)
      have exceeded := above (round left + round right) (by omega)
      omega
  · have large := exactBound_le_round (show exactBound ≤ left by omega)
    have exceeded := above (round left + round right) (by omega)
    omega

end Binary64
