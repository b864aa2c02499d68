import QueryPlanner.Proofs.Number.Rounding

/-!
# Shortest decimals read back

The number that a decimal is read as depends on the value of the decimal alone, and the shortest
decimal of a magnitude is read as that magnitude again.
-/

namespace QueryPlanner.Number

theorem digitCount_pos (n : Nat) : 0 < digitCount n :=
  Nat.length_toDigits_pos

theorem lt_ten_pow_digitCount (n : Nat) : n < 10 ^ digitCount n :=
  (Nat.length_toDigits_le_iff (by omega) (digitCount_pos n)).mp (le_refl _)

theorem ten_pow_le_of_digitCount {n : Nat} (nonzero : n ≠ 0) : 10 ^ (digitCount n - 1) ≤ n := by
  by_cases single : digitCount n - 1 = 0
  · rw [single]
    omega
  · have longer : ¬digitCount n ≤ digitCount n - 1 := by omega
    exact not_lt.mp
      ((Nat.length_toDigits_le_iff (by omega) (Nat.pos_of_ne_zero single)).not.mp longer)

namespace Decimal

def value (decimal : Decimal) : ℚ :=
  decimal.digits * 10 ^ decimal.exponent

/-- The place after the leading digit of a decimal. -/
def size (decimal : Decimal) : ℤ :=
  decimal.exponent + digitCount decimal.digits

theorem ratio_eq (decimal : Decimal) :
    decimal.ratio =
      if decimal.exponent < 0 then (decimal.digits, 10 ^ decimal.exponent.natAbs)
      else (decimal.digits * 10 ^ decimal.exponent.natAbs, 1) :=
  rfl

theorem ratio_pos (decimal : Decimal) : 0 < decimal.ratio.2 := by
  rw [ratio_eq]
  split
  · positivity
  · exact Nat.one_pos

theorem ratio_value (decimal : Decimal) :
    (decimal.ratio.1 : ℚ) / decimal.ratio.2 = decimal.value := by
  rw [ratio_eq, value]
  split
  next negative =>
    obtain ⟨size, sizeEq⟩ : ∃ size : Nat, decimal.exponent = -size :=
      ⟨decimal.exponent.natAbs, by omega⟩
    rw [sizeEq]
    simp [div_eq_mul_inv]
  next nonnegative =>
    obtain ⟨size, sizeEq⟩ : ∃ size : Nat, decimal.exponent = size :=
      ⟨decimal.exponent.natAbs, by omega⟩
    rw [sizeEq]
    simp

theorem value_eq_zero_iff (decimal : Decimal) : decimal.value = 0 ↔ decimal.digits = 0 := by
  simp [value, zpow_ne_zero]

theorem value_lt_size (decimal : Decimal) : decimal.value < 10 ^ decimal.size := by
  have below : (decimal.digits : ℚ) < 10 ^ digitCount decimal.digits := by
    exact_mod_cast lt_ten_pow_digitCount decimal.digits
  rw [value, size, zpow_add₀ (by norm_num), mul_comm ((10 : ℚ) ^ decimal.exponent), zpow_natCast]
  exact mul_lt_mul_of_pos_right below (by positivity)

theorem size_le_value {decimal : Decimal} (nonzero : decimal.digits ≠ 0) :
    10 ^ (decimal.size - 1) ≤ decimal.value := by
  have above : (10 : ℚ) ^ (digitCount decimal.digits - 1) ≤ decimal.digits := by
    exact_mod_cast ten_pow_le_of_digitCount nonzero
  have split : decimal.size - 1 = ((digitCount decimal.digits - 1 : Nat) : ℤ) +
      decimal.exponent := by
    have positive := digitCount_pos decimal.digits
    unfold size
    omega
  rw [value, split, zpow_add₀ (by norm_num), zpow_natCast]
  exact mul_le_mul_of_nonneg_right above (by positivity)

theorem size_congr {first second : Decimal} (nonzero : first.digits ≠ 0)
    (nonzero' : second.digits ≠ 0) (equal : first.value = second.value) :
    first.size = second.size := by
  have le_of_value {low high : Decimal} (highNonzero : high.digits ≠ 0)
      (equal : high.value = low.value) : high.size ≤ low.size := by
    have powers : (10 : ℚ) ^ (high.size - 1) < 10 ^ low.size :=
      lt_of_le_of_lt (size_le_value highNonzero) (equal ▸ low.value_lt_size)
    have exponents := (zpow_lt_zpow_iff_right₀ (by norm_num)).mp powers
    omega
  exact le_antisymm (le_of_value nonzero equal) (le_of_value nonzero' equal.symm)

/-- The number that a decimal is read as depends on its value alone. -/
theorem toBinary_congr {first second : Decimal} (equal : first.value = second.value)
    (negative : Bool) : first.toBinary negative = second.toBinary negative := by
  by_cases zero : first.digits = 0
  · have zero' : second.digits = 0 := by
      rw [← value_eq_zero_iff, ← equal, value_eq_zero_iff, zero]
    simp [toBinary, zero, zero']
  · have nonzero' : second.digits ≠ 0 := by
      rwa [Ne, ← value_eq_zero_iff, ← equal, value_eq_zero_iff]
    have sizes : first.exponent + digitCount first.digits =
        second.exponent + digitCount second.digits := size_congr zero nonzero' equal
    have rounded := Binary64.ofRatio_congr first.ratio_pos second.ratio_pos negative
      (by rw [ratio_value, ratio_value, equal])
    simp only [toBinary, zero, nonzero', sizes, rounded]

/-- The sign of a decimal is the sign of the number that it is read as. -/
theorem toBinary_eq_finite_iff (decimal : Decimal) (negative : Bool)
    (magnitude : Fin finiteCount) :
    decimal.toBinary negative = .finite negative magnitude ↔
      decimal.toBinary false = .finite false magnitude := by
  simp only [toBinary, Binary64.ofRatio]
  split
  · split <;> simp
  · split
    · simp
    · split <;> simp

end Decimal

namespace Binary64

theorem two_zpow_le_value {magnitude : Fin finiteCount} (nonzero : magnitude.val ≠ 0) :
    2 ^ (-1074 : ℤ) ≤ value magnitude := by
  have significandPos : (1 : ℚ) ≤ significand magnitude := by
    have whole : 1 ≤ significand magnitude := by
      rw [significand_eq]
      split <;> omega
    exact_mod_cast whole
  have powers : (2 : ℚ) ^ (-1074 : ℤ) ≤ 2 ^ exponent magnitude :=
    zpow_le_zpow_right₀ (by norm_num) (exponent_isLastPlace magnitude).least_le
  calc (2 : ℚ) ^ (-1074 : ℤ) ≤ 2 ^ exponent magnitude := powers
    _ ≤ significand magnitude * 2 ^ exponent magnitude :=
        le_mul_of_one_le_left (by positivity) significandPos

theorem value_lt_two_zpow (magnitude : Fin finiteCount) :
    value magnitude < 2 ^ (1024 : ℤ) := by
  refine lt_of_lt_of_le (exponent_isLastPlace magnitude).lt_limit ?_
  apply zpow_le_zpow_right₀ (by norm_num)
  have bounded : magnitude.val < 0x7FF * 2 ^ 52 := magnitude.isLt
  rw [exponent_eq]
  split <;> omega

end Binary64

/-- Decimals whose size is `-324` or less lie below every magnitude. -/
theorem ten_zpow_lt_two_zpow : (10 : ℚ) ^ (-324 : ℤ) < 2 ^ (-1074 : ℤ) := by
  have powers : (2 : ℚ) ^ 1074 < 10 ^ 324 := by
    have whole : 2 ^ 1074 < 10 ^ 324 := by decide +kernel
    exact_mod_cast whole
  rw [zpow_neg, zpow_neg]
  exact inv_strictAnti₀ (by positivity) (by exact_mod_cast powers)

/-- Decimals whose size is more than `309` lie above every magnitude. -/
theorem two_zpow_lt_ten_zpow : (2 : ℚ) ^ (1024 : ℤ) < 10 ^ (309 : ℤ) := by
  have whole : 2 ^ 1024 < 10 ^ 309 := by decide +kernel
  exact_mod_cast whole

namespace Decimal

theorem toBinary_of_value {decimal : Decimal} {magnitude : Fin finiteCount}
    (nonzero : magnitude.val ≠ 0) (equal : decimal.value = Binary64.value magnitude)
    (negative : Bool) : decimal.toBinary negative = .finite negative magnitude := by
  have lower := Binary64.two_zpow_le_value nonzero
  have upper := Binary64.value_lt_two_zpow magnitude
  have digitsNonzero : decimal.digits ≠ 0 := by
    rw [Ne, ← value_eq_zero_iff, equal]
    exact ne_of_gt (lt_of_lt_of_le (by positivity) lower)
  have notTooSmall : ¬decimal.size ≤ -324 := by
    intro small
    have power : (10 : ℚ) ^ decimal.size ≤ 10 ^ (-324 : ℤ) :=
      zpow_le_zpow_right₀ (by norm_num) small
    have below := lt_of_lt_of_le decimal.value_lt_size power
    exact lt_asymm ten_zpow_lt_two_zpow (lt_of_le_of_lt (equal ▸ lower) below)
  have notTooLarge : ¬309 < decimal.size := by
    intro large
    have power : (10 : ℚ) ^ (309 : ℤ) ≤ 10 ^ (decimal.size - 1) :=
      zpow_le_zpow_right₀ (by norm_num) (by omega)
    have above := le_trans power (size_le_value digitsNonzero)
    exact lt_asymm two_zpow_lt_ten_zpow (lt_of_le_of_lt above (equal ▸ upper))
  unfold size at notTooSmall notTooLarge
  simp only [toBinary, digitsNonzero, notTooSmall, notTooLarge, or_self, if_false]
  exact Binary64.ofRatio_of_value decimal.ratio_pos negative magnitude
    (by rw [ratio_value, equal])

theorem value_shift (digits : Nat) (exponent : ℤ) (count : Nat) :
    value ⟨digits * 10 ^ count, exponent⟩ = value ⟨digits, exponent + count⟩ := by
  simp only [value]
  rw [zpow_add₀ (by norm_num), zpow_natCast]
  push_cast
  ring

theorem stripZeros_value (bound : Nat) (decimal : Decimal) :
    (stripZeros bound decimal).value = decimal.value := by
  induction bound generalizing decimal with
  | zero => rfl
  | succ bound inductionHypothesis =>
      rw [stripZeros]
      split
      next endsInZero =>
        rw [inductionHypothesis]
        have shifted := value_shift (decimal.digits / 10) decimal.exponent 1
        rw [pow_one, Nat.div_mul_cancel (Nat.dvd_of_mod_eq_zero endsInZero.2)] at shifted
        exact shifted.symm
      next => rfl

end Decimal

/-- A decimal that the search gives is read as the magnitude. -/
theorem searchShortest_toBinary {tie : Tie} {magnitude : Fin finiteCount} {left : Nat}
    {decimal : Decimal} (found : searchShortest tie magnitude left = some decimal) :
    decimal.toBinary false = .finite false magnitude := by
  induction left with
  | zero => cases found
  | succ left inductionHypothesis =>
      rw [searchShortest.eq_def] at found
      dsimp only at found
      -- Whatever the candidates are, only one that reads back is taken.
      generalize neighbours tie _ _ _ = candidates at found
      cases search : candidates.find? fun decimal =>
          decimal.toBinary false = .finite false magnitude with
      | none =>
          rw [search] at found
          exact inductionHypothesis found
      | some neighbour =>
          rw [search] at found
          cases found
          have readsBack := List.find?_some search
          rw [Decimal.toBinary_congr (Decimal.stripZeros_value 17 neighbour)]
          exact of_decide_eq_true readsBack

theorem exactDecimal_eq (magnitude : Fin finiteCount) :
    exactDecimal magnitude =
      ⟨(Binary64.ratio magnitude).1 * 10 ^ (Binary64.ratio magnitude).2.log2 /
          (Binary64.ratio magnitude).2, -((Binary64.ratio magnitude).2.log2 : ℤ)⟩ :=
  rfl

theorem exactDecimal_value (magnitude : Fin finiteCount) :
    (exactDecimal magnitude).value = Binary64.value magnitude := by
  rw [← Binary64.ratio_value]
  have isPower : ∃ count, (Binary64.ratio magnitude).2 = 2 ^ count := by
    rw [Binary64.ratio_eq]
    split
    · exact ⟨_, rfl⟩
    · exact ⟨0, rfl⟩
  obtain ⟨count, countEq⟩ := isPower
  simp only [exactDecimal_eq, Decimal.value, countEq, Nat.log2_two_pow]
  have whole : (Binary64.ratio magnitude).1 * 10 ^ count / 2 ^ count =
      (Binary64.ratio magnitude).1 * 5 ^ count := by
    rw [show 10 = 5 * 2 from rfl, Nat.mul_pow, ← Nat.mul_assoc]
    exact Nat.mul_div_cancel _ (by positivity)
  rw [whole, zpow_neg, zpow_natCast]
  push_cast
  rw [show (10 : ℚ) = 5 * 2 by norm_num, mul_pow]
  field_simp

/-- The shortest decimal of a magnitude is read as that magnitude, with either sign. -/
theorem shortest_toBinary (tie : Tie) (magnitude : Fin finiteCount) (negative : Bool) :
    (shortest tie magnitude).toBinary negative = .finite negative magnitude := by
  unfold shortest
  split
  next zero =>
    have valueZero : ((0 : Nat) : ℚ) / (1 : Nat) = Binary64.value magnitude := by
      simp [Binary64.value, Binary64.significand, zero]
    rw [Decimal.toBinary, if_pos (.inl rfl)]
    exact Binary64.ofRatio_of_value Nat.one_pos negative magnitude valueZero
  next nonzero =>
    cases found : searchShortest tie magnitude 17 with
    | some decimal =>
        rw [Decimal.toBinary_eq_finite_iff]
        exact searchShortest_toBinary found
    | none =>
        exact Decimal.toBinary_of_value nonzero (exactDecimal_value magnitude) negative

end QueryPlanner.Number
