import Mathlib.Algebra.Order.Field.Power
import Mathlib.Algebra.Order.Ring.Rat
import Mathlib.Algebra.Field.Rat
import Mathlib.Tactic.FieldSimp
import Mathlib.Tactic.Linarith
import Mathlib.Tactic.Positivity
import Mathlib.Tactic.Ring
import Mathlib.Tactic.NormNum
import QueryPlanner.Number.Shortest

/-!
# Rounding of quotients

The magnitude nearest to a quotient depends on the value of the quotient alone, not on how it is
written as a numerator and a denominator, and each magnitude is the nearest one to its own value.
-/

namespace QueryPlanner.Number

/-- The place that a value keeps: the least of all, or the one on which the value has 53 binary
digits. -/
structure IsLastPlace (value : ℚ) (place : ℤ) : Prop where
  least_le : -1074 ≤ place
  lt_limit : value < 2 ^ (place + 53)
  reaches : place = -1074 ∨ 2 ^ (place + 52) ≤ value

theorem IsLastPlace.unique {value : ℚ} {first second : ℤ}
    (isFirst : IsLastPlace value first) (isSecond : IsLastPlace value second) :
    first = second := by
  have le_of_isLastPlace {low high : ℤ} (isLow : IsLastPlace value low)
      (isHigh : IsLastPlace value high) : high ≤ low := by
    rcases isHigh.reaches with least | reached
    · exact least ▸ isLow.least_le
    · have powers : (2 : ℚ) ^ (high + 52) < 2 ^ (low + 53) := lt_of_le_of_lt reached isLow.lt_limit
      have exponents := (zpow_lt_zpow_iff_right₀ (by norm_num)).mp powers
      omega
  exact le_antisymm (le_of_isLastPlace isSecond isFirst) (le_of_isLastPlace isFirst isSecond)

theorem unscale_eq (numerator denominator : Nat) (exponent : ℤ) :
    unscale numerator denominator exponent =
      if exponent < 0 then (numerator * 2 ^ exponent.natAbs, denominator)
      else (numerator, denominator * 2 ^ exponent.natAbs) :=
  rfl

theorem nearestIndex_eq (numerator denominator : Nat) :
    nearestIndex numerator denominator =
      (lastPlace numerator denominator + 1074).toNat * 2 ^ 52 +
        roundHalfEven (unscale numerator denominator (lastPlace numerator denominator)).1
          (unscale numerator denominator (lastPlace numerator denominator)).2 :=
  rfl

theorem unscale_pos {denominator : Nat} (positive : 0 < denominator) (numerator : Nat)
    (exponent : ℤ) : 0 < (unscale numerator denominator exponent).2 := by
  rw [unscale_eq]
  split
  · exact positive
  · positivity

theorem unscale_value {denominator : Nat} (positive : 0 < denominator) (numerator : Nat)
    (exponent : ℤ) :
    ((unscale numerator denominator exponent).1 : ℚ) / (unscale numerator denominator exponent).2 =
      numerator / denominator / 2 ^ exponent := by
  rw [unscale_eq]
  split
  next negative =>
    obtain ⟨size, rfl⟩ : ∃ size : Nat, exponent = -size := ⟨exponent.natAbs, by omega⟩
    simp only [Int.natAbs_neg, Int.natAbs_natCast, zpow_neg, zpow_natCast]
    push_cast
    field_simp
  next nonnegative =>
    obtain ⟨size, rfl⟩ : ∃ size : Nat, exponent = size := ⟨exponent.natAbs, by omega⟩
    simp only [Int.natAbs_natCast, zpow_natCast]
    push_cast
    field_simp

theorem zpow_log2_sub_lt {numerator denominator : Nat} (numeratorPositive : 0 < numerator)
    (denominatorPositive : 0 < denominator) :
    (2 : ℚ) ^ ((numerator.log2 : ℤ) - denominator.log2 - 1) < numerator / denominator := by
  have below : (2 : ℚ) ^ numerator.log2 ≤ numerator := by
    exact_mod_cast Nat.log2_self_le (by omega)
  have above : (denominator : ℚ) < 2 ^ (denominator.log2 + 1) := by
    exact_mod_cast Nat.lt_log2_self
  have denominatorPositive : (0 : ℚ) < denominator := by exact_mod_cast denominatorPositive
  rw [lt_div_iff₀ denominatorPositive]
  calc (2 : ℚ) ^ ((numerator.log2 : ℤ) - denominator.log2 - 1) * denominator
      < 2 ^ ((numerator.log2 : ℤ) - denominator.log2 - 1) * 2 ^ (denominator.log2 + 1) := by
        gcongr
    _ = 2 ^ numerator.log2 := by
        rw [← zpow_natCast, ← zpow_natCast, ← zpow_add₀ (by norm_num)]
        congr 1
        push_cast
        ring
    _ ≤ numerator := below

theorem lt_zpow_log2_sub (numerator : Nat) {denominator : Nat}
    (denominatorPositive : 0 < denominator) :
    (numerator : ℚ) / denominator < 2 ^ ((numerator.log2 : ℤ) - denominator.log2 + 1) := by
  have above : (numerator : ℚ) < 2 ^ (numerator.log2 + 1) := by
    exact_mod_cast Nat.lt_log2_self
  have below : (2 : ℚ) ^ denominator.log2 ≤ denominator := by
    exact_mod_cast Nat.log2_self_le (by omega)
  rw [div_lt_iff₀ (by exact_mod_cast denominatorPositive)]
  calc (numerator : ℚ) < 2 ^ (numerator.log2 + 1) := above
    _ = 2 ^ ((numerator.log2 : ℤ) - denominator.log2 + 1) * 2 ^ denominator.log2 := by
        rw [← zpow_natCast, ← zpow_natCast, ← zpow_add₀ (by norm_num)]
        congr 1
        push_cast
        ring
    _ ≤ 2 ^ ((numerator.log2 : ℤ) - denominator.log2 + 1) * denominator := by
        gcongr

theorem unscale_lt_iff {denominator : Nat} (positive : 0 < denominator) (numerator : Nat)
    (exponent : ℤ) :
    (unscale numerator denominator exponent).1 <
        2 ^ 53 * (unscale numerator denominator exponent).2 ↔
      (numerator : ℚ) / denominator < 2 ^ (exponent + 53) := by
  have unitPositive : (0 : ℚ) < (unscale numerator denominator exponent).2 := by
    exact_mod_cast unscale_pos positive numerator exponent
  rw [zpow_add₀ (by norm_num), mul_comm ((2 : ℚ) ^ exponent), ← div_lt_iff₀ (by positivity),
    ← unscale_value positive, div_lt_iff₀ unitPositive]
  norm_cast

theorem lastPlace_isLastPlace {denominator : Nat} (positive : 0 < denominator) (numerator : Nat) :
    IsLastPlace (numerator / denominator) (lastPlace numerator denominator) := by
  unfold lastPlace
  split
  next zero =>
    subst zero
    exact ⟨le_refl _, by norm_num, .inl rfl⟩
  next nonzero =>
    have lower := zpow_log2_sub_lt (Nat.pos_of_ne_zero nonzero) positive
    have upper := lt_zpow_log2_sub numerator positive
    generalize (numerator.log2 : ℤ) - denominator.log2 = order at lower upper
    dsimp only
    have guessBound : order - 53 ≤ max (-1074) (order - 53) := le_max_right _ _
    have guessCases : max (-1074) (order - 53) = -1074 ∨ max (-1074) (order - 53) = order - 53 :=
      max_choice _ _
    have least : -1074 ≤ max (-1074) (order - 53) := le_max_left _ _
    generalize max (-1074) (order - 53) = guess at guessBound guessCases least
    split
    next fits =>
      refine ⟨least, (unscale_lt_iff positive numerator guess).mp fits, ?_⟩
      rcases guessCases with isLeast | isOrder
      · exact .inl isLeast
      · right
        rw [isOrder, show order - 53 + 52 = order - 1 by ring]
        exact lower.le
    next tooLarge =>
      have reached := not_lt.mp ((unscale_lt_iff positive numerator guess).not.mp tooLarge)
      refine ⟨by omega, lt_of_lt_of_le upper ?_, .inr ?_⟩
      · exact zpow_le_zpow_right₀ (by norm_num) (by omega)
      · rwa [show guess + 1 + 52 = guess + 53 by ring]

theorem roundHalfEven_mul_right {factor : Nat} (positive : 0 < factor)
    (numerator denominator : Nat) :
    roundHalfEven (numerator * factor) (denominator * factor) =
      roundHalfEven numerator denominator := by
  have quotients : numerator * factor / (denominator * factor) = numerator / denominator :=
    Nat.mul_div_mul_right _ _ positive
  have remainders :
      numerator * factor % (denominator * factor) = numerator % denominator * factor :=
    Nat.mul_mod_mul_right _ _ _
  have below : 2 * (numerator % denominator * factor) < denominator * factor ↔
      2 * (numerator % denominator) < denominator := by
    rw [← Nat.mul_assoc, Nat.mul_lt_mul_right positive]
  have above : denominator * factor < 2 * (numerator % denominator * factor) ↔
      denominator < 2 * (numerator % denominator) := by
    rw [← Nat.mul_assoc, Nat.mul_lt_mul_right positive]
  simp only [roundHalfEven, quotients, remainders, below, above]

theorem roundHalfEven_congr {numerator denominator numerator' denominator' : Nat}
    (positive : 0 < denominator) (positive' : 0 < denominator')
    (equal : (numerator : ℚ) / denominator = numerator' / denominator') :
    roundHalfEven numerator denominator = roundHalfEven numerator' denominator' := by
  have crossed : numerator * denominator' = numerator' * denominator := by
    rw [div_eq_div_iff (by positivity) (by positivity)] at equal
    exact_mod_cast equal
  calc roundHalfEven numerator denominator
      = roundHalfEven (numerator * denominator') (denominator * denominator') :=
        (roundHalfEven_mul_right positive' _ _).symm
    _ = roundHalfEven (numerator' * denominator) (denominator' * denominator) := by
        rw [crossed, Nat.mul_comm denominator denominator']
    _ = roundHalfEven numerator' denominator' := roundHalfEven_mul_right positive _ _

theorem roundHalfEven_mul_self {denominator : Nat} (positive : 0 < denominator) (whole : Nat) :
    roundHalfEven (whole * denominator) denominator = whole := by
  simp [roundHalfEven, positive]

theorem nearestIndex_congr {numerator denominator numerator' denominator' : Nat}
    (positive : 0 < denominator) (positive' : 0 < denominator')
    (equal : (numerator : ℚ) / denominator = numerator' / denominator') :
    nearestIndex numerator denominator = nearestIndex numerator' denominator' := by
  have isPlace := lastPlace_isLastPlace positive numerator
  rw [equal] at isPlace
  have places : lastPlace numerator denominator = lastPlace numerator' denominator' :=
    isPlace.unique (lastPlace_isLastPlace positive' numerator')
  have rounded := roundHalfEven_congr
    (unscale_pos positive numerator (lastPlace numerator denominator))
    (unscale_pos positive' numerator' (lastPlace numerator denominator))
    (by rw [unscale_value positive, unscale_value positive', equal])
  rw [places] at rounded
  rw [nearestIndex_eq, nearestIndex_eq, places, rounded]

namespace Binary64

def value (magnitude : Fin finiteCount) : ℚ :=
  significand magnitude * 2 ^ exponent magnitude

theorem significand_eq (magnitude : Fin finiteCount) :
    significand magnitude =
      if magnitude.val < 2 ^ 52 then magnitude.val else 2 ^ 52 + magnitude.val % 2 ^ 52 :=
  rfl

theorem exponent_eq (magnitude : Fin finiteCount) :
    exponent magnitude =
      if magnitude.val < 2 ^ 52 then -1074 else ((magnitude.val / 2 ^ 52 : Nat) : ℤ) - 1075 :=
  rfl

theorem ratio_eq (magnitude : Fin finiteCount) :
    ratio magnitude =
      if exponent magnitude < 0 then (significand magnitude, 2 ^ (exponent magnitude).natAbs)
      else (significand magnitude * 2 ^ (exponent magnitude).natAbs, 1) :=
  rfl

theorem ratio_value (magnitude : Fin finiteCount) :
    ((ratio magnitude).1 : ℚ) / (ratio magnitude).2 = value magnitude := by
  rw [ratio_eq, value]
  split
  next negative =>
    obtain ⟨size, sizeEq⟩ : ∃ size : Nat, exponent magnitude = -size :=
      ⟨(exponent magnitude).natAbs, by omega⟩
    rw [sizeEq]
    simp [div_eq_mul_inv]
  next nonnegative =>
    obtain ⟨size, sizeEq⟩ : ∃ size : Nat, exponent magnitude = size :=
      ⟨(exponent magnitude).natAbs, by omega⟩
    rw [sizeEq]
    simp

theorem exponent_isLastPlace (magnitude : Fin finiteCount) :
    IsLastPlace (value magnitude) (exponent magnitude) := by
  have significandLt : significand magnitude < 2 ^ 53 := by
    rw [significand_eq]
    split
    · omega
    · omega
  refine ⟨?_, ?_, ?_⟩
  · rw [exponent_eq]
    split <;> omega
  · have significandLt : (significand magnitude : ℚ) < 2 ^ 53 := by exact_mod_cast significandLt
    rw [value, zpow_add₀ (by norm_num), mul_comm ((2 : ℚ) ^ exponent magnitude)]
    exact mul_lt_mul_of_pos_right significandLt (by positivity)
  · by_cases subnormal : magnitude.val < 2 ^ 52
    · exact .inl (if_pos subnormal)
    · right
      have significandLe : (2 : ℚ) ^ 52 ≤ significand magnitude := by
        rw [significand_eq, if_neg subnormal]
        exact_mod_cast Nat.le_add_right _ _
      rw [value, zpow_add₀ (by norm_num), mul_comm ((2 : ℚ) ^ exponent magnitude)]
      exact mul_le_mul_of_nonneg_right significandLe (by positivity)

/-- A magnitude is the nearest one to its own value. -/
theorem nearestIndex_of_value {numerator denominator : Nat} (positive : 0 < denominator)
    (magnitude : Fin finiteCount)
    (equal : (numerator : ℚ) / denominator = value magnitude) :
    nearestIndex numerator denominator = magnitude.val := by
  have place : lastPlace numerator denominator = exponent magnitude :=
    (equal ▸ lastPlace_isLastPlace positive numerator).unique (exponent_isLastPlace magnitude)
  -- On its own last place the magnitude is a whole number, which rounding leaves as it is.
  have rounded : roundHalfEven (unscale numerator denominator (exponent magnitude)).1
      (unscale numerator denominator (exponent magnitude)).2 = significand magnitude := by
    have sameValue : ((unscale numerator denominator (exponent magnitude)).1 : ℚ) /
        (unscale numerator denominator (exponent magnitude)).2 =
          (significand magnitude * 1 : Nat) / (1 : Nat) := by
      rw [unscale_value positive, equal, value]
      field_simp
      simp
    rw [roundHalfEven_congr (unscale_pos positive _ _) Nat.one_pos sameValue,
      roundHalfEven_mul_self Nat.one_pos]
  rw [nearestIndex_eq, place, rounded, exponent_eq, significand_eq]
  split <;> omega

theorem ofRatio_of_value {numerator denominator : Nat} (positive : 0 < denominator)
    (negative : Bool) (magnitude : Fin finiteCount)
    (equal : (numerator : ℚ) / denominator = value magnitude) :
    ofRatio negative numerator denominator = .finite negative magnitude := by
  simp [ofRatio, nearestIndex_of_value positive magnitude equal]

theorem ofRatio_congr {numerator denominator numerator' denominator' : Nat}
    (positive : 0 < denominator) (positive' : 0 < denominator') (negative : Bool)
    (equal : (numerator : ℚ) / denominator = numerator' / denominator') :
    ofRatio negative numerator denominator = ofRatio negative numerator' denominator' := by
  simp only [ofRatio, nearestIndex_congr positive positive' equal]

end Binary64

end QueryPlanner.Number
