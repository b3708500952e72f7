import Mathlib.Algebra.Order.Field.Power
import Mathlib.Algebra.Order.Field.Rat
import Mathlib.Data.Nat.Cast.Order.Field
import Mathlib.Tactic.Linarith
import Mathlib.Tactic.Ring
import QueryShingles.Number.Binary

/-!
How far rounding can go astray: a rounded value is at most twice as large as the exact one, and not
less than half of it unless that is smaller than the smallest step. So nothing that is small enough is
out of range.
-/

set_option autoImplicit false

namespace QueryShingles

def Ratio.value (x : Ratio) : ℚ := x.num / x.den

def Dyadic.value (x : Dyadic) : ℚ := x.significand * 2 ^ x.exponent

@[simp] theorem mul_value (a b : Ratio) : (a.mul b).value = a.value * b.value := by
  rw [Ratio.mul, Ratio.value, Ratio.value, Ratio.value, Nat.cast_mul, Nat.cast_mul, mul_div_mul_comm]

@[simp] theorem div_value (a b : Ratio) : (a.div b).value = a.value / b.value := by
  rw [Ratio.div, Ratio.value, Ratio.value, Ratio.value, Nat.cast_mul, Nat.cast_mul, div_div_div_eq]

@[simp] theorem pow_value (base : Nat) (exponent : Int) : (Ratio.pow base exponent).value = (base : ℚ) ^ exponent := by
  cases exponent with
  | ofNat n => simp [Ratio.pow, Ratio.value]
  | negSucc n => simp [Ratio.pow, Ratio.value, zpow_negSucc]

@[simp] theorem natural_value (n : Nat) : (Ratio.mk n 1).value = n := by simp [Ratio.value]

@[simp] theorem dyadic_ratio_value (x : Dyadic) : x.ratio.value = x.value := by
  rw [Dyadic.ratio, mul_value, natural_value, pow_value]
  rfl

theorem value_nonneg (x : Ratio) : 0 ≤ x.value := div_nonneg (Nat.cast_nonneg _) (Nat.cast_nonneg _)

theorem dyadic_value_nonneg (x : Dyadic) : 0 ≤ x.value := by
  rw [← dyadic_ratio_value]
  exact value_nonneg x.ratio

theorem num_positive (x : Ratio) (positive : 0 < x.value) : 0 < x.num := by
  refine Nat.pos_of_ne_zero fun zero => ?_
  rw [Ratio.value, zero, Nat.cast_zero, zero_div] at positive
  exact lt_irrefl _ positive

theorem pow_positive (base : Nat) (exponent : Int) (positive : 0 < base) :
    0 < (Ratio.pow base exponent).num ∧ 0 < (Ratio.pow base exponent).den := by
  cases exponent with
  | ofNat n => exact ⟨Nat.pow_pos positive, Nat.one_pos⟩
  | negSucc n => exact ⟨Nat.one_pos, Nat.pow_pos positive⟩

theorem dyadic_ratio_den (x : Dyadic) : 0 < x.ratio.den := by
  rw [Dyadic.ratio, Ratio.mul, Nat.one_mul]
  exact (pow_positive 2 x.exponent Nat.two_pos).2

theorem scaled_den (x : Ratio) (positive : 0 < x.den) (exponent : Int) : 0 < (x.div (Ratio.pow 2 exponent)).den :=
  Nat.mul_pos positive (pow_positive 2 exponent Nat.two_pos).1

theorem floor_le (x : Ratio) : (x.floor : ℚ) ≤ x.value := Nat.cast_div_le

theorem nearest_cases (x : Ratio) :
    x.nearest = x.floor ∨ x.nearest = x.floor + 1 ∧ x.den ≤ 2 * (x.num % x.den) := by
  by_cases low : 2 * (x.num % x.den) < x.den ∨ 2 * (x.num % x.den) = x.den ∧ x.num / x.den % 2 = 0
  · exact .inl (if_pos low)
  · exact .inr ⟨if_neg low, Nat.le_of_not_lt fun small => low (.inl small)⟩

theorem nearest_upper (x : Ratio) (positive : 0 < x.den) : (x.nearest : ℚ) ≤ 2 * x.value := by
  have parts := Nat.div_add_mod x.num x.den
  have bound : x.nearest * x.den ≤ 2 * x.num := by
    rcases nearest_cases x with low | ⟨high, half⟩
    · rw [low, Ratio.floor, Nat.mul_comm]
      omega
    · rw [high, Ratio.floor, Nat.succ_mul, Nat.mul_comm]
      omega
  have den : (0 : ℚ) < x.den := Nat.cast_pos.mpr positive
  rw [Ratio.value, ← mul_div_assoc, le_div_iff₀ den]
  exact_mod_cast bound

theorem nearest_lower (x : Ratio) (positive : 0 < x.den) (least : 1 ≤ x.value) : x.value ≤ 2 * (x.nearest : ℚ) := by
  have den : (0 : ℚ) < x.den := Nat.cast_pos.mpr positive
  have one : x.den ≤ x.num := by
    rw [Ratio.value, one_le_div den] at least
    exact_mod_cast least
  have bound : x.num ≤ 2 * x.nearest * x.den := by
    have floor : 1 ≤ x.floor := Nat.div_pos one positive
    have above : x.floor ≤ x.nearest := by
      rcases nearest_cases x with low | ⟨high, _⟩ <;> omega
    calc x.num ≤ (x.floor + 1) * x.den := Nat.le_of_lt (Nat.lt_mul_of_div_lt (Nat.lt_succ_self _) positive)
      _ ≤ 2 * x.nearest * x.den := Nat.mul_le_mul_right _ (by omega)
  rw [Ratio.value, div_le_iff₀ den]
  exact_mod_cast bound

theorem round_near (format : BinaryFormat) (hasBits : 0 < format.precision) (x : Ratio) (positive : x.num ≠ 0) :
    ∃ near : Dyadic, near.value = (x.div (Ratio.pow 2 (format.step x))).nearest * 2 ^ format.step x ∧
      format.round x = if near.significand = 0 then some format.zero
        else if (near.significand.log2 : Int) + near.exponent < format.limit then some near else none := by
  rw [BinaryFormat.round, if_neg positive]
  refine ⟨_, ?_, rfl⟩
  split
  next full =>
    obtain ⟨bits, same⟩ := Nat.exists_eq_succ_of_ne_zero (Nat.ne_of_gt hasBits)
    rw [full, same, Dyadic.value, zpow_add_one₀ two_ne_zero]
    simp only [Nat.pow_eq, Nat.succ_sub_one, Nat.succ_eq_add_one, pow_succ]
    push_cast
    ring
  next => rfl

theorem step_fits (format : BinaryFormat) (hasBits : 0 < format.precision) (x : Ratio) (num : x.num ≠ 0)
    (den : 0 < x.den) (least : 2 ^ format.lowest ≤ x.value) : 2 ^ format.step x ≤ x.value := by
  have two : (1 : ℚ) ≤ 2 := by norm_num
  have size : (2 : ℚ) ^ ((x.num.log2 : Int) - x.den.log2 - format.precision) ≤ x.value := by
    have low : (2 : ℚ) ^ x.num.log2 ≤ x.num := by exact_mod_cast Nat.log2_self_le num
    have high : (x.den : ℚ) ≤ 2 ^ (x.den.log2 + 1) := by exact_mod_cast Nat.le_of_lt Nat.lt_log2_self
    calc (2 : ℚ) ^ ((x.num.log2 : Int) - x.den.log2 - format.precision)
        ≤ 2 ^ ((x.num.log2 : Int) - (x.den.log2 + 1 : Nat)) := zpow_le_zpow_right₀ two (by push_cast; omega)
      _ = 2 ^ x.num.log2 / 2 ^ (x.den.log2 + 1) := by rw [zpow_sub₀ two_ne_zero, zpow_natCast, zpow_natCast]
      _ ≤ x.value := div_le_div₀ (Nat.cast_nonneg _) low (Nat.cast_pos.mpr den) high
  have guess : (2 : ℚ) ^ max format.lowest ((x.num.log2 : Int) - x.den.log2 - format.precision) ≤ x.value := by
    rcases max_choice format.lowest ((x.num.log2 : Int) - x.den.log2 - format.precision) with same | same <;> rw [same]
    · exact least
    · exact size
  rw [BinaryFormat.step]
  split
  next => exact guess
  next full =>
    generalize max format.lowest ((x.num.log2 : Int) - x.den.log2 - format.precision) = exponent at full
    have many : 2 ≤ (x.div (Ratio.pow 2 exponent)).floor :=
      Nat.le_trans (Nat.le_self_pow (Nat.ne_of_gt hasBits) 2) (Nat.le_of_not_lt full)
    have above : (2 : ℚ) ≤ x.value / 2 ^ exponent := by
      have floor := floor_le (x.div (Ratio.pow 2 exponent))
      rw [div_value, pow_value] at floor
      exact le_trans (by exact_mod_cast many) floor
    rw [zpow_add_one₀ two_ne_zero, mul_comm]
    exact (le_div_iff₀ (zpow_pos two_pos _)).mp above

theorem near_bounds (format : BinaryFormat) (hasBits : 0 < format.precision) (x : Ratio) (num : x.num ≠ 0)
    (den : 0 < x.den) :
    let near := ((x.div (Ratio.pow 2 (format.step x))).nearest : ℚ) * 2 ^ format.step x
    near ≤ 2 * x.value ∧ (2 ^ format.lowest ≤ x.value → x.value ≤ 2 * near) := by
  intro near
  have unit : (0 : ℚ) < 2 ^ format.step x := zpow_pos two_pos _
  have scaled : (x.div (Ratio.pow 2 (format.step x))).value * 2 ^ format.step x = x.value := by
    rw [div_value, pow_value]
    exact div_mul_cancel₀ _ unit.ne'
  have sound := scaled_den x den (format.step x)
  constructor
  · have upper := mul_le_mul_of_nonneg_right (nearest_upper _ sound) unit.le
    rwa [mul_assoc 2, scaled] at upper
  · intro least
    have one : 1 ≤ (x.div (Ratio.pow 2 (format.step x))).value := by
      rw [div_value, pow_value]
      exact (one_le_div unit).mpr (step_fits format hasBits x num den least)
    have lower := mul_le_mul_of_nonneg_right (nearest_lower _ sound one) unit.le
    rwa [scaled, mul_assoc 2] at lower

theorem log_le (x : Dyadic) (positive : x.significand ≠ 0) : 2 ^ ((x.significand.log2 : Int) + x.exponent) ≤ x.value := by
  rw [zpow_add₀ two_ne_zero, zpow_natCast]
  refine mul_le_mul_of_nonneg_right ?_ (zpow_pos two_pos _).le
  exact_mod_cast Nat.log2_self_le positive

theorem round_zero (format : BinaryFormat) (x : Ratio) (zero : x.num = 0) : format.round x = some format.zero :=
  if_pos zero

theorem zero_value (format : BinaryFormat) : format.zero.value = 0 := by simp [BinaryFormat.zero, Dyadic.value]

theorem round_some (format : BinaryFormat) (hasBits : 0 < format.precision) (x : Ratio) (den : 0 < x.den)
    (small : 2 * x.value < 2 ^ format.limit) : ∃ rounded, format.round x = some rounded := by
  by_cases num : x.num = 0
  · exact ⟨_, round_zero format x num⟩
  · obtain ⟨near, value, rounds⟩ := round_near format hasBits x num
    rw [rounds]
    by_cases vanishes : near.significand = 0
    · exact ⟨_, if_pos vanishes⟩
    · have bound := (near_bounds format hasBits x num den).1
      rw [← value] at bound
      have log := lt_of_le_of_lt (le_trans (log_le near vanishes) bound) small
      exact ⟨near, by rw [if_neg vanishes, if_pos ((zpow_lt_zpow_iff_right₀ one_lt_two).mp log)]⟩

theorem round_upper (format : BinaryFormat) (hasBits : 0 < format.precision) (x : Ratio) (den : 0 < x.den)
    (rounded : Dyadic) (found : format.round x = some rounded) : rounded.value ≤ 2 * x.value := by
  have zero : format.zero.value ≤ 2 * x.value := by
    rw [zero_value]
    exact mul_nonneg two_pos.le (value_nonneg x)
  by_cases num : x.num = 0
  · rw [round_zero format x num] at found
    cases found
    exact zero
  · obtain ⟨near, value, rounds⟩ := round_near format hasBits x num
    rw [rounds] at found
    split at found
    · cases found
      exact zero
    · split at found <;> cases found
      rw [value]
      exact (near_bounds format hasBits x num den).1

theorem round_lower (format : BinaryFormat) (hasBits : 0 < format.precision) (x : Ratio) (den : 0 < x.den)
    (least : 2 ^ format.lowest ≤ x.value) (rounded : Dyadic) (found : format.round x = some rounded) :
    x.value ≤ 2 * rounded.value := by
  have positive : 0 < x.value := lt_of_lt_of_le (zpow_pos two_pos _) least
  have num : x.num ≠ 0 := Nat.ne_of_gt (num_positive x positive)
  obtain ⟨near, value, rounds⟩ := round_near format hasBits x num
  have bound := (near_bounds format hasBits x num den).2 least
  rw [← value] at bound
  rw [rounds] at found
  split at found
  next vanishes =>
    rw [Dyadic.value, vanishes, Nat.cast_zero, zero_mul, mul_zero] at bound
    exact absurd positive (not_lt.mpr bound)
  next =>
    split at found <;> cases found
    exact bound

end QueryShingles
