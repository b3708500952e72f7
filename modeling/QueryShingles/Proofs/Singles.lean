import Mathlib.Tactic.SplitIfs
import QueryShingles.Number.Single
import QueryShingles.Proofs.Numerals
import QueryShingles.Proofs.Rounding

/-!
A single precision number that is finite is spelled as a number that can be read again. Its digits are
few enough and its exponent is small enough for binary64 to hold what they stand for, whichever way
the reader rounds on its way there.
-/

set_option autoImplicit false

namespace QueryShingles

theorem take_digits_bounds (start : Nat) (digits : List Digit) (small : start ≤ wordMax) :
    (takeDigits start digits).1 ≤ wordMax ∧ (takeDigits start digits).2.length ≤ digits.length := by
  induction digits generalizing start with
  | nil => exact ⟨small, Nat.le_refl _⟩
  | cons digit rest ih =>
      rw [takeDigits]
      split
      next fits =>
        obtain ⟨word, left⟩ := ih _ fits
        exact ⟨word, Nat.le_succ_of_le left⟩
      next => exact ⟨small, Nat.le_refl _⟩

theorem significand_bounds (numeral : Numeral) :
    numeral.significand.1 ≤ wordMax ∧ numeral.significand.2 ≤ numeral.whole.length := by
  obtain ⟨word, left⟩ := take_digits_bounds 0 numeral.whole (Nat.zero_le _)
  refine ⟨(take_digits_bounds _ numeral.fraction word).1, ?_⟩
  rw [Numeral.significand]
  omega

theorem binary64_bits : 0 < binary64.precision := by decide

theorem binary64_power_some (n : Nat) (known : n ≤ 308) : ∃ power, binary64.round (Ratio.pow 10 n) = some power := by
  have inRange : 2 * 10 ^ 307 < 2 ^ 1024 := by decide +kernel
  rcases Nat.lt_or_ge n 308 with below | last
  · refine round_some binary64 binary64_bits _ (pow_positive 10 n (by decide)).2 ?_
    rw [pow_value, zpow_natCast]
    calc 2 * (10 : ℚ) ^ n ≤ 2 * 10 ^ 307 :=
          mul_le_mul_of_nonneg_left (pow_le_pow_right₀ (by norm_num) (Nat.le_of_lt_succ below)) two_pos.le
      _ < 2 ^ (1024 : Nat) := by exact_mod_cast inRange
      _ = 2 ^ binary64.limit := (zpow_natCast _ _).symm
  · have same : n = 308 := Nat.le_antisymm known last
    rw [same]
    exact Option.isSome_iff_exists.mp (by decide +kernel)

theorem binary64_power (n : Nat) (known : n ≤ 308) : ∃ power, binary64.round (Ratio.pow 10 n) = some power ∧
    1 ≤ 2 * power.value ∧ power.value ≤ 2 * 10 ^ n := by
  obtain ⟨power, found⟩ := binary64_power_some n known
  have den := (pow_positive 10 n (by decide)).2
  have value : (Ratio.pow 10 n).value = 10 ^ n := by rw [pow_value, zpow_natCast, Nat.cast_ofNat]
  have one : (1 : ℚ) ≤ 10 ^ n := one_le_pow₀ (by norm_num)
  have least : 2 ^ binary64.lowest ≤ (Ratio.pow 10 n).value := by
    rw [value]
    exact le_trans (zpow_le_one_of_nonpos₀ one_le_two (by decide)) one
  have lower := round_lower binary64 binary64_bits _ den least power found
  have upper := round_upper binary64 binary64_bits _ den power found
  rw [value] at lower upper
  exact ⟨power, found, le_trans one lower, upper⟩

theorem quotient_some (a b : Dyadic) (divisor : 1 ≤ 2 * b.value) (small : 4 * a.value < 2 ^ binary64.limit) :
    ∃ quotient, binary64.div a b = some quotient ∧ quotient.value ≤ 4 * a.value := by
  have nonneg := dyadic_value_nonneg a
  have positive : 0 < b.value := by linarith
  have num : 0 < b.ratio.num := num_positive b.ratio (by rwa [dyadic_ratio_value])
  have den : 0 < (a.ratio.div b.ratio).den := Nat.mul_pos (dyadic_ratio_den a) num
  have value : (a.ratio.div b.ratio).value ≤ 2 * a.value := by
    rw [div_value, dyadic_ratio_value, dyadic_ratio_value, div_le_iff₀ positive]
    nlinarith
  obtain ⟨quotient, found⟩ := round_some binary64 binary64_bits _ den (by linarith)
  have upper := round_upper binary64 binary64_bits _ den quotient found
  exact ⟨quotient, found, by linarith⟩

theorem binary64_limit : (2 : ℚ) ^ 250 < 2 ^ binary64.limit := by
  rw [show binary64.limit = ((1024 : Nat) : Int) from rfl, zpow_natCast]
  exact pow_lt_pow_right₀ one_lt_two (by decide)

theorem binary64_word (word : Nat) (small : word ≤ wordMax) :
    ∃ start, binary64.round ⟨word, 1⟩ = some start ∧ start.value ≤ 2 ^ 65 := by
  have bound : 2 * (word : ℚ) ≤ 2 ^ 65 := by
    have most : 2 * word ≤ 2 ^ 65 := Nat.le_trans (Nat.mul_le_mul_left 2 small) (by decide)
    exact_mod_cast most
  have inRange : 2 * (Ratio.mk word 1).value < 2 ^ binary64.limit := by
    rw [natural_value]
    exact lt_of_le_of_lt bound (lt_trans (by norm_num) binary64_limit)
  obtain ⟨start, started⟩ := round_some binary64 binary64_bits _ Nat.one_pos inRange
  have upper := round_upper binary64 binary64_bits _ Nat.one_pos start started
  rw [natural_value] at upper
  exact ⟨start, started, le_trans upper bound⟩

theorem product_some (start power : Dyadic) (exponent : Nat) (small : exponent ≤ 52) (word : start.value ≤ 2 ^ 65)
    (high : power.value ≤ 2 * 10 ^ exponent) : ∃ product, binary64.mul start power = some product := by
  refine round_some binary64 binary64_bits _ (Nat.mul_pos (dyadic_ratio_den start) (dyadic_ratio_den power)) ?_
  rw [mul_value, dyadic_ratio_value, dyadic_ratio_value]
  have most : (10 : ℚ) ^ exponent ≤ 10 ^ 52 := pow_le_pow_right₀ (by norm_num) small
  calc 2 * (start.value * power.value) ≤ 2 * (2 ^ 65 * (2 * 10 ^ 52)) := by
        refine mul_le_mul_of_nonneg_left ?_ two_pos.le
        exact mul_le_mul word (by linarith) (dyadic_value_nonneg power) (by norm_num)
    _ < 2 ^ 250 := by norm_num
    _ < 2 ^ binary64.limit := binary64_limit

theorem scale_some (significand : Nat) (exponent : Int) (word : significand ≤ wordMax) (small : exponent ≤ 52) :
    ∃ size, Numeral.scale significand exponent = some size := by
  obtain ⟨start, started, bound⟩ := binary64_word significand word
  have tiny : ∀ value : ℚ, value ≤ 2 ^ 67 → 4 * value < 2 ^ binary64.limit := by
    intro value few
    refine lt_of_le_of_lt (mul_le_mul_of_nonneg_left few (by norm_num)) (lt_trans ?_ binary64_limit)
    norm_num
  simp only [Numeral.scale, started, Option.bind_eq_bind, Option.bind_some]
  split_ifs with whole known zero once twice
  · obtain ⟨power, found, _, high⟩ := binary64_power exponent.toNat (by omega)
    obtain ⟨product, times⟩ := product_some start power exponent.toNat (by omega) bound high
    exact ⟨product, by simp only [found, Option.bind_some, times]⟩
  · omega
  · omega
  · obtain ⟨power, found, divisor, _⟩ := binary64_power (-exponent).toNat (by omega)
    obtain ⟨quotient, divided, _⟩ := quotient_some start power divisor (tiny _ (by linarith))
    exact ⟨quotient, by simp only [found, Option.bind_some, divided]⟩
  · obtain ⟨first, foundFirst, divisorFirst, _⟩ := binary64_power 308 (by decide)
    obtain ⟨second, foundSecond, divisorSecond, _⟩ := binary64_power (-exponent - 308).toNat (by omega)
    obtain ⟨middle, dividedFirst, less⟩ := quotient_some start first divisorFirst (tiny _ (by linarith))
    obtain ⟨quotient, dividedSecond, _⟩ := quotient_some middle second divisorSecond (tiny _ (by linarith))
    rw [Nat.cast_ofNat] at foundFirst
    exact ⟨quotient, by
      simp only [foundFirst, Nat.cast_ofNat, foundSecond, Option.bind_some, dividedFirst, dividedSecond]⟩
  · exact ⟨_, rfl⟩

/-- Spelled as single precision numbers are: with a point or an exponent, with no more whole digits than are written
plainly, and with no larger exponent than the largest of them has. -/
structure Numeral.Moderate (numeral : Numeral) : Prop where
  broken : numeral.fraction ≠ [] ∨ numeral.exponent ≠ none
  whole : numeral.whole.length ≤ 13
  exponent : ∀ exponent, numeral.exponent = some exponent → exponent.negative = false →
    Digit.value 0 exponent.digits ≤ 39

theorem moderate_magnitude (numeral : Numeral) (moderate : numeral.Moderate) :
    ∃ size, numeral.magnitude = some size := by
  obtain ⟨word, shift⟩ := significand_bounds numeral
  have few := moderate.whole
  cases spelled : numeral.exponent with
  | none =>
      obtain ⟨size, scaled⟩ := scale_some numeral.significand.1 numeral.significand.2 word (by omega)
      exact ⟨size, by simp only [Numeral.magnitude, spelled, scaled]⟩
  | some exponent =>
      have bound := moderate.exponent exponent spelled
      by_cases known : Digit.value 0 exponent.digits ≤ Numeral.exponentMax
      · have small : Numeral.exponentValue exponent ≤ 39 := by
          rw [Numeral.exponentValue]
          split
          · omega
          next positive => exact_mod_cast bound (Bool.eq_false_iff.mpr positive)
        obtain ⟨size, scaled⟩ := scale_some numeral.significand.1
          (numeral.significand.2 + Numeral.exponentValue exponent) word (by omega)
        exact ⟨size, by simp only [Numeral.magnitude, spelled, if_pos known, scaled]⟩
      · have negative : exponent.negative = true := by
          by_contra positive
          exact known (Nat.le_trans (bound (Bool.eq_false_iff.mpr positive)) (by decide))
        exact ⟨binary64.zero, by simp only [Numeral.magnitude, spelled, if_neg known, negative, or_true, if_true]⟩

theorem moderate_number (numeral : Numeral) (moderate : numeral.Moderate) : ∃ n, numeral.number? = some n := by
  obtain ⟨size, found⟩ := moderate_magnitude numeral moderate
  have notWhole : ¬ (numeral.fraction = [] ∧ numeral.exponent = none ∧ Digit.value 0 numeral.whole ≤ wordMax) := by
    rintro ⟨noFraction, noExponent, _⟩
    rcases moderate.broken with fraction | exponent
    · exact fraction noFraction
    · exact exponent noExponent
  rw [Numeral.number?, if_neg notWhole, found]
  exact ⟨_, rfl⟩

theorem rounds_to_bounds (format : BinaryFormat) (x : Dyadic) (quarters : Ratio) (positive : 0 < x.significand)
    (den : 0 < quarters.den) (hit : format.roundsTo x quarters = true) :
    0 < quarters.num ∧ quarters.num ≤ (4 * x.significand + 2) * quarters.den := by
  have low : ∀ below ≤ 2, 0 < (4 * x.significand - below) * quarters.den := by
    intro below few
    exact Nat.mul_pos (by omega) den
  have lowest := low (if x.significand = Nat.pow 2 (format.precision - 1) ∧ format.lowest < x.exponent then 1 else 2)
    (by split <;> decide)
  rw [BinaryFormat.roundsTo] at hit
  split at hit
  · obtain ⟨above, within⟩ := Bool.and_eq_true_iff.mp hit
    exact ⟨Nat.lt_of_lt_of_le lowest (of_decide_eq_true above), of_decide_eq_true within⟩
  · obtain ⟨above, within⟩ := Bool.and_eq_true_iff.mp hit
    exact ⟨Nat.lt_trans lowest (of_decide_eq_true above), Nat.le_of_lt (of_decide_eq_true within)⟩

def Dyadic.quarters (x : Dyadic) (exponent : Int) (coefficient : Nat) : Ratio :=
  ((Ratio.pow 10 exponent).div (Ratio.pow 2 (x.exponent - 2))).mul ⟨coefficient, 1⟩

theorem on_grid_hit (format : BinaryFormat) (x : Dyadic) (exponent : Int) (decimal : Decimal)
    (found : format.onGrid x exponent = some decimal) :
    format.roundsTo x (x.quarters decimal.exponent decimal.coefficient) = true := by
  simp only [BinaryFormat.onGrid] at found
  split at found
  next low high =>
    cases found
    rcases nearest_cases (x.ratio.div (Ratio.pow 10 exponent)) with same | ⟨same, _⟩ <;> simp only [same]
    · exact low
    · exact high
  next low _ =>
    cases found
    exact low
  next _ high =>
    cases found
    exact high
  · cases found

theorem on_grid_bounds (format : BinaryFormat) (x : Dyadic) (positive : 0 < x.significand) (exponent : Int)
    (decimal : Decimal) (found : format.onGrid x exponent = some decimal) :
    0 < decimal.coefficient ∧
      (decimal.coefficient : ℚ) * 10 ^ decimal.exponent ≤ (4 * x.significand + 2) * 2 ^ (x.exponent - 2) := by
  have den : 0 < (x.quarters decimal.exponent decimal.coefficient).den :=
    Nat.mul_pos (Nat.mul_pos (pow_positive 10 _ (by decide)).2 (pow_positive 2 _ (by decide)).1) Nat.one_pos
  obtain ⟨above, within⟩ := rounds_to_bounds format x _ positive den (on_grid_hit format x exponent decimal found)
  constructor
  · exact Nat.pos_of_ne_zero fun zero => by simp [Dyadic.quarters, Ratio.mul, zero] at above
  · have size : (x.quarters decimal.exponent decimal.coefficient).value ≤ 4 * x.significand + 2 := by
      rw [Ratio.value, div_le_iff₀ (Nat.cast_pos.mpr den)]
      exact_mod_cast within
    rw [Dyadic.quarters, mul_value, div_value, pow_value, pow_value, natural_value, div_mul_eq_mul_div,
      div_le_iff₀ (zpow_pos two_pos _), mul_comm (_ ^ _)] at size
    exact size

theorem shortest_cases (format : BinaryFormat) (x : Dyadic) :
    format.shortest x = ⟨0, 0⟩ ∨ ∃ exponent, format.onGrid x exponent = some (format.shortest x) := by
  rw [BinaryFormat.shortest]
  cases found : (List.range 20).findSome? fun (n : Nat) => format.onGrid x (BinaryFormat.topGrid x - n) with
  | none => exact .inl rfl
  | some decimal =>
      obtain ⟨n, _, here⟩ := List.exists_of_findSome?_eq_some found
      exact .inr ⟨_, here⟩

theorem place_proper (layout : FloatLayout) (negative : Bool) (first : Digit) (rest : List Digit) (point : Int)
    (notZero : first ≠ .zero) : (layout.place negative (first :: rest) point).Proper := by
  rw [FloatLayout.place]
  split
  · split
    · exact ⟨.inl rfl, by simp⟩
    · split
      · exact ⟨.inr ⟨first, _, rfl, notZero⟩, by simp⟩
      next behind _ =>
        obtain ⟨less, same⟩ := Nat.exists_eq_succ_of_ne_zero (show point.toNat ≠ 0 by omega)
        exact ⟨.inr ⟨first, rest.take less, by simp [same], notZero⟩, by simp⟩
  · refine ⟨.inr ⟨first, [], rfl, notZero⟩, ?_⟩
    rintro exponent spelled
    cases spelled
    rcases Nat.eq_zero_or_pos (point - 1).natAbs with zero | positive
    · rw [zero, of_nat_small 0 (by decide)]
      exact List.cons_ne_nil _ _
    · obtain ⟨digit, more, same, _⟩ := of_nat_head _ positive
      rw [same]
      exact List.cons_ne_nil _ _

theorem place_moderate (layout : FloatLayout) (negative : Bool) (digits : List Digit) (point : Int)
    (present : digits ≠ []) (narrow : layout.highest ≤ 13) (small : point ≤ 40) :
    (layout.place negative digits point).Moderate := by
  have nonempty : 0 < digits.length := List.length_pos_iff.mpr present
  rw [FloatLayout.place]
  split
  next plain =>
    split
    · exact ⟨.inl (by simp [present]), by simp, by simp⟩
    · split
      next short => exact ⟨.inl (List.cons_ne_nil _ _), by simp; omega, by simp⟩
      next long =>
        refine ⟨.inl ?_, ?_, by simp⟩
        · rw [← List.length_pos_iff, List.length_drop]
          omega
        · rw [List.length_take]
          omega
  · refine ⟨.inr (Option.some_ne_none _), ?_, ?_⟩
    · rw [List.length_take]
      omega
    · rintro exponent spelled positive
      cases spelled
      have nonneg := of_decide_eq_false positive
      rw [of_nat_value]
      omega

theorem magnitude_bounds (x : Single) (finite : x.isFinite = true) :
    x.magnitude.significand < 2 ^ 24 ∧ x.magnitude.exponent ≤ 104 := by
  have field : x.exponentField ≠ 255 := bne_iff_ne.mp finite
  have exponent : x.exponentField < 256 := Nat.mod_lt _ (by decide)
  have fraction : x.fractionField < 2 ^ 23 := Nat.mod_lt _ (by decide)
  rw [Single.magnitude]
  split
  · exact ⟨Nat.lt_trans fraction (by decide), show (-149 : Int) ≤ 104 by decide⟩
  · refine ⟨?_, ?_⟩
    · simp only [Nat.pow_eq]
      omega
    · simp only
      omega

theorem single_digits (x : Single) (finite : x.isFinite = true) (positive : 0 < x.magnitude.significand)
    (exponent : Int) (decimal : Decimal) (found : binary32.onGrid x.magnitude exponent = some decimal) :
    0 < decimal.coefficient ∧ (Digit.ofNat decimal.coefficient).length + decimal.exponent ≤ 40 := by
  obtain ⟨large, bound⟩ := on_grid_bounds binary32 x.magnitude positive exponent decimal found
  obtain ⟨bits, most⟩ := magnitude_bounds x finite
  have size : (decimal.coefficient : ℚ) * 10 ^ decimal.exponent ≤ 2 ^ 26 * 2 ^ 102 := by
    have quarters : (4 * x.magnitude.significand + 2 : ℚ) ≤ 2 ^ 26 := by
      have fewer : 4 * x.magnitude.significand + 2 ≤ 2 ^ 26 := by omega
      exact_mod_cast fewer
    have unit : (2 : ℚ) ^ (x.magnitude.exponent - 2) ≤ 2 ^ (102 : Int) := zpow_le_zpow_right₀ one_le_two (by omega)
    exact le_trans bound (mul_le_mul quarters unit (zpow_pos two_pos _).le (by norm_num))
  have digits : (10 : ℚ) ^ (Digit.ofNat decimal.coefficient).length ≤ 10 * decimal.coefficient := by
    exact_mod_cast of_nat_least decimal.coefficient large
  have power : (10 : ℚ) ^ ((Digit.ofNat decimal.coefficient).length + decimal.exponent) ≤ 10 ^ (40 : Int) := by
    calc (10 : ℚ) ^ ((Digit.ofNat decimal.coefficient).length + decimal.exponent)
        = 10 ^ (Digit.ofNat decimal.coefficient).length * 10 ^ decimal.exponent := by
          rw [zpow_add₀ (by norm_num), zpow_natCast]
      _ ≤ 10 * decimal.coefficient * 10 ^ decimal.exponent :=
          mul_le_mul_of_nonneg_right digits (zpow_pos (by norm_num) _).le
      _ ≤ 10 * (2 ^ 26 * 2 ^ 102) := by
          rw [mul_assoc]
          exact mul_le_mul_of_nonneg_left size (by norm_num)
      _ ≤ 10 ^ (40 : Int) := by norm_num
  exact ⟨large, (zpow_le_zpow_iff_right₀ (by norm_num)).mp power⟩

/-- Written with a point or an exponent, as a number of which nothing is lost but the last bits. -/
theorem single_spelled (x : Single) (finite : x.isFinite = true) :
    ∃ numeral, x.numeral? = some numeral ∧ numeral.Proper ∧ numeral.Moderate := by
  refine ⟨_, if_pos finite, ?_⟩
  have zero : (Numeral.mk x.negative [.zero] [.zero] none).Proper ∧
      (Numeral.mk x.negative [.zero] [.zero] none).Moderate :=
    ⟨⟨.inl rfl, by simp⟩, .inl (List.cons_ne_nil _ _), by simp, by simp⟩
  rw [FloatLayout.spell]
  split
  · exact zero
  next notZero =>
    rcases shortest_cases binary32 x.magnitude with missed | ⟨exponent, found⟩
    · simp only [missed]
      exact zero
    · obtain ⟨positive, point⟩ := single_digits x finite (Nat.pos_of_ne_zero notZero) exponent _ found
      obtain ⟨first, rest, digits, other⟩ := of_nat_head _ positive
      rw [digits] at point
      simp only [digits]
      exact ⟨place_proper _ _ first rest _ other,
        place_moderate _ _ _ _ (List.cons_ne_nil _ _) (by decide) point⟩

end QueryShingles
