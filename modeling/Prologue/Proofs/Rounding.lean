import Mathlib.Algebra.Order.Field.Power
import Mathlib.Data.Rat.Cast.Order
import Mathlib.Tactic.Linarith
import Mathlib.Tactic.Positivity
import Mathlib.Tactic.Ring
import Prologue.Binary64.Basic

/-! The double nearest to a natural number. Numbers of one exponent stand on a grid, the number is rounded on the grid
of its own exponent, and all that stands below that grid is farther away. -/

namespace Prologue.Binary64

/-- A double in its normal form, or infinity. -/
def IsNumber : Binary64 → Prop
  | .nan => False
  | .infinite _ => True
  | .finite _ mantissa exponent =>
    mantissa < 2 ^ 53 ∧ leastExponent ≤ exponent ∧ exponent ≤ greatestExponent ∧
      (2 ^ 52 ≤ mantissa ∨ exponent = leastExponent)

def isNegative : Binary64 → Bool
  | .nan => false
  | .infinite negative => negative
  | .finite negative _ _ => negative

/-- How far from zero a double stands. Infinity stands where the next number would, if the exponents went on. -/
def magnitude : Binary64 → ℚ
  | .nan => 0
  | .infinite _ => 2 ^ 52 * 2 ^ (greatestExponent + 1)
  | .finite _ mantissa exponent => mantissa * 2 ^ exponent

def point (x : Binary64) : ℚ := if x.isNegative then -x.magnitude else x.magnitude

/-- Whether a tie goes to a double. The number in the place of infinity has an even mantissa. -/
def IsEven : Binary64 → Prop
  | .nan => False
  | .infinite _ => True
  | .finite _ mantissa _ => Even mantissa

/-- The double without a minus sign that no other is nearer to a number than, and that is even if another is as near. -/
structure IsNearest (n : Nat) (x : Binary64) : Prop where
  isNumber : x.IsNumber
  unsigned : x.isNegative = false
  nearest : ∀ y : Binary64, y.IsNumber → |x.point - n| ≤ |y.point - n|
  even : ∀ y : Binary64, y.IsNumber → |x.point - n| = |y.point - n| → y.point = x.point ∨ x.IsEven

/-! ### Rounding on a grid -/

theorem abs_mul_sub_of_le (n unit : Nat) (k : ℤ) (below : k ≤ (n / unit : Nat)) :
    |k * unit - n| = ((n / unit : Nat) - k) * unit + (n % unit : Nat) := by
  have whole : (n : ℤ) = unit * (n / unit : Nat) + (n % unit : Nat) := by exact_mod_cast (Nat.div_add_mod n unit).symm
  have less : k * unit ≤ (n / unit : Nat) * unit := mul_le_mul_of_nonneg_right below (by positivity)
  rw [abs_of_nonpos (by linarith [Int.natCast_nonneg (n % unit)])]
  nth_rewrite 1 [whole]
  ring

theorem abs_mul_sub_of_lt (n unit : Nat) (positive : 0 < unit) (k : ℤ) (above : (n / unit : Nat) < k) :
    |k * unit - n| = (k - (n / unit : Nat) - 1) * unit + (unit - (n % unit : Nat)) := by
  have whole : (n : ℤ) = unit * (n / unit : Nat) + (n % unit : Nat) := by exact_mod_cast (Nat.div_add_mod n unit).symm
  have rest : ((n % unit : Nat) : ℤ) < unit := by exact_mod_cast Nat.mod_lt n positive
  have more : ((n / unit : Nat) + 1) * (unit : ℤ) ≤ k * unit := mul_le_mul_of_nonneg_right above (by positivity)
  rw [abs_of_nonneg (by linarith)]
  nth_rewrite 1 [whole]
  ring

/-- Below a number the multiple next to it is the nearest, -/
theorem mod_le_abs_mul_sub (n unit : Nat) (positive : 0 < unit) (k : ℤ) (below : k ≤ (n / unit : Nat)) :
    ((n % unit : Nat) : ℤ) ≤ |k * unit - n| ∧
      (((n % unit : Nat) : ℤ) = |k * unit - n| → k = (n / unit : Nat)) := by
  have unitPositive : (0 : ℤ) < unit := by exact_mod_cast positive
  have steps : 0 ≤ ((n / unit : Nat) - k) * (unit : ℤ) := mul_nonneg (by linarith) unitPositive.le
  rw [abs_mul_sub_of_le n unit k below]
  refine ⟨by linarith, fun same => ?_⟩
  have none : ((n / unit : Nat) - k) * (unit : ℤ) = 0 := by linarith
  rcases mul_eq_zero.mp none with equal | zero <;> linarith

/-- and so it is above the number. -/
theorem sub_mod_le_abs_mul_sub (n unit : Nat) (positive : 0 < unit) (k : ℤ) (above : (n / unit : Nat) < k) :
    (unit : ℤ) - (n % unit : Nat) ≤ |k * unit - n| ∧
      ((unit : ℤ) - (n % unit : Nat) = |k * unit - n| → k = (n / unit : Nat) + 1) := by
  have unitPositive : (0 : ℤ) < unit := by exact_mod_cast positive
  have steps : 0 ≤ (k - (n / unit : Nat) - 1) * (unit : ℤ) := mul_nonneg (by linarith) unitPositive.le
  rw [abs_mul_sub_of_lt n unit positive k above]
  refine ⟨by linarith, fun same => ?_⟩
  have none : (k - (n / unit : Nat) - 1) * (unit : ℤ) = 0 := by linarith
  rcases mul_eq_zero.mp none with equal | zero <;> linarith

/-- What rounding can do: it goes down by at most half a unit or up by at most that, and by half only to an even one. -/
theorem divideToEven_cases (n unit : Nat) :
    (divideToEven n unit = n / unit ∧ 2 * (n % unit) ≤ unit ∧ (2 * (n % unit) = unit → Even (n / unit))) ∨
      divideToEven n unit = n / unit + 1 ∧ unit ≤ 2 * (n % unit) ∧
        (2 * (n % unit) = unit → Even (n / unit + 1)) := by
  unfold divideToEven
  dsimp only
  simp only [gt_iff_lt, Bool.or_eq_true, decide_eq_true_eq, Bool.and_eq_true, beq_iff_eq, Nat.even_iff]
  split <;> omega

/-- No multiple of the unit is nearer than the rounded one, and where another is as near, the rounded one is even. -/
theorem divideToEven_nearest (n unit : Nat) (positive : 0 < unit) (k : ℤ) :
    |(divideToEven n unit : ℤ) * unit - n| ≤ |k * unit - n| ∧
      (|(divideToEven n unit : ℤ) * unit - n| = |k * unit - n| →
        k = divideToEven n unit ∨ Even (divideToEven n unit)) := by
  have evenly (half : 2 * ((n % unit : Nat) : ℤ) = unit) : 2 * (n % unit) = unit := by exact_mod_cast half
  have lower := mod_le_abs_mul_sub n unit positive k
  have upper := sub_mod_le_abs_mul_sub n unit positive k
  rcases divideToEven_cases n unit with ⟨down, small, tie⟩ | ⟨up, large, tie⟩
  · have half : 2 * ((n % unit : Nat) : ℤ) ≤ unit := by exact_mod_cast small
    have own := abs_mul_sub_of_le n unit (n / unit : Nat) le_rfl
    rw [sub_self, zero_mul, zero_add] at own
    rw [down, own]
    by_cases below : k ≤ (n / unit : Nat)
    · exact ⟨(lower below).1, fun same => Or.inl ((lower below).2 same)⟩
    · have bound := (upper (not_le.mp below)).1
      exact ⟨by linarith, fun same => Or.inr (tie (evenly (by linarith)))⟩
  · have half : (unit : ℤ) ≤ 2 * (n % unit : Nat) := by exact_mod_cast large
    have own := abs_mul_sub_of_lt n unit positive ((n / unit : Nat) + 1) (lt_add_one _)
    rw [add_sub_cancel_left, sub_self, zero_mul, zero_add] at own
    rw [up, Nat.cast_succ, own]
    by_cases below : k ≤ (n / unit : Nat)
    · have bound := (lower below).1
      exact ⟨by linarith, fun same => Or.inr (tie (evenly (by linarith)))⟩
    · exact ⟨(upper (not_le.mp below)).1, fun same => Or.inl ((upper (not_le.mp below)).2 same)⟩

/-! ### Numbers on a grid -/

theorem exists_magnitude (y : Binary64) (number : y.IsNumber) :
    ∃ (factor : Nat) (exponent : ℤ), factor < 2 ^ 53 ∧ y.magnitude = factor * 2 ^ exponent := by
  cases y with
  | nan => exact number.elim
  | infinite _ => exact ⟨2 ^ 52, greatestExponent + 1, by norm_num, by norm_num [magnitude]⟩
  | finite _ mantissa exponent => exact ⟨mantissa, exponent, number.1, rfl⟩

/-- From the first number of an exponent on, all numbers stand on its grid. -/
theorem point_lt_or_on_grid (y : Binary64) (number : y.IsNumber) (exponent : Nat) :
    y.point < 2 ^ 52 * 2 ^ exponent ∨ ∃ k : ℤ, y.point = k * 2 ^ exponent := by
  obtain ⟨factor, other, small, stands⟩ := exists_magnitude y number
  rw [point, stands]
  by_cases negative : y.isNegative = true
  · have first : (0 : ℚ) < 2 ^ 52 * 2 ^ exponent := by positivity
    have size : (0 : ℚ) ≤ factor * 2 ^ other := by positivity
    rw [if_pos negative]
    exact Or.inl (by linarith)
  · rw [if_neg negative]
    by_cases coarser : (exponent : ℤ) ≤ other
    · refine Or.inr ⟨factor * 2 ^ (other - exponent).toNat, ?_⟩
      have split : other = ((other - exponent).toNat : ℤ) + exponent := by omega
      have power : (2 : ℚ) ^ other = 2 ^ (other - exponent).toNat * 2 ^ exponent := by
        conv_lhs => rw [split, zpow_add₀ two_ne_zero, zpow_natCast, zpow_natCast]
      rw [power]
      push_cast
      ring
    · left
      have power : (2 : ℚ) ^ other ≤ 2 ^ ((exponent : ℤ) - 1) := zpow_le_zpow_right₀ one_le_two (by omega)
      have whole : (2 : ℚ) ^ ((exponent : ℤ) - 1) * 2 = 2 ^ exponent := by
        rw [← zpow_add_one₀ two_ne_zero, sub_add_cancel, zpow_natCast]
      have bound : (factor : ℚ) < 2 ^ 53 := by exact_mod_cast small
      calc (factor : ℚ) * 2 ^ other
          ≤ factor * 2 ^ ((exponent : ℤ) - 1) := mul_le_mul_of_nonneg_left power (by positivity)
        _ < 2 ^ 53 * 2 ^ ((exponent : ℤ) - 1) := mul_lt_mul_of_pos_right bound (by positivity)
        _ = 2 ^ 52 * 2 ^ exponent := by rw [← whole]; ring

theorem divideToEven_nearest_grid (n exponent : Nat) (k : ℤ) :
    |(divideToEven n (2 ^ exponent) : ℚ) * 2 ^ exponent - n| ≤ |(k : ℚ) * 2 ^ exponent - n| ∧
      (|(divideToEven n (2 ^ exponent) : ℚ) * 2 ^ exponent - n| = |(k : ℚ) * 2 ^ exponent - n| →
        k = divideToEven n (2 ^ exponent) ∨ Even (divideToEven n (2 ^ exponent))) := by
  have rounded := divideToEven_nearest n (2 ^ exponent) (Nat.two_pow_pos exponent) k
  rw [Nat.cast_pow, Nat.cast_ofNat] at rounded
  exact_mod_cast rounded

/-- A number rounded on the grid of its own exponent is nearer than all that stands below the grid. -/
theorem nearest_of_grid (n exponent : Nat) (first : 2 ^ 52 * 2 ^ exponent ≤ n) (y : Binary64) (number : y.IsNumber) :
    |(divideToEven n (2 ^ exponent) : ℚ) * 2 ^ exponent - n| ≤ |y.point - n| ∧
      (|(divideToEven n (2 ^ exponent) : ℚ) * 2 ^ exponent - n| = |y.point - n| →
        y.point = divideToEven n (2 ^ exponent) * 2 ^ exponent ∨ Even (divideToEven n (2 ^ exponent))) := by
  rcases point_lt_or_on_grid y number exponent with below | ⟨k, onGrid⟩
  · have start := (divideToEven_nearest_grid n exponent (2 ^ 52)).1
    have least : (2 : ℚ) ^ 52 * 2 ^ exponent ≤ n := by exact_mod_cast first
    have nearer : |(divideToEven n (2 ^ exponent) : ℚ) * 2 ^ exponent - n| < |y.point - n| := by
      rw [Int.cast_pow, Int.cast_ofNat, abs_of_nonpos (a := (2 : ℚ) ^ 52 * 2 ^ exponent - n) (by linarith)] at start
      rw [abs_of_neg (a := y.point - n) (by linarith)]
      linarith
    exact ⟨nearer.le, fun same => absurd same nearer.ne⟩
  · obtain ⟨bound, tie⟩ := divideToEven_nearest_grid n exponent k
    rw [onGrid]
    refine ⟨bound, fun same => (tie same).imp_left ?_⟩
    rintro rfl
    norm_cast

/-! ### The nearest double -/

theorem powerOfTwo_eq (exponent : Nat) : powerOfTwo exponent = 2 ^ exponent := rfl

theorem scale_of_nonneg (n : Nat) (exponent : ℤ) (least : 0 ≤ exponent) :
    scale n 1 exponent = (n, 2 ^ exponent.toNat) := by
  rw [scale, if_pos least, one_mul, powerOfTwo_eq]

theorem scale_of_nonpos (n : Nat) (exponent : ℤ) (greatest : exponent ≤ 0) :
    scale n 1 exponent = (n * 2 ^ (-exponent).toNat, 1) := by
  by_cases zero : exponent = 0
  · subst zero
    rw [scale_of_nonneg n 0 le_rfl]
    simp
  · rw [scale, if_neg (by omega), powerOfTwo_eq]

/-- A natural number has a mantissa of 53 bits at the exponent that its length tells. -/
theorem fittingExponent_one (n : Nat) (positive : n ≠ 0) : fittingExponent n 1 = (Nat.log2 n : ℤ) - 52 := by
  have least := Nat.log2_self_le positive
  have wide : ¬ (scale n 1 ((Nat.log2 n : ℤ) - 53)).1 / (scale n 1 ((Nat.log2 n : ℤ) - 53)).2 < 2 ^ 53 := by
    rw [not_lt]
    by_cases long : 53 ≤ Nat.log2 n
    · have split : 2 ^ 53 * 2 ^ ((Nat.log2 n : ℤ) - 53).toNat = 2 ^ Nat.log2 n := by
        rw [← Nat.pow_add]
        congr 1
        omega
      rw [scale_of_nonneg n _ (by omega), Nat.le_div_iff_mul_le (Nat.two_pow_pos _), split]
      exact least
    · have split : 2 ^ Nat.log2 n * 2 ^ (-((Nat.log2 n : ℤ) - 53)).toNat = 2 ^ 53 := by
        rw [← Nat.pow_add]
        congr 1
        omega
      rw [scale_of_nonpos n _ (by omega), Nat.div_one, ← split]
      exact Nat.mul_le_mul_right _ least
  have one : ((Nat.log2 1 : Nat) : ℤ) = 0 := by decide
  rw [fittingExponent, one, sub_zero, powerOfTwo_eq, if_neg wide, leastExponent]
  omega

/-- The double that a rounded mantissa gives: one bit too wide, it is halved at the next exponent, and beyond the
greatest exponent it is infinity. -/
def ofRounded (mantissa : Nat) (exponent : ℤ) : Binary64 :=
  if mantissa = 2 ^ 53 then
    if exponent + 1 > greatestExponent then .infinite false else .finite false (2 ^ 52) (exponent + 1)
  else if exponent > greatestExponent then .infinite false else .finite false mantissa exponent

theorem ofNat_eq_ofRounded (n : Nat) (positive : n ≠ 0) :
    ofNat n =
      ofRounded (divideToEven (scale n 1 ((Nat.log2 n : ℤ) - 52)).1 (scale n 1 ((Nat.log2 n : ℤ) - 52)).2)
        ((Nat.log2 n : ℤ) - 52) := by
  rw [ofNat, ofQuotient, if_neg (by simpa using positive)]
  simp only [fittingExponent_one n positive, powerOfTwo_eq, beq_iff_eq]
  rw [ofRounded]
  split <;> rfl

section Rounded

variable (mantissa : Nat) (exponent : ℤ)

theorem isNumber_ofRounded (least : 2 ^ 52 ≤ mantissa) (greatest : mantissa ≤ 2 ^ 53)
    (fits : leastExponent ≤ exponent) : (ofRounded mantissa exponent).IsNumber := by
  unfold ofRounded
  split_ifs with wide overflow overflow
  · trivial
  · exact ⟨by norm_num, by omega, by omega, Or.inl le_rfl⟩
  · trivial
  · exact ⟨by omega, fits, by omega, Or.inl least⟩

theorem isNegative_ofRounded : (ofRounded mantissa exponent).isNegative = false := by
  unfold ofRounded
  split_ifs <;> rfl

theorem isEven_ofRounded (even : Even mantissa) : (ofRounded mantissa exponent).IsEven := by
  unfold ofRounded
  split_ifs with wide overflow overflow
  · trivial
  · exact ⟨2 ^ 51, by norm_num⟩
  · trivial
  · exact even

theorem point_ofRounded (bounded : exponent ≤ greatestExponent) :
    (ofRounded mantissa exponent).point = mantissa * 2 ^ exponent := by
  rw [point, isNegative_ofRounded, if_neg Bool.false_ne_true]
  unfold ofRounded
  split_ifs with wide overflow overflow
  · have last : exponent = greatestExponent := by omega
    rw [magnitude, last, wide, zpow_add_one₀ two_ne_zero]
    norm_num
    ring
  · rw [magnitude, wide, zpow_add_one₀ two_ne_zero]
    norm_num
    ring
  · omega
  · rfl

end Rounded

theorem isNearest_of_point_eq (n : Nat) (x : Binary64) (number : x.IsNumber) (unsigned : x.isNegative = false)
    (exact : x.point = n) : IsNearest n x := by
  refine ⟨number, unsigned, fun y _ => ?_, fun y _ same => Or.inl ?_⟩
  · rw [exact, sub_self, abs_zero]
    exact abs_nonneg _
  · rw [exact, sub_self, abs_zero, eq_comm, abs_eq_zero, sub_eq_zero] at same
    rw [same, exact]

theorem magnitude_nonneg (y : Binary64) : 0 ≤ y.magnitude := by
  cases y with
  | nan => exact le_rfl
  | infinite _ =>
    rw [magnitude]
    positivity
  | finite _ mantissa exponent =>
    rw [magnitude]
    positivity

theorem point_le_infinite (y : Binary64) (number : y.IsNumber) : y.point ≤ (infinite false).point := by
  have size : y.magnitude ≤ (infinite false).magnitude := by
    cases y with
    | nan => exact number.elim
    | infinite _ => exact le_rfl
    | finite _ mantissa exponent =>
      have small : (mantissa : ℚ) ≤ 2 ^ 53 := by exact_mod_cast number.1.le
      have power : (2 : ℚ) ^ exponent ≤ 2 ^ greatestExponent := zpow_le_zpow_right₀ one_le_two number.2.2.1
      calc (mantissa : ℚ) * 2 ^ exponent
          ≤ 2 ^ 53 * 2 ^ greatestExponent := mul_le_mul small power (by positivity) (by positivity)
        _ = 2 ^ 52 * 2 ^ (greatestExponent + 1) := by rw [zpow_add_one₀ two_ne_zero]; ring
  have nonneg := y.magnitude_nonneg
  have upper : y.point ≤ y.magnitude := by
    rw [point]
    split <;> linarith
  exact upper.trans size

theorem isNearest_infinite (n : Nat) (beyond : (infinite false).point ≤ n) : IsNearest n (infinite false) := by
  have distance (y : Binary64) (number : y.IsNumber) :
      |(infinite false).point - n| ≤ |y.point - n| ∧
        (|(infinite false).point - n| = |y.point - n| → y.point = (infinite false).point) := by
    have below := point_le_infinite y number
    rw [abs_of_nonpos (by linarith), abs_of_nonpos (by linarith)]
    exact ⟨by linarith, fun same => by linarith⟩
  exact ⟨trivial, rfl, fun y number => (distance y number).1, fun y number same => Or.inl ((distance y number).2 same)⟩

theorem divideToEven_one (n : Nat) : divideToEven n 1 = n := by
  simp [divideToEven, Nat.mod_one]

/-- A number of at most 53 bits is a double. -/
theorem isNearest_short (n shift : Nat) (least : 2 ^ 52 ≤ n * 2 ^ shift) (greatest : n * 2 ^ shift < 2 ^ 53)
    (bounded : shift ≤ 52) : IsNearest n (ofRounded (n * 2 ^ shift) (-shift)) := by
  apply isNearest_of_point_eq
  · exact isNumber_ofRounded _ _ least greatest.le (by rw [leastExponent]; omega)
  · exact isNegative_ofRounded _ _
  · rw [point_ofRounded _ _ (by rw [greatestExponent]; omega), zpow_neg, zpow_natCast, Nat.cast_mul, Nat.cast_pow,
      Nat.cast_ofNat, mul_inv_cancel_right₀ (by positivity)]

/-- A number of more bits is rounded on the grid of its exponent, unless all numbers are below it. -/
theorem isNearest_long (n exponent : Nat) (least : 2 ^ 52 * 2 ^ exponent ≤ n) (greatest : n < 2 ^ 53 * 2 ^ exponent) :
    IsNearest n (ofRounded (divideToEven n (2 ^ exponent)) exponent) := by
  by_cases bounded : (exponent : ℤ) ≤ greatestExponent
  · have lower := (Nat.le_div_iff_mul_le (Nat.two_pow_pos exponent)).mpr least
    have upper := (Nat.div_lt_iff_lt_mul (Nat.two_pow_pos exponent)).mpr greatest
    have range : 2 ^ 52 ≤ divideToEven n (2 ^ exponent) ∧ divideToEven n (2 ^ exponent) ≤ 2 ^ 53 := by
      rcases divideToEven_cases n (2 ^ exponent) with ⟨down, -⟩ | ⟨up, -⟩ <;> omega
    have stands := point_ofRounded (divideToEven n (2 ^ exponent)) exponent bounded
    rw [zpow_natCast] at stands
    refine ⟨isNumber_ofRounded _ _ range.1 range.2 (by rw [leastExponent]; omega), isNegative_ofRounded _ _,
      fun y number => ?_, fun y number same => ?_⟩
    · rw [stands]
      exact (nearest_of_grid n exponent least y number).1
    · rw [stands] at same ⊢
      exact ((nearest_of_grid n exponent least y number).2 same).imp_right (isEven_ofRounded _ _)
  · have overflow : ofRounded (divideToEven n (2 ^ exponent)) exponent = infinite false := by
      unfold ofRounded
      split_ifs <;> first | rfl | omega
    rw [overflow]
    apply isNearest_infinite
    have power : (2 : ℚ) ^ (greatestExponent + 1) ≤ 2 ^ (exponent : ℤ) := zpow_le_zpow_right₀ one_le_two (by omega)
    have start : (2 : ℚ) ^ 52 * 2 ^ exponent ≤ n := by exact_mod_cast least
    calc (infinite false).point
        = 2 ^ 52 * 2 ^ (greatestExponent + 1) := rfl
      _ ≤ 2 ^ 52 * 2 ^ (exponent : ℤ) := mul_le_mul_of_nonneg_left power (by positivity)
      _ ≤ n := by rw [zpow_natCast]; exact start

/-- The double of a natural number is the nearest one, a tie going to the even mantissa. -/
theorem isNearest_ofNat (n : Nat) : IsNearest n (ofNat n) := by
  by_cases zero : n = 0
  · subst zero
    refine isNearest_of_point_eq 0 (Binary64.zero false) ⟨by norm_num, le_rfl, by decide, Or.inr rfl⟩ rfl ?_
    simp [point, Binary64.zero, magnitude, isNegative]
  · have least := Nat.log2_self_le zero
    have greatest := Nat.lt_log2_self (n := n)
    rw [ofNat_eq_ofRounded n zero]
    by_cases short : Nat.log2 n ≤ 52
    · obtain ⟨shift, length⟩ := Nat.exists_eq_add_of_le short
      have exponent : (Nat.log2 n : ℤ) - 52 = -shift := by omega
      have back : (-(-(shift : ℤ))).toNat = shift := by omega
      have lower : 2 ^ Nat.log2 n * 2 ^ shift = 2 ^ 52 := by rw [← Nat.pow_add, length]
      have upper : 2 ^ (Nat.log2 n + 1) * 2 ^ shift = 2 ^ 53 := by
        rw [← Nat.pow_add, Nat.add_right_comm, ← length]
      rw [exponent, scale_of_nonpos n _ (by omega), back, divideToEven_one]
      apply isNearest_short n shift _ _ (by omega)
      · rw [← lower]
        exact Nat.mul_le_mul_right _ least
      · rw [← upper]
        exact Nat.mul_lt_mul_of_pos_right greatest (Nat.two_pow_pos shift)
    · obtain ⟨exponent, length⟩ := Nat.exists_eq_add_of_le (Nat.le_of_lt (not_le.mp short))
      have same : (Nat.log2 n : ℤ) - 52 = exponent := by omega
      have lower : 2 ^ 52 * 2 ^ exponent = 2 ^ Nat.log2 n := by rw [← Nat.pow_add, ← length]
      have upper : 2 ^ 53 * 2 ^ exponent = 2 ^ (Nat.log2 n + 1) := by
        rw [← Nat.pow_add, length, Nat.add_right_comm]
      rw [same, scale_of_nonneg n _ (by omega), Int.toNat_natCast]
      apply isNearest_long n exponent
      · rw [lower]
        exact least
      · rw [upper]
        exact greatest

end Prologue.Binary64
