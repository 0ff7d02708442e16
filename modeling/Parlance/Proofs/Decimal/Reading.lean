import Mathlib
import Parlance.Decimal.Numeral
import Parlance.Proofs.Binary64.Range

/-!
Reading decimals. A decimal is read as the number nearest to it, so what it is read as depends on
nothing but the rational it stands for, and every decimal between the midpoints to the neighbours
of a number is read as that number. Main statements: `Decimal.Scaled.toFloat_eq`,
`Decimal.Scaled.toFloat_congr` and `Decimal.Scaled.toFloat_of_near`.
-/

namespace Parlance.Decimal

theorem tenTo_eq (exponent : Nat) : tenTo exponent = 10 ^ exponent := rfl

theorem tenTo_pos (exponent : Nat) : 0 < tenTo exponent := Nat.pow_pos (by decide)

theorem two_pow_le_ten_pow (blocks : Nat) : 2 ^ (93 * blocks) ≤ 10 ^ (28 * blocks) := by
  rw [pow_mul, pow_mul]
  exact Nat.pow_le_pow_left (by norm_num) blocks

theorem two_mul_one_le {exponent : Nat} (large : 324 ≤ exponent) :
    2 * Binary64.one ≤ tenTo exponent := by
  have digits : 16 + 28 * 11 ≤ exponent := large
  rw [Binary64.one, Binary64.twoTo_eq, tenTo_eq]
  calc 2 * 2 ^ 1074 = 2 ^ 52 * 2 ^ (93 * 11) := by rw [← pow_succ', ← pow_add]
    _ ≤ 10 ^ 16 * 10 ^ (28 * 11) := Nat.mul_le_mul (by norm_num) (two_pow_le_ten_pow 11)
    _ = 10 ^ (16 + 28 * 11) := (pow_add 10 16 _).symm
    _ ≤ 10 ^ exponent := pow_le_pow_right₀ (by decide) digits

theorem two_pow_1024_le {exponent : Nat} (large : 309 ≤ exponent) : 2 ^ 1024 ≤ tenTo exponent := by
  have digits : 28 * 11 + 1 ≤ exponent := large
  calc 2 ^ 1024 = 2 ^ (93 * 11) * 2 := by rw [← pow_succ]
    _ ≤ 10 ^ (28 * 11) * 10 := Nat.mul_le_mul (two_pow_le_ten_pow 11) (by decide)
    _ = 10 ^ (28 * 11 + 1) := (pow_succ 10 _).symm
    _ ≤ 10 ^ exponent := pow_le_pow_right₀ (by decide) digits

namespace Scaled

def value (number : Scaled) : ℚ := number.coefficient * 10 ^ number.exponent

def num (number : Scaled) : Nat := number.coefficient * tenTo number.exponent.toNat

def den (number : Scaled) : Nat := tenTo (-number.exponent).toNat

theorem den_pos (number : Scaled) : 0 < number.den := tenTo_pos _

theorem value_eq (number : Scaled) : number.value = number.num / number.den := by
  have power : (10 : ℚ) ^ number.exponent =
      10 ^ number.exponent.toNat / 10 ^ (-number.exponent).toNat := by
    rw [← zpow_natCast, ← zpow_natCast, ← zpow_sub₀ (by norm_num)]
    congr 1
    omega
  simp only [value, num, den, tenTo_eq, power]
  push_cast
  ring

theorem value_eq_iff (number other : Scaled) :
    number.value = other.value ↔ number.num * other.den = other.num * number.den := by
  have here : (number.den : ℚ) ≠ 0 := Nat.cast_ne_zero.mpr number.den_pos.ne'
  have there : (other.den : ℚ) ≠ 0 := Nat.cast_ne_zero.mpr other.den_pos.ne'
  rw [value_eq, value_eq, div_eq_div_iff here there]
  norm_cast

section

open Binary64

/-- From ten to the 309th on there is no finite number. -/
theorem nearestBits_of_large {number : Scaled} (some : number.coefficient ≠ 0)
    (large : 309 ≤ number.exponent) :
    nearestBits (number.num * one) number.den = infinityBits := by
  have whole : number.den = 1 := by
    rw [den, Int.toNat_of_nonpos (by omega), tenTo_eq, pow_zero]
  have exponent : 309 ≤ number.exponent.toNat := by omega
  refine nearestBits_eq_infinity number.den_pos ?_
  rw [whole, mul_one]
  refine Nat.mul_le_mul_right one ((two_pow_1024_le exponent).trans ?_)
  exact Nat.le_mul_of_pos_left _ (Nat.pos_of_ne_zero some)

theorem nearestBits_of_small {number : Scaled}
    (small : number.exponent + number.coefficient.log2 / 3 + 1 < -323) :
    nearestBits (number.num * one) number.den = 0 := by
  have plain : number.num = number.coefficient := by
    rw [num, Int.toNat_of_nonpos (by omega), tenTo_eq, pow_zero, mul_one]
  have digits : number.coefficient < 10 ^ (number.coefficient.log2 / 3 + 1) := by
    calc number.coefficient < 2 ^ (number.coefficient.log2 + 1) := Nat.lt_log2_self
      _ ≤ 2 ^ (3 * (number.coefficient.log2 / 3 + 1)) :=
          Nat.pow_le_pow_right (by decide) (by omega)
      _ = 8 ^ (number.coefficient.log2 / 3 + 1) := pow_mul 2 3 _
      _ ≤ 10 ^ (number.coefficient.log2 / 3 + 1) := Nat.pow_le_pow_left (by decide) _
  obtain ⟨rest, size⟩ : ∃ rest,
      (-number.exponent).toNat = number.coefficient.log2 / 3 + 1 + (324 + rest) :=
    ⟨(-number.exponent).toNat - (number.coefficient.log2 / 3 + 1 + 324), by omega⟩
  refine nearestBits_eq_zero ?_
  calc 2 * (number.num * one) = number.coefficient * (2 * one) := by rw [plain, mul_left_comm]
    _ < 10 ^ (number.coefficient.log2 / 3 + 1) * tenTo (324 + rest) :=
        Nat.mul_lt_mul_of_lt_of_le digits (two_mul_one_le (Nat.le_add_right 324 rest)) (tenTo_pos _)
    _ = number.den := by rw [den, size, tenTo_eq, tenTo_eq, ← pow_add]

/-- A decimal is read as the number nearest to it; where the work is spared, nothing else would
come of it. -/
theorem toFloat_eq (negative : Bool) (number : Scaled) :
    number.toFloat negative = ofRatio negative number.num number.den := by
  rw [toFloat]
  split
  case isTrue none =>
    have nought : number.num * one = 0 := by rw [num, none, zero_mul, zero_mul]
    rw [ofRatio, ofUnits, nought, nearestBits_eq_zero number.den_pos]
  case isFalse some =>
    split
    case isTrue large => rw [ofRatio, ofUnits, nearestBits_of_large some (by omega)]
    case isFalse =>
      split
      case isTrue small => rw [ofRatio, ofUnits, nearestBits_of_small (by omega)]
      case isFalse => rfl

/-- A decimal is read as a finite number unless it lies half a step past the greatest, or
further. -/
theorem toFloat_isFinite_iff (negative : Bool) (number : Scaled) :
    (number.toFloat negative).isFinite = true ↔ number.value < bound := by
  have positive : (0 : ℚ) < number.den := Nat.cast_pos.mpr number.den_pos
  rw [toFloat_eq, ofRatio_isFinite_iff _ number.den_pos, value_eq, div_lt_iff₀ positive]
  norm_cast

theorem toFloat_of_large (negative : Bool) {number : Scaled} (large : bound ≤ number.value) :
    number.toFloat negative = ofBits negative infinityBits := by
  have upto : nearestBits (number.num * one) number.den ≤ infinityBits := Nat.min_le_right _ _
  have infinite := mt (number.toFloat_isFinite_iff negative).mp (not_lt.mpr large)
  rw [toFloat_eq, ofRatio, ofUnits, ofBits_isFinite_iff negative upto, not_lt] at infinite
  rw [toFloat_eq, ofRatio, ofUnits, upto.antisymm infinite]

/-- What a decimal is read as depends on its rational alone. -/
theorem toFloat_congr (negative : Bool) {number other : Scaled}
    (same : number.value = other.value) : number.toFloat negative = other.toFloat negative := by
  have cross := (value_eq_iff number other).mp same
  have scaled : number.num * one * other.den = other.num * one * number.den := by
    rw [mul_right_comm, cross, mul_right_comm]
  simp only [toFloat_eq, ofRatio, ofUnits,
    nearestBits_congr number.den_pos other.den_pos scaled]

end

end Scaled

/-! ### Intervals -/

section

open Binary64

theorem significand_parity (x : Float) : significand x % 2 = fraction x % 2 := by
  simp only [significand, twoTo_eq]
  split <;> omega

/-- The numbers above a power of two are twice as far apart as those below, but for the least. -/
theorem narrow_iff (x : Float) :
    fraction x = 0 ∧ 1 < exponentField x ↔ significand x = 2 ^ 52 ∧ 0 < step x := by
  have part := fraction_lt x
  simp only [significand, step, twoTo_eq]
  split <;> omega

namespace Interval

theorem holds_iff (interval : Interval) (num den : Nat) :
    interval.holds num den = true ↔
      interval.low * den ≤ num ∧ num ≤ interval.high * den ∧
        (interval.closed = false → interval.low * den ≠ num ∧ num ≠ interval.high * den) := by
  simp only [holds]
  cases interval.closed <;> simp; omega

variable (x : Float) (den : Nat)

theorem closed_iff : (Interval.of x).closed = false ↔ significand x % 2 = 1 := by
  rw [significand_parity]
  simp [Interval.of]

theorem high_mul :
    (Interval.of x).high * den =
      4 * (significand x * (2 ^ step x * den)) + 2 * (2 ^ step x * den) := by
  simp only [Interval.of, units, twoTo_eq]
  ring

theorem low_mul :
    (Interval.of x).low * den =
      4 * (significand x * (2 ^ step x * den)) -
        (if significand x = 2 ^ 52 ∧ 0 < step x then 2 ^ step x * den
          else 2 * (2 ^ step x * den)) := by
  simp only [Interval.of, units, twoTo_eq, narrow_iff]
  split <;> simp only [Nat.sub_mul, mul_assoc]

end Interval

end

/-! ### Decimals that read back -/

namespace Scaled

/-- The decimal lies between the midpoints to the neighbours of a number. -/
def Near (x : Float) (number : Scaled) : Prop :=
  (Interval.of x).holds (4 * (number.num * Binary64.one)) number.den = true

theorem near_of_exact {x : Float} {number : Scaled}
    (exact : number.num * Binary64.one = Binary64.units x * number.den) : number.Near x := by
  have middle : 4 * (Binary64.significand x * (2 ^ Binary64.step x * number.den)) =
      4 * (Binary64.units x * number.den) := by
    rw [Binary64.units, Binary64.twoTo_eq, mul_assoc]
  have spread : 0 < 2 ^ Binary64.step x * number.den :=
    Nat.mul_pos (Nat.two_pow_pos _) number.den_pos
  rw [Near, Interval.holds_iff, Interval.closed_iff, Interval.low_mul, Interval.high_mul, exact,
    ← middle]
  refine ⟨Nat.sub_le _ _, Nat.le_add_right _ _, fun odd => ?_⟩
  have some : 1 * (2 ^ Binary64.step x * number.den) ≤
      Binary64.significand x * (2 ^ Binary64.step x * number.den) :=
    Nat.mul_le_mul_right _ (by omega)
  split <;> omega

open Binary64 in
theorem nearestBits_of_near {x : Float} {number : Scaled} (finite : x.isFinite = true)
    (near : number.Near x) :
    Binary64.nearestBits (number.num * Binary64.one) number.den = Binary64.rank x := by
  have bound := (isFinite_iff_rank x).mp finite
  have normal := step_or_significand x
  obtain ⟨low, high, apart⟩ := (Interval.holds_iff _ _ _).mp near
  rw [Interval.closed_iff] at apart
  rw [Interval.low_mul] at low apart
  rw [Interval.high_mul] at high apart
  refine nearestBits_eq number.den_pos (significand_lt x) normal bound.le ?_ ?_ ?_ ?_
  · split_ifs at low <;> omega
  · intro power later
    rw [if_pos ⟨power, later⟩] at low
    omega
  · omega
  · intro odd
    obtain ⟨above, below⟩ := apart odd
    rw [if_neg (by omega)] at low above
    omega

theorem toFloat_of_near {x : Float} {number : Scaled} (finite : x.isFinite = true)
    (near : number.Near x) : number.toFloat (Binary64.isNegative x) = x := by
  rw [toFloat_eq, Binary64.ofRatio, Binary64.ofUnits, nearestBits_of_near finite near,
    Binary64.ofBits_rank]

end Scaled

/-! ### The shortest decimal -/

section

open Binary64

theorem leadingZeros_le {units : Nat} (fuel j : Nat)
    (enough : one ≤ units * tenTo (j + fuel)) :
    one ≤ units * tenTo (leadingZeros units fuel j) := by
  induction fuel generalizing j with
  | zero => exact enough
  | succ fuel ih =>
      simp only [leadingZeros]
      split
      case isTrue found => exact found
      case isFalse => exact ih (j + 1) (by rwa [Nat.add_right_comm])

/-- A positive number of units is at least its leading power of ten. -/
theorem leadingPower_le {units : Nat} (positive : 0 < units) :
    (10 : ℚ) ^ leadingPower units * one ≤ units := by
  rw [leadingPower]
  split
  case isTrue large =>
    have some : 0 < units / one := Nat.div_pos large (twoTo_pos 1074)
    obtain ⟨count, size⟩ : ∃ count, (Nat.toDigits 10 (units / one)).length = count + 1 :=
      Nat.exists_eq_add_one.mpr Nat.length_toDigits_pos
    have least : 10 ^ count ≤ units / one := by
      rcases Nat.eq_zero_or_pos count with rfl | later
      · exact some
      · by_contra less
        have short := (Nat.length_toDigits_le_iff (by decide) later).mpr (Nat.lt_of_not_le less)
        omega
    have scaled : 10 ^ count * one ≤ units := (Nat.le_div_iff_mul_le (twoTo_pos 1074)).mp least
    rw [size, Nat.cast_add_one, add_sub_cancel_right, zpow_natCast]
    exact_mod_cast scaled
  case isFalse =>
    have enough : one ≤ units * tenTo (1 + 330) := by
      have room := two_mul_one_le (by decide : 324 ≤ 1 + 330)
      exact (Nat.le_mul_of_pos_left _ positive).trans' (by omega)
    have found := leadingZeros_le 330 1 enough
    rw [zpow_neg, zpow_natCast, inv_mul_le_iff₀ (by positivity), mul_comm]
    exact_mod_cast found

/-- The grid sixteen digits below the leading one is finer than a number by as many powers of
ten. -/
theorem grid_le {units : Nat} (positive : 0 < units) :
    10 ^ 16 * ((Scaled.num ⟨1, leadingPower units - 16⟩) * one) ≤
      units * Scaled.den ⟨1, leadingPower units - 16⟩ := by
  have least := leadingPower_le positive
  generalize unit : (⟨1, leadingPower units - 16⟩ : Scaled) = grid
  have value : (10 : ℚ) ^ leadingPower units = 10 ^ 16 * (grid.num / grid.den) := by
    rw [← Scaled.value_eq, ← unit, Scaled.value, Nat.cast_one, one_mul, zpow_sub₀ (by norm_num)]
    norm_num
    ring
  have den : (0 : ℚ) < grid.den := Nat.cast_pos.mpr grid.den_pos
  rw [value, mul_assoc, div_mul_eq_mul_div, mul_div_assoc', div_le_iff₀ den] at least
  exact_mod_cast least

theorem roundHalfEven_cases (num den : Nat) :
    roundHalfEven num den = num / den ∨ roundHalfEven num den = num / den + 1 := by
  simp only [roundHalfEven]
  split_ifs <;> omega

variable {x : Float} {exponent : Int}

theorem near_iff (x : Float) (coefficient : Nat) (exponent : Int) :
    Scaled.Near x ⟨coefficient, exponent⟩ ↔
      (Interval.of x).holds (coefficient * (tenTo exponent.toNat * (4 * one)))
        (tenTo (-exponent).toNat) = true := by
  have same : 4 * (coefficient * tenTo exponent.toNat * one) =
      coefficient * (tenTo exponent.toNat * (4 * one)) := by ring
  rw [Scaled.Near, Scaled.num, Scaled.den, same]

theorem near_of_onGrid? {number : Scaled} (found : onGrid? x exponent = some number) :
    number.Near x := by
  -- whatever is found on a grid reads back
  simp only [onGrid?] at found
  split at found
  case h_1 below _ => exact Option.some.inj found ▸ (near_iff _ _ _).mpr below
  case h_2 _ above => exact Option.some.inj found ▸ (near_iff _ _ _).mpr above
  case h_3 below above =>
    refine Option.some.inj found ▸ (near_iff _ _ _).mpr ?_
    rcases roundHalfEven_cases _ _ with down | up
    · exact down ▸ below
    · exact up ▸ above
  case h_4 => cases found

/-- On a grid as fine as that, one of the two neighbours of a number reads back. -/
theorem Interval.holds_neighbour {grid den : Nat} (positive : 0 < units x) (size : 0 < grid)
    (some : 0 < den) (fine : 10 ^ 16 * grid ≤ 4 * units x * den) :
    (Interval.of x).holds (4 * units x * den / grid * grid) den = true ∨
      (Interval.of x).holds ((4 * units x * den / grid + 1) * grid) den = true := by
  have spread : 0 < 2 ^ step x * den := Nat.mul_pos (Nat.two_pow_pos _) some
  have middle : 4 * units x * den = 4 * (significand x * (2 ^ step x * den)) := by
    rw [units, twoTo_eq]
    ring
  have least : 1 * (2 ^ step x * den) ≤ significand x * (2 ^ step x * den) := by
    exact Nat.mul_le_mul_right _ (Nat.pos_of_mul_pos_right positive)
  have most : significand x * (2 ^ step x * den) ≤ 2 ^ 53 * (2 ^ step x * den) :=
    Nat.mul_le_mul_right _ (significand_lt x).le
  rw [middle] at fine ⊢
  have parts := Nat.div_add_mod' (4 * (significand x * (2 ^ step x * den))) grid
  have rest := Nat.mod_lt (4 * (significand x * (2 ^ step x * den))) size
  rw [Nat.succ_mul (_ / grid), holds_iff, holds_iff, low_mul, high_mul]
  by_cases narrow : significand x = 2 ^ 52 ∧ 0 < step x
  · have power : significand x * (2 ^ step x * den) = 2 ^ 52 * (2 ^ step x * den) := by
      rw [narrow.1]
    rw [if_pos narrow]
    omega
  · rw [if_neg narrow]
    omega

/-- Seventeen digits are enough: on the grid sixteen digits below the leading one, one of the two
neighbours of a number reads back. -/
theorem onGrid?_isSome (positive : 0 < units x) :
    (onGrid? x (leadingPower (units x) - 16)).isSome = true := by
  have fine := grid_le positive
  simp only [Scaled.num, Scaled.den, one_mul] at fine
  simp only [onGrid?]
  generalize leadingPower (units x) - 16 = exponent at fine ⊢
  have size : 0 < tenTo exponent.toNat * (4 * one) :=
    Nat.mul_pos (tenTo_pos _) (Nat.mul_pos (by decide) (twoTo_pos 1074))
  have finer : 10 ^ 16 * (tenTo exponent.toNat * (4 * one)) ≤
      4 * units x * tenTo (-exponent).toNat := by
    rw [mul_left_comm _ 4, mul_assoc 4]
    omega
  rcases Interval.holds_neighbour positive size (tenTo_pos _) finer with below | above
  · rw [below]
    split <;> simp_all
  · rw [above]
    split <;> simp_all

/-- The shortest decimal reads back. -/
theorem near_shortest (positive : 0 < units x) : (shortest x).Near x := by
  have found : ((List.range 17).findSome? fun (digits : Nat) =>
      onGrid? x (leadingPower (units x) - digits)).isSome = true :=
    List.findSome?_isSome_iff.mpr ⟨16, by decide, onGrid?_isSome positive⟩
  obtain ⟨number, found⟩ := Option.isSome_iff_exists.mp found
  obtain ⟨digits, _, grid⟩ := List.exists_of_findSome?_eq_some found
  rw [shortest, found]
  exact near_of_onGrid? grid

end

end Parlance.Decimal
