import Mathlib
import Parlance.Binary64

/-!
The range of numbers, and which of them a quotient is rounded to. A pattern of bits stands for a
finite number unless its exponent is full, and the pattern nearest to a quotient is such unless the
quotient lies half a step past the greatest number, or further. A finite number is its sign and its
rank, and its rank is what is found for every quotient between the midpoints to its neighbours. Main
statements: `Binary64.ofRatio_isFinite_iff`, `Binary64.ofBits_rank`, `Binary64.nearestBits_eq`,
`Binary64.nearestBits_congr` and `Binary64.ofInt_truncate`.
-/

namespace Parlance.Binary64

theorem twoTo_eq (exponent : Nat) : twoTo exponent = 2 ^ exponent := rfl

theorem twoTo_pos (exponent : Nat) : 0 < twoTo exponent := Nat.two_pow_pos exponent

/-! ### Patterns of bits -/

section

open Float.Model (Format UnpackedFloat)
open Float.Model.UnpackedFloat

def Full (bits : BitVec Format.binary64.numBits) : Prop := @unpackExponent .binary64 bits = -1#_

theorem full_iff (bits : BitVec Format.binary64.numBits) :
    Full bits ↔ bits.toNat / 2 ^ 52 % 2 ^ 11 = 2047 := by
  rw [Full, ← BitVec.toNat_inj]
  change (BitVec.extractLsb 62 52 bits).toNat = 2047 ↔ _
  rw [BitVec.extractLsb, BitVec.extractLsb'_toNat, Nat.shiftRight_eq_div_pow]

theorem unpack_isFinite_iff (bits : BitVec Format.binary64.numBits) :
    (unpack .binary64 bits).isFinite = true ↔ ¬ Full bits := by
  unfold unpack
  dsimp only
  rw [Full]
  split_ifs with full <;> simp only [full, UnpackedFloat.isFinite, not_true, not_false_iff,
    Bool.false_eq_true]

theorem full_pack_unpack (bits : BitVec Format.binary64.numBits) :
    Full (pack .binary64 (unpack .binary64 bits)) ↔ Full bits := by
  rw [pack_unpack bits]
  split
  case isTrue nan =>
    exact iff_of_true (of_decide_eq_true isNaNBits_packedNaN).1 (of_decide_eq_true nan).1
  case isFalse => exact Iff.rfl

theorem isFinite_iff (bits : UInt64) :
    (Float.ofBits bits).isFinite = true ↔ bits.toNat / 2 ^ 52 % 2 ^ 11 ≠ 2047 := by
  change (unpack .binary64 (pack .binary64 (unpack .binary64 bits.toBitVec))).isFinite = true ↔ _
  rw [unpack_isFinite_iff, full_pack_unpack, full_iff]
  rfl

end

theorem infinityBits_eq : infinityBits = 2047 * 2 ^ 52 := rfl

/-- With either sign, the first pattern with a full exponent is the infinite one. -/
theorem ofBits_isFinite_iff (negative : Bool) {bits : Nat} (upto : bits ≤ infinityBits) :
    (ofBits negative bits).isFinite = true ↔ bits < infinityBits := by
  have sign : twoTo 63 = 2 ^ 11 * 2 ^ 52 := rfl
  rw [infinityBits_eq] at upto ⊢
  rw [ofBits, isFinite_iff, UInt64.toNat_ofNat', sign]
  cases negative <;> simp only [Bool.false_eq_true, ↓reduceIte] <;> omega

/-! ### The nearest pattern -/

section

variable {num den k : Nat}

theorem le_roundHalfEven (positive : 0 < den) (least : k * den ≤ num) :
    k ≤ roundHalfEven num den := by
  have floor : k ≤ num / den := (Nat.le_div_iff_mul_le positive).mpr least
  simp only [roundHalfEven]
  split_ifs <;> omega

theorem roundHalfEven_le (positive : 0 < den) (most : num < k * den) :
    roundHalfEven num den ≤ k := by
  have floor : num / den < k := (Nat.div_lt_iff_lt_mul positive).mpr most
  simp only [roundHalfEven]
  split_ifs <;> omega

/-- Half a step below an even number a quotient is rounded up to it. -/
theorem roundHalfEven_lt_iff (positive : 0 < den) (odd : k % 2 = 1) :
    roundHalfEven num den < k + 1 ↔ 2 * num < (2 * k + 1) * den := by
  have parts : num = num / den * den + num % den := (Nat.div_add_mod' num den).symm
  have expand : (2 * k + 1) * den = 2 * (k * den) + den := by ring
  rcases lt_trichotomy (num / den) k with less | same | more
  · have least : num < k * den := (Nat.div_lt_iff_lt_mul positive).mp less
    have round := roundHalfEven_le positive least
    omega
  · simp only [roundHalfEven, same]
    rw [same] at parts
    split_ifs <;> omega
  · have most : (k + 1) * den ≤ num := (Nat.le_div_iff_mul_le positive).mp more
    have round := le_roundHalfEven positive most
    rw [Nat.succ_mul] at most
    omega

/-- Half a step past the greatest number, and from there on, the nearest pattern is infinite. -/
theorem nearestBits_lt_iff (positive : 0 < den) :
    nearestBits num den < infinityBits ↔ 2 * num < (2 ^ 54 - 1) * (2 ^ 2045 * den) := by
  have spread (step : Nat) : 0 < den * 2 ^ step := Nat.mul_pos positive (Nat.two_pow_pos step)
  simp only [nearestBits, twoTo_eq, min_lt_iff, lt_irrefl, or_false]
  rw [infinityBits_eq]
  have above : num < 2 ^ ((num / den).log2 + 1) * den :=
    (Nat.div_lt_iff_lt_mul positive).mp Nat.lt_log2_self
  have below (large : 52 < (num / den).log2) : 2 ^ (num / den).log2 * den ≤ num := by
    refine (Nat.le_div_iff_mul_le positive).mp (Nat.log2_self_le ?_)
    rintro nought
    simp [nought] at large
  generalize (num / den).log2 = log at above below ⊢
  -- below the last step the numerator is too small to overflow, above it too large not to; on it
  -- the rounding decides
  rcases lt_trichotomy (log - 52) 2045 with small | same | large
  · have round : roundHalfEven num (den * 2 ^ (log - 52)) ≤ 2 ^ 53 := by
      refine roundHalfEven_le (spread _) (above.trans_le ?_)
      rw [mul_left_comm, ← pow_add, mul_comm]
      exact Nat.mul_le_mul_left den (pow_le_pow_right₀ one_le_two (by omega))
    have less : num < 2 ^ 52 * (2 ^ 2045 * den) := by
      rw [← mul_assoc, ← pow_add]
      refine above.trans_le (Nat.mul_le_mul_right den ?_)
      exact pow_le_pow_right₀ one_le_two (by omega)
    omega
  · have odd : (2 ^ 53 - 1) % 2 = 1 := rfl
    have round : roundHalfEven num (den * 2 ^ 2045) < _ ↔ _ :=
      roundHalfEven_lt_iff (spread 2045) odd
    rw [same, mul_comm (2 ^ 2045) den]
    omega
  · have round : 2 ^ 52 ≤ roundHalfEven num (den * 2 ^ (log - 52)) := by
      refine le_roundHalfEven (spread _) ((below (by omega)).trans' ?_)
      rw [mul_left_comm, ← pow_add, mul_comm]
      exact Nat.mul_le_mul_right den (pow_le_pow_right₀ one_le_two (by omega))
    have more : 2 ^ 53 * (2 ^ 2045 * den) ≤ num := by
      rw [← mul_assoc, ← pow_add]
      refine (Nat.mul_le_mul_right den ?_).trans (below (by omega))
      exact pow_le_pow_right₀ one_le_two (by omega)
    omega

end

/-- Half a step past the greatest number. -/
def bound : Nat := 2 ^ 1024 - 2 ^ 970

theorem ofRatio_isFinite_iff (negative : Bool) {num den : Nat} (positive : 0 < den) :
    (ofRatio negative num den).isFinite = true ↔ num < bound * den := by
  have upto : nearestBits (num * one) den ≤ infinityBits := Nat.min_le_right _ _
  have unit : 0 < one := twoTo_pos 1074
  have power : 2 ^ 2045 = 2 ^ 971 * one := by rw [one, twoTo_eq, ← pow_add]
  have scale : (2 ^ 54 - 1) * (2 ^ 2045 * den) = (2 ^ 54 - 1) * 2 ^ 971 * den * one := by
    rw [power, mul_right_comm (2 ^ 971), ← mul_assoc, ← mul_assoc]
  have step : 2 ^ 971 = 2 * 2 ^ 970 := by rw [← pow_succ']
  have span : 2 ^ 1024 = 2 ^ 54 * 2 ^ 970 := by rw [← pow_add]
  have double : (2 ^ 54 - 1) * (2 * 2 ^ 970) * den = 2 * (bound * den) := by
    rw [bound, span, mul_left_comm, Nat.sub_one_mul, mul_assoc]
  rw [ofRatio, ofUnits, ofBits_isFinite_iff _ upto, nearestBits_lt_iff positive, scale,
    ← mul_assoc, Nat.mul_lt_mul_right unit, step, double]
  omega

theorem ofInt_isFinite_iff (n : Int) : (ofInt n).isFinite = true ↔ n.natAbs < bound := by
  rw [ofInt, ofRatio_isFinite_iff _ Nat.one_pos, Nat.mul_one]

/-! ### Ranks -/

/-- Where a magnitude stands among all of them, counted from zero. -/
def rank (x : Float) : Nat := step x * 2 ^ 52 + significand x

theorem fraction_lt (x : Float) : fraction x < 2 ^ 52 := Nat.mod_lt _ (twoTo_pos 52)

theorem significand_lt (x : Float) : significand x < 2 ^ 53 := by
  have part := fraction_lt x
  simp only [significand, twoTo_eq]
  split <;> omega

/-- Only at the least step a significand may lack its first bit. -/
theorem step_or_significand (x : Float) : step x = 0 ∨ 2 ^ 52 ≤ significand x := by
  simp only [step, significand, twoTo_eq]
  split <;> omega

theorem rank_eq (x : Float) : rank x = exponentField x * 2 ^ 52 + fraction x := by
  simp only [rank, step, significand, twoTo_eq]
  split <;> omega

theorem toBits_eq (x : Float) :
    x.toBits.toNat = if isNegative x then rank x + twoTo 63 else rank x := by
  have bound : x.toBits.toNat < 2 ^ 64 := x.toBits.toNat_lt
  simp only [rank_eq, isNegative, exponentField, fraction, twoTo_eq]
  have parts := Nat.div_add_mod' x.toBits.toNat (2 ^ 52)
  have part : x.toBits.toNat % 2 ^ 52 < 2 ^ 52 := Nat.mod_lt _ (Nat.two_pow_pos 52)
  generalize x.toBits.toNat = bits at *
  generalize bits / 2 ^ 52 = field at *
  generalize bits % 2 ^ 52 = rest at *
  by_cases negative : 2 ^ 63 ≤ bits <;>
    simp only [negative, decide_true, decide_false, Bool.false_eq_true, ↓reduceIte] <;> omega

theorem ofBits_rank (x : Float) : ofBits (isNegative x) (rank x) = x := by
  rw [ofBits, ← toBits_eq, UInt64.ofNat_toNat, Float.ofBits_toBits]

theorem isFinite_iff_rank (x : Float) : x.isFinite = true ↔ rank x < infinityBits := by
  have field : exponentField x < 2 ^ 11 := Nat.mod_lt _ (twoTo_pos 11)
  have part := fraction_lt x
  conv_lhs => rw [← Float.ofBits_toBits x, isFinite_iff]
  change exponentField x ≠ 2047 ↔ _
  rw [rank_eq, infinityBits_eq]
  omega

theorem of_finite {x : Float} (finite : x.isFinite = true) : x.isNaN = false ∧ x.isInf = false := by
  change x.toModel.unpack.isFinite = true at finite
  change x.toModel.unpack.isNaN = false ∧ x.toModel.unpack.isInf = false
  generalize x.toModel.unpack = unpacked at finite
  cases unpacked with
  | zero | finite => exact ⟨rfl, rfl⟩
  | infinity | notANumber => cases finite

theorem units_eq_zero_iff (x : Float) : units x = 0 ↔ rank x = 0 := by
  have normal := step_or_significand x
  have power : 2 ^ step x ≠ 0 := (Nat.two_pow_pos (step x)).ne'
  simp only [units, rank, twoTo_eq, Nat.mul_eq_zero, power, or_false]
  omega

theorem beq_zero_iff (x : Float) : (x == 0) = true ↔ rank x = 0 := by
  have positive : (0 : Float) = ofBits false 0 := by decide
  have negative : (-0 : Float) = ofBits true 0 := by decide
  have some : (0 : Float) ≠ .nan := by decide
  rw [Float.beq_iff_ne_nan_and_eq]
  constructor
  · rintro ⟨-, -, rfl | ⟨rfl, -⟩ | ⟨rfl, -⟩⟩
    · decide
    · decide
    · decide
  · intro nought
    have read := ofBits_rank x
    rw [nought] at read
    cases sign : isNegative x with
    | false =>
        rw [sign, ← positive] at read
        exact ⟨read ▸ some, some, .inl read.symm⟩
    | true =>
        rw [sign, ← negative] at read
        exact ⟨read ▸ by decide, some, .inr (.inr ⟨read.symm, rfl⟩)⟩

/-! ### Rounding -/

section

variable {num den num' den' k step : Nat}

/-- A quotient at most half a unit from a whole number is rounded to it; just half a unit counts
for an even one only. -/
theorem roundHalfEven_eq (positive : 0 < den) (low : 2 * (k * den) ≤ 2 * num + den)
    (high : 2 * num ≤ 2 * (k * den) + den)
    (odd : k % 2 = 1 → 2 * (k * den) < 2 * num + den ∧ 2 * num < 2 * (k * den) + den) :
    roundHalfEven num den = k := by
  have parts : num = num / den * den + num % den := (Nat.div_add_mod' num den).symm
  have small : num % den < den := Nat.mod_lt num positive
  have near : num / den = k ∨ num / den + 1 = k := by
    by_contra! far
    rcases lt_or_gt_of_ne far.1 with less | more
    · have step : (num / den + 2) * den ≤ k * den := Nat.mul_le_mul_right den (by omega)
      rw [Nat.add_mul] at step
      omega
    · have step : (k + 1) * den ≤ num / den * den := Nat.mul_le_mul_right den more
      rw [Nat.succ_mul] at step
      omega
  rcases near with same | less
  · rw [same] at parts
    simp only [roundHalfEven, same]
    split_ifs <;> omega
  · subst less
    rw [Nat.succ_mul (num / den)] at low high odd
    simp only [roundHalfEven]
    split_ifs <;> omega

/-- The numbers around a quotient stand at the step where its significand has all its digits, or at
the least step. -/
theorem nearestBits_of_step (step : Nat) (positive : 0 < den)
    (above : num < 2 ^ 53 * (2 ^ step * den))
    (below : step = 0 ∨ 2 ^ 52 * (2 ^ step * den) ≤ num) :
    nearestBits num den =
      min (step * 2 ^ 52 + roundHalfEven num (2 ^ step * den)) infinityBits := by
  have same : (num / den).log2 - 52 = step := by
    rw [← mul_assoc, ← pow_add] at above below
    have less : num / den < 2 ^ (53 + step) := (Nat.div_lt_iff_lt_mul positive).mpr above
    rcases below with rfl | least
    · have short : (num / den).log2 < 53 := by
        by_cases nought : num / den = 0
        · simp [nought]
        · exact (Nat.log2_lt nought).mpr less
      omega
    · have least : 2 ^ (52 + step) ≤ num / den := (Nat.le_div_iff_mul_le positive).mpr least
      have some : num / den ≠ 0 := (least.trans_lt' (Nat.two_pow_pos _)).ne'
      have log : (num / den).log2 = 52 + step :=
        (Nat.log2_eq_iff some).mpr ⟨least, less.trans_eq (congrArg _ (by omega))⟩
      omega
  simp only [nearestBits, twoTo_eq, same, mul_comm den]

/-- A number of some step and significand is the nearest to what lies between the midpoints to its
neighbours; the midpoints count where the significand is even. Below a power of two the neighbour
is at half the distance. -/
theorem nearestBits_eq (positive : 0 < den) (bounded : k < 2 ^ 53)
    (normal : step = 0 ∨ 2 ^ 52 ≤ k) (finite : step * 2 ^ 52 + k ≤ infinityBits)
    (low : 2 * (k * (2 ^ step * den)) ≤ 2 * num + 2 ^ step * den)
    (narrow : k = 2 ^ 52 → 0 < step → 4 * (k * (2 ^ step * den)) ≤ 4 * num + 2 ^ step * den)
    (high : 2 * num ≤ 2 * (k * (2 ^ step * den)) + 2 ^ step * den)
    (odd : k % 2 = 1 → 2 * (k * (2 ^ step * den)) < 2 * num + 2 ^ step * den ∧
      2 * num < 2 * (k * (2 ^ step * den)) + 2 ^ step * den) :
    nearestBits num den = step * 2 ^ 52 + k := by
  have spread : 0 < 2 ^ step * den := Nat.mul_pos (Nat.two_pow_pos step) positive
  have most : (k + 1) * (2 ^ step * den) ≤ 2 ^ 53 * (2 ^ step * den) :=
    Nat.mul_le_mul_right _ bounded
  rw [Nat.succ_mul] at most
  by_cases crosses : 0 < step ∧ num < 2 ^ 52 * (2 ^ step * den)
  · -- the quotient lies below the power of two, among the numbers of the step before
    obtain ⟨later, less⟩ := crosses
    obtain ⟨step, rfl⟩ := Nat.exists_eq_add_of_lt later
    have double : 2 ^ (0 + step + 1) * den = 2 * (2 ^ step * den) := by ring
    have power : k = 2 ^ 52 := by
      have least : 2 ^ 52 ≤ k := normal.resolve_left later.ne'
      by_contra other
      have more : (2 ^ 52 + 1) * (2 ^ (0 + step + 1) * den) ≤ k * (2 ^ (0 + step + 1) * den) :=
        Nat.mul_le_mul_right _ (by omega)
      rw [Nat.succ_mul] at more
      omega
    have close := narrow power later
    subst power
    rw [double] at less high close
    have round : roundHalfEven num (2 ^ step * den) = 2 ^ 53 :=
      roundHalfEven_eq (by omega) (by omega) (by omega) (by omega)
    rw [nearestBits_of_step step positive (by omega) (Or.inr (by omega)), round]
    omega
  · have round : roundHalfEven num (2 ^ step * den) = k := roundHalfEven_eq spread low high odd
    rw [nearestBits_of_step step positive (by omega) (by omega), round]
    omega

/-- Less than half a unit is rounded to nothing. -/
theorem nearestBits_eq_zero (small : 2 * num < den) : nearestBits num den = 0 := by
  have nought : num / den = 0 := Nat.div_eq_of_lt (by omega)
  have rest : num % den = num := Nat.mod_eq_of_lt (by omega)
  simp [nearestBits, roundHalfEven, nought, rest, small, twoTo_eq]

theorem nearestBits_eq_infinity (positive : 0 < den) (large : 2 ^ 1024 * (one * den) ≤ num) :
    nearestBits num den = infinityBits := by
  have upto : nearestBits num den ≤ infinityBits := Nat.min_le_right _ _
  refine upto.antisymm (Nat.le_of_not_lt ?_)
  rw [nearestBits_lt_iff positive, Nat.not_lt]
  have scale : 2 ^ 1024 * (one * den) = 2 ^ 53 * (2 ^ 2045 * den) := by
    rw [one, twoTo_eq, ← mul_assoc, ← mul_assoc, ← pow_add, ← pow_add]
  omega

theorem roundHalfEven_mul (factor : 0 < k) (num den : Nat) :
    roundHalfEven (num * k) (den * k) = roundHalfEven num den := by
  have twice : 2 * (num % den * k) = 2 * (num % den) * k := (Nat.mul_assoc 2 _ k).symm
  simp only [roundHalfEven, Nat.mul_div_mul_right _ _ factor, Nat.mul_mod_mul_right, twice,
    Nat.mul_lt_mul_right factor]

theorem nearestBits_mul (factor : 0 < k) (num den : Nat) :
    nearestBits (num * k) (den * k) = nearestBits num den := by
  simp only [nearestBits, Nat.mul_div_mul_right _ _ factor, mul_right_comm den k,
    roundHalfEven_mul factor]

/-- The nearest number depends on the quotient alone. -/
theorem nearestBits_congr (positive : 0 < den) (positive' : 0 < den')
    (same : num * den' = num' * den) : nearestBits num den = nearestBits num' den' := by
  rw [← nearestBits_mul positive' num den, ← nearestBits_mul positive num' den', same,
    mul_comm den]

end

/-! ### Whole numbers -/

section

variable {x : Float}

theorem nearestBits_units (finite : x.isFinite = true) : nearestBits (units x) 1 = rank x := by
  have bound := (isFinite_iff_rank x).mp finite
  have some : 0 < 2 ^ step x * 1 := Nat.mul_pos (Nat.two_pow_pos _) Nat.one_pos
  have exact : units x = significand x * (2 ^ step x * 1) := by rw [Nat.mul_one]; rfl
  rw [exact]
  exact nearestBits_eq Nat.one_pos (significand_lt x) (step_or_significand x) bound.le (by omega)
    (by omega) (by omega) (by omega)

theorem isIntegral_iff : isIntegral x = true ↔
    x.isFinite = true ∧ units x = units x / one * one := by
  have parts := Nat.div_add_mod' (units x) one
  have divides : units x % one = 0 ↔ units x = units x / one * one := by omega
  rw [isIntegral, Bool.and_eq_true, decide_eq_true_eq, divides]

theorem isIntegral_of_zero (nought : (x == 0) = true) : isIntegral x = true := by
  have none := (beq_zero_iff x).mp nought
  have finite : x.isFinite = true := by
    rw [isFinite_iff_rank, none]
    decide
  have units := (units_eq_zero_iff x).mpr none
  exact isIntegral_iff.mpr ⟨finite, by rw [units, Nat.zero_div, Nat.zero_mul]⟩

theorem natAbs_truncate (x : Float) : (truncate x).natAbs = units x / one := by
  rw [truncate]
  generalize units x / one = whole
  split <;> simp

theorem truncate_of_zero (nought : (x == 0) = true) : truncate x = 0 := by
  rw [← Int.natAbs_eq_zero, natAbs_truncate, (units_eq_zero_iff x).mpr ((beq_zero_iff x).mp nought),
    Nat.zero_div]

theorem truncate_neg_iff (x : Float) :
    truncate x < 0 ↔ isNegative x = true ∧ units x / one ≠ 0 := by
  rw [truncate]
  generalize units x / one = whole
  split
  case isTrue negative => simp [negative, Nat.pos_iff_ne_zero]
  case isFalse positive => simp [positive]

/-- A whole number is the number nearest to it, but for the sign of zero. -/
theorem ofInt_truncate (integral : isIntegral x = true) :
    ofInt (truncate x) = if x == 0 then 0 else x := by
  obtain ⟨finite, exact⟩ := isIntegral_iff.mp integral
  have sign := truncate_neg_iff x
  rw [ofInt, ofRatio, ofUnits, natAbs_truncate, ← exact, nearestBits_units finite]
  by_cases nought : (x == 0) = true
  · have none := (beq_zero_iff x).mp nought
    rw [if_pos nought, none, truncate_of_zero nought]
    decide
  · have whole : units x / one ≠ 0 := by
      rw [beq_zero_iff, ← units_eq_zero_iff] at nought
      intro none
      rw [exact, none, Nat.zero_mul] at nought
      exact nought rfl
    have same : decide (truncate x < 0) = isNegative x := by
      simp only [sign, ne_eq, whole, not_false_iff, and_true, Bool.decide_eq_true]
    rw [if_neg nought, same, ofBits_rank]

def value (x : Float) : ℚ := (if isNegative x then -1 else 1) * (units x / one)

theorem value_of_isIntegral (integral : isIntegral x = true) : value x = truncate x := by
  have unit : (one : ℚ) ≠ 0 := Nat.cast_ne_zero.mpr (twoTo_pos 1074).ne'
  have whole : (units x : ℚ) / one = (units x / one : Nat) := by
    rw [div_eq_iff unit, ← Nat.cast_mul, ← (isIntegral_iff.mp integral).2]
  rw [value, truncate, whole]
  generalize units x / one = whole
  split <;> simp

theorem isIntegral_of_value {n : Int} (finite : x.isFinite = true) (whole : value x = n) :
    isIntegral x = true := by
  have unit : (one : ℚ) ≠ 0 := Nat.cast_ne_zero.mpr (twoTo_pos 1074).ne'
  have magnitude : (units x : ℚ) / one = n.natAbs := by
    have positive : (0 : ℚ) ≤ units x / one := div_nonneg (Nat.cast_nonneg _) (Nat.cast_nonneg _)
    rw [Nat.cast_natAbs, Int.cast_abs, ← whole, value, abs_mul, abs_of_nonneg positive]
    generalize (units x : ℚ) / one = magnitude
    split <;> simp
  have exact : units x = n.natAbs * one := by
    rw [div_eq_iff unit] at magnitude
    exact_mod_cast magnitude
  have positive : 0 < one := twoTo_pos 1074
  exact isIntegral_iff.mpr ⟨finite, by rw [exact, Nat.mul_div_cancel _ positive]⟩

end

end Parlance.Binary64
