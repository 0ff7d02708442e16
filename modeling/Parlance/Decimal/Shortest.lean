import Parlance.Binary64

/-!
Decimal digits of a double: the fewest digits that read back to the number, the nearest of them
if there is a choice, and a given number of digits, correctly rounded.

A decimal is a coefficient and a power of ten. It reads back to a number if it lies between the
midpoints to the number's neighbours; the midpoints themselves count for an even significand.
-/

namespace Parlance.Decimal

def tenTo (exponent : Nat) : Nat := Nat.pow 10 exponent

/-- The decimal `coefficient * 10 ^ exponent`. -/
structure Scaled where
  coefficient : Nat
  exponent : Int
  deriving DecidableEq, Repr, Inhabited

/-- The least `j ≥ from` with `one ≤ units * 10 ^ j`, looked for over `fuel` values. -/
def leadingZeros (units : Nat) : (fuel : Nat) → (j : Nat) → Nat
  | 0, j => j
  | fuel + 1, j =>
      if Binary64.one ≤ units * tenTo j then j else leadingZeros units fuel (j + 1)

/-- The power of ten of the leading digit of a positive number of units. -/
def leadingPower (units : Nat) : Int :=
  if Binary64.one ≤ units then
    (Nat.toDigits 10 (units / Binary64.one)).length - 1
  else -(leadingZeros units 330 1 : Int)

/-- Quarters of units between the midpoints to the neighbours of a positive number. -/
structure Interval where
  low : Nat
  high : Nat
  closed : Bool

def Interval.of (x : Float) : Interval :=
  let middle := 4 * Binary64.units x
  let gap := Binary64.twoTo (Binary64.step x)
  let narrow := Binary64.fraction x = 0 ∧ 1 < Binary64.exponentField x
  ⟨middle - (if narrow then gap else 2 * gap), middle + 2 * gap, Binary64.fraction x % 2 = 0⟩

/-- The quotient `num / den` of quarter units lies in the interval. -/
def Interval.holds (interval : Interval) (num den : Nat) : Bool :=
  if interval.closed then interval.low * den ≤ num && num ≤ interval.high * den
  else interval.low * den < num && num < interval.high * den

/-- The decimal nearest to `x` of those with the given exponent that read back to it; a tie goes
to the even coefficient. -/
def onGrid? (x : Float) (exponent : Int) : Option Scaled :=
  let grid := tenTo exponent.toNat * (4 * Binary64.one)
  let den := tenTo (-exponent).toNat
  let value := 4 * Binary64.units x * den
  let below := value / grid
  let holds (coefficient : Nat) := (Interval.of x).holds (coefficient * grid) den
  match holds below, holds (below + 1) with
  | true, false => some ⟨below, exponent⟩
  | false, true => some ⟨below + 1, exponent⟩
  | true, true => some ⟨Binary64.roundHalfEven value grid, exponent⟩
  | false, false => none

/-- The shortest decimal that reads back to a positive finite number. Seventeen digits are always
enough. -/
def shortest (x : Float) : Scaled :=
  let leading := leadingPower (Binary64.units x)
  ((List.range 17).findSome? fun (digits : Nat) => onGrid? x (leading - digits)).getD ⟨0, 0⟩

/-- A positive finite number rounded to so many significant digits, a half to even. -/
def rounded (x : Float) (digits : Nat) : Scaled :=
  let units := Binary64.units x
  let exponent := leadingPower units + 1 - digits
  let grid := tenTo exponent.toNat * Binary64.one
  ⟨Binary64.roundHalfEven (units * tenTo (-exponent).toNat) grid, exponent⟩

end Parlance.Decimal
