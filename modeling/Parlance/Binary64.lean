/-!
Double precision numbers in exact arithmetic. Every finite number is a whole multiple of the
smallest positive one, 2 ^ -1074; `units` counts that multiple, so what must be exact is done on
natural numbers: rounding a quotient to the nearest number, remainders, whole parts.
-/

namespace Parlance.Binary64

def twoTo (exponent : Nat) : Nat := Nat.pow 2 exponent

def one : Nat := twoTo 1074

def isNegative (x : Float) : Bool := twoTo 63 ≤ x.toBits.toNat

/-- The eleven bits of the exponent as they are stored. -/
def exponentField (x : Float) : Nat := x.toBits.toNat / twoTo 52 % twoTo 11

/-- The fifty-two stored bits of the significand. -/
def fraction (x : Float) : Nat := x.toBits.toNat % twoTo 52

/-- Neighbours of a finite number are `2 ^ step` units apart. -/
def step (x : Float) : Nat := exponentField x - 1

def significand (x : Float) : Nat :=
  if exponentField x = 0 then fraction x else twoTo 52 + fraction x

/-- The magnitude of a finite number in units. -/
def units (x : Float) : Nat := significand x * twoTo (step x)

/-- The whole number nearest to a quotient; a half goes to the even neighbour. -/
def roundHalfEven (num den : Nat) : Nat :=
  let floor := num / den
  let twice := 2 * (num % den)
  if twice < den then floor
  else if den < twice then floor + 1
  else floor + floor % 2

def infinityBits : Nat := 0x7FF0000000000000

/-- The bits of the magnitude nearest to `num / den` units. -/
def nearestBits (num den : Nat) : Nat :=
  let step := (num / den).log2 - 52
  min (step * twoTo 52 + roundHalfEven num (den * twoTo step)) infinityBits

def ofBits (negative : Bool) (bits : Nat) : Float :=
  Float.ofBits (UInt64.ofNat (if negative then bits + twoTo 63 else bits))

/-- The number nearest to a quotient of units. -/
def ofUnits (negative : Bool) (num den : Nat) : Float :=
  ofBits negative (nearestBits num den)

/-- The number nearest to a quotient. -/
def ofRatio (negative : Bool) (num den : Nat) : Float := ofUnits negative (num * one) den

/-- The number nearest to an integer; infinite past the range. -/
def ofInt (n : Int) : Float := ofRatio (n < 0) n.natAbs 1

def isIntegral (x : Float) : Bool := x.isFinite && units x % one = 0

/-- A finite number without its fraction. -/
def truncate (x : Float) : Int :=
  let whole := units x / one
  if isNegative x then -(whole : Int) else whole

/-- The exact remainder of a division, with the sign of the dividend; the divisor is not zero. -/
def remainder (x y : Float) : Float :=
  if x.isFinite then
    if y.isFinite then ofUnits (isNegative x) (units x % units y) 1
    else if y.isNaN then y
    else x
  else 0 / 0

end Parlance.Binary64
