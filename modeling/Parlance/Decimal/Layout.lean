import Parlance.Decimal.Shortest

/-!
How the digits of a number are set out: where positional notation ends, and how an exponent is
written. A number format is one value of `Layout`.
-/

namespace Parlance.Decimal

structure Layout where
  /-- The least power of ten of a leading digit that is written positionally. -/
  least : Int
  /-- The first power of ten of a leading digit that is written with an exponent again. -/
  limit : Int
  /-- A positional whole number keeps `.0`. -/
  pointZero : Bool
  /-- A positive exponent is written with its sign. -/
  plus : Bool
  /-- The least number of digits of an exponent. -/
  exponentDigits : Nat

/-- Drops the zeros at the end of a coefficient. -/
def Scaled.trimmed (fuel : Nat) (number : Scaled) : Scaled :=
  match fuel with
  | 0 => number
  | fuel + 1 =>
      if number.coefficient ≠ 0 ∧ number.coefficient % 10 = 0 then
        Scaled.trimmed fuel ⟨number.coefficient / 10, number.exponent + 1⟩
      else number

def digits (n : Nat) : List Char := Nat.toDigits 10 n

def zeros (count : Nat) : List Char := List.replicate count '0'

namespace Layout

def exponentText (layout : Layout) (exponent : Int) : List Char :=
  let text := digits exponent.natAbs
  let sign := if exponent < 0 then ['-'] else if layout.plus then ['+'] else []
  'e' :: sign ++ zeros (layout.exponentDigits - text.length) ++ text

def magnitude (layout : Layout) (number : Scaled) : List Char :=
  let ⟨coefficient, exponent⟩ := number.trimmed 400
  let text := digits coefficient
  let leading : Int := exponent + text.length - 1
  if layout.least ≤ leading ∧ leading < layout.limit then
    if 0 ≤ exponent then
      text ++ zeros exponent.toNat ++ (if layout.pointZero then ['.', '0'] else [])
    else if 0 ≤ leading then
      let (whole, part) := text.splitAt (leading.toNat + 1)
      whole ++ '.' :: part
    else '0' :: '.' :: zeros (-leading - 1).toNat ++ text
  else
    let (first, part) := text.splitAt 1
    first ++ (if part.isEmpty then [] else '.' :: part) ++ layout.exponentText leading

/-- The text of a number whose digits `choose` finds; zero has the text of its digit. -/
def text (layout : Layout) (choose : Float → Scaled) (x : Float) : String :=
  if x.isNaN then "nan"
  else
    let sign := if Binary64.isNegative x then ['-'] else []
    if x.isInf then String.ofList (sign ++ ['i', 'n', 'f'])
    else if Binary64.units x = 0 then
      String.ofList (sign ++ '0' :: if layout.pointZero then ['.', '0'] else [])
    else String.ofList (sign ++ layout.magnitude (choose x))

end Layout

/-- Positional from a ten-thousandth up to, but not including, ten to the sixteenth. -/
def standard : Layout := ⟨-4, 16, true, true, 2⟩

def text (x : Float) : String := standard.text shortest x

/-- The form of six significant digits. -/
def general : Layout := ⟨-4, 6, false, true, 2⟩

def brief (x : Float) : String := general.text (rounded · 6) x

end Parlance.Decimal
