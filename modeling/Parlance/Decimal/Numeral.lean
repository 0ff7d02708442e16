import Parlance.Decimal.Shortest
import Parlance.Unicode.Digit

/-!
Reading numerals. A numeral is an optional sign, digits of any script with at most one point
among them (at least one digit), and perhaps an exponent.
-/

namespace Parlance.Decimal

/-- The double nearest to a decimal; infinite past the range. The two cuts only spare the work:
from ten to the 310th on every number is infinite, and below ten to the -330th every one is
zero. -/
def Scaled.toFloat (negative : Bool) (number : Scaled) : Float :=
  if number.coefficient = 0 then Binary64.ofBits negative 0
  else if 310 < number.exponent then Binary64.ofBits negative Binary64.infinityBits
  else if number.exponent + number.coefficient.log2 / 3 + 1 < -330 then
    Binary64.ofBits negative 0
  else
    Binary64.ofRatio negative (number.coefficient * tenTo number.exponent.toNat)
      (tenTo (-number.exponent).toNat)

/-- The values of the digits at the head of a text, and what follows them. -/
def digitRun : List Char → List Nat × List Char
  | [] => ([], [])
  | c :: rest =>
      match Unicode.digitValue? c with
      | some value => ((digitRun rest).map (value :: ·) id)
      | none => ([], c :: rest)

def ofDigits (values : List Nat) : Nat := values.foldl (fun n value => 10 * n + value) 0

def signed (text : List Char) : Bool × List Char :=
  match text with
  | '-' :: rest => (true, rest)
  | '+' :: rest => (false, rest)
  | _ => (false, text)

/-- The digits after a point at the head of the text; without a point there are none. -/
def pointRun (text : List Char) : List Nat × List Char :=
  match text with
  | '.' :: rest => digitRun rest
  | _ => ([], text)

/-- The exponent that is the rest of a numeral; without one it is zero. -/
def exponentOf? (text : List Char) : Option Int :=
  match text with
  | [] => some 0
  | mark :: rest =>
      if mark = 'e' ∨ mark = 'E' then
        let (negative, rest) := signed rest
        match digitRun rest with
        | ([], _) => none
        | (values, []) => some (if negative then -(ofDigits values : Int) else ofDigits values)
        | _ => none
      else none

def numeral? (text : List Char) : Option (Bool × Scaled) :=
  let (negative, text) := signed text
  let (whole, text) := digitRun text
  let (part, text) := pointRun text
  if whole.isEmpty ∧ part.isEmpty then none
  else
    (exponentOf? text).map fun exponent =>
      (negative, ⟨ofDigits (whole ++ part), exponent - part.length⟩)

def numeralValue? (text : List Char) : Option Float :=
  (numeral? text).map fun (negative, number) => number.toFloat negative

end Parlance.Decimal
