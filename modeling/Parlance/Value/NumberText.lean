import Parlance.Decimal.Layout
import Parlance.Decimal.Numeral
import Parlance.Keyword
import Parlance.Unicode.Blank

/-!
Texts of numbers, and numbers of texts. A whole number below ten to the sixteenth is written
without a fraction, any other in the shortest form that reads back. A text is read as a numeral,
else as a word for a number, and else it is zero.
-/

namespace Parlance

def integerText (n : Int) : String :=
  String.ofList ((if n < 0 then ['-'] else []) ++ Decimal.digits n.natAbs)

def numberText (x : Float) : String :=
  if Binary64.isIntegral x ∧ Binary64.units x < Decimal.tenTo 16 * Binary64.one then
    integerText (Binary64.truncate x)
  else Decimal.text x

/-- The number that a text stands for. A numeral too large for a number is zero. -/
def numberOfText (text : String) : Float :=
  let trimmed := Unicode.trim text.toList
  match Decimal.numeralValue? trimmed with
  | some value => if value.isFinite then value else 0
  | none => (numberWord? (String.ofList trimmed)).getD 0

end Parlance
