import Parlance.Operator
import Parlance.Value

/-!
What the operators do. Arithmetic and order read both operands as numbers; equality compares two
texts as texts and anything else as numbers, up to a tolerance. Division by zero is zero.
-/

namespace Parlance

/-- Numbers closer than this are equal. -/
def tolerance : Float := 0.0001

def Value.agrees (left right : Value) : Bool :=
  match left, right with
  | .text a, .text b => a = b
  | left, right => (left.toNumber - right.toNumber).abs < tolerance

namespace BinaryOp

def quotient (dividend divisor : Float) : Float :=
  if divisor == 0 then 0 else dividend / divisor

def remainder (dividend divisor : Float) : Float :=
  if divisor == 0 then 0 else Binary64.remainder dividend divisor

def apply (op : BinaryOp) (left right : Value) : Value :=
  match op with
  | .add => .number (left.toNumber + right.toNumber)
  | .sub => .number (left.toNumber - right.toNumber)
  | .mul => .number (left.toNumber * right.toNumber)
  | .div => .number (quotient left.toNumber right.toNumber)
  | .mod => .number (remainder left.toNumber right.toNumber)
  | .eq => .boolean (left.agrees right)
  | .ne => .boolean (!left.agrees right)
  | .gt => .boolean (left.toNumber > right.toNumber)
  | .lt => .boolean (left.toNumber < right.toNumber)
  | .ge => .boolean (left.toNumber ≥ right.toNumber)
  | .le => .boolean (left.toNumber ≤ right.toNumber)
  | .and => .boolean (left.toBool && right.toBool)
  | .or => .boolean (left.toBool || right.toBool)

/-- The result of a logical operator that its left operand decides alone. -/
def decided? (op : BinaryOp) (left : Value) : Option Value :=
  match op with
  | .and => if left.toBool then none else some (.boolean false)
  | .or => if left.toBool then some (.boolean true) else none
  | _ => none

/-- A decided result is the result, whatever the right operand. -/
theorem apply_of_decided? {op : BinaryOp} {left result : Value} (h : op.decided? left = some result)
    (right : Value) : op.apply left right = result := by
  cases op <;> simp [decided?] at h <;> simp [apply, h]

@[simp] theorem captured_apply (op : BinaryOp) (left right : Value) :
    (op.apply left right).captured = [] := by
  cases op <;> simp [apply, Value.captured]

end BinaryOp

namespace UnaryOp

def apply (op : UnaryOp) (operand : Value) : Value :=
  match op with
  | .not => .boolean (!operand.toBool)
  | .negate => .number (-operand.toNumber)

@[simp] theorem captured_apply (op : UnaryOp) (operand : Value) :
    (op.apply operand).captured = [] := by
  cases op <;> simp [apply, Value.captured]

end UnaryOp

/-- A keyword asked for as an operator it is not. -/
inductive OperatorError where
  | notBinary (keyword : Keyword)
  | notUnary (keyword : Keyword)
  deriving DecidableEq, Repr

def OperatorError.message : OperatorError → String
  | .notBinary keyword => "Unknown binary operator: " ++ keyword.name
  | .notUnary keyword => "Unknown unary operator: " ++ keyword.name

namespace Keyword

def applyBinary (keyword : Keyword) (left right : Value) : Except OperatorError Value :=
  match keyword.binaryOp? with
  | some op => .ok (op.apply left right)
  | none => .error (.notBinary keyword)

def applyUnary (keyword : Keyword) (operand : Value) : Except OperatorError Value :=
  match keyword.unaryOp? with
  | some op => .ok (op.apply operand)
  | none => .error (.notUnary keyword)

def decided? (keyword : Keyword) (left : Value) : Option Value :=
  keyword.binaryOp?.bind fun op => op.decided? left

end Keyword

end Parlance
