import Parlance.Keyword

/-!
Operators. Binary operators associate to the left and bind by precedence; the two prefix
operators bind tighter than any of them.
-/

namespace Parlance

inductive BinaryOp where
  | add | sub | mul | div | mod | eq | ne | gt | lt | ge | le | and | or
  deriving DecidableEq, Repr, Inhabited

inductive UnaryOp where
  | not | negate
  deriving DecidableEq, Repr, Inhabited

namespace BinaryOp

def keyword : BinaryOp → Keyword
  | .add => .add
  | .sub => .sub
  | .mul => .mul
  | .div => .div
  | .mod => .mod
  | .eq => .eq
  | .ne => .ne
  | .gt => .gt
  | .lt => .lt
  | .ge => .ge
  | .le => .le
  | .and => .and
  | .or => .or

def name (op : BinaryOp) : String := op.keyword.name

/-- The higher binds the tighter. -/
def precedence : BinaryOp → Nat
  | .or => 1
  | .and => 2
  | .eq | .ne => 3
  | .gt | .lt | .ge | .le => 4
  | .add | .sub => 5
  | .mul | .div | .mod => 6

def isLogical : BinaryOp → Bool
  | .and | .or => true
  | _ => false

def isDivision : BinaryOp → Bool
  | .div | .mod => true
  | _ => false

end BinaryOp

namespace UnaryOp

def keyword : UnaryOp → Keyword
  | .not => .not
  | .negate => .sub

def name (op : UnaryOp) : String := op.keyword.name

end UnaryOp

namespace Keyword

def binaryOp? : Keyword → Option BinaryOp
  | .add => some .add
  | .sub => some .sub
  | .mul => some .mul
  | .div => some .div
  | .mod => some .mod
  | .eq => some .eq
  | .ne => some .ne
  | .gt => some .gt
  | .lt => some .lt
  | .ge => some .ge
  | .le => some .le
  | .and => some .and
  | .or => some .or
  | _ => none

def unaryOp? : Keyword → Option UnaryOp
  | .not => some .not
  | .sub => some .negate
  | _ => none

theorem binaryOp?_eq_some_iff {keyword : Keyword} {op : BinaryOp} :
    keyword.binaryOp? = some op ↔ op.keyword = keyword := by
  cases keyword <;> cases op <;> simp [binaryOp?, BinaryOp.keyword]

end Keyword

end Parlance
