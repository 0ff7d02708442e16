import Parlance.Operator
import Parlance.Place

/-!
Programs. A program is a list of statements; statements hold expressions and further statements,
expressions hold only expressions. Every node knows the place of the token it came from.
-/

namespace Parlance

inductive Literal where
  | void
  | boolean (value : Bool)
  | text (value : String)
  | number (value : Float)

/-- A key of a map literal; whatever its spelling, it is a text. -/
structure MapKey where
  text : String
  place : Place
  deriving DecidableEq, Repr, Inhabited

inductive Expr where
  | literal (value : Literal) (place : Place)
  | ident (name : String) (place : Place)
  | call (callee : String) (method : Option String) (arguments : List Expr) (place : Place)
  | binary (op : BinaryOp) (left right : Expr) (place : Place)
  | unary (op : UnaryOp) (operand : Expr) (place : Place)
  | list (items : List Expr) (place : Place)
  | map (entries : List (MapKey × Expr)) (place : Place)
  | index (target position : Expr) (place : Place)

structure Param where
  name : String
  place : Place
  deriving DecidableEq, Repr, Inhabited

/-- What a loop goes by: a number of rounds, a guard, or the items of a value. -/
inductive LoopHead where
  | count (rounds : Expr)
  | guard (condition : Expr)
  | each (item : Option String) (items : Expr)

mutual

inductive Stmt where
  | expression (value : Expr)
  | block (body : List Stmt) (place : Place)
  | declare (name : String) (initial : Option Expr) (place : Place)
  | assign (name : String) (value : Expr) (place : Place)
  | define (name byname : Option String) (params : List Param) (body : List Stmt)
      (bodyPlace place : Place)
  | conditional (guard : Expr) (body : List Stmt) (bodyPlace : Place) (otherwise : Branch)
      (place : Place)
  | loop (head : LoopHead) (body : List Stmt) (bodyPlace place : Place)
  | giveBack (value : Option Expr) (place : Place)
  | output (what : Option (Expr × Option Expr)) (place : Place)

/-- What follows a conditional whose guard fails. -/
inductive Branch where
  | absent
  | block (body : List Stmt) (place : Place)
  | conditional (guard : Expr) (body : List Stmt) (bodyPlace : Place) (otherwise : Branch)
      (place : Place)

end

abbrev Program := List Stmt

instance : Inhabited Expr := ⟨.literal .void .start⟩

instance : Inhabited Stmt := ⟨.block [] .start⟩

namespace Expr

def place : Expr → Place
  | .literal _ place | .ident _ place | .call _ _ _ place | .binary _ _ _ place
  | .unary _ _ place | .list _ place | .map _ place | .index _ _ place => place

def isNumber : Expr → Bool
  | .literal (.number _) _ => true
  | _ => false

end Expr

namespace Branch

/-- The statement that a failed guard leads to. -/
def stmt? : Branch → Option Stmt
  | .absent => none
  | .block body place => some (.block body place)
  | .conditional guard body bodyPlace otherwise place =>
      some (.conditional guard body bodyPlace otherwise place)

end Branch

end Parlance
