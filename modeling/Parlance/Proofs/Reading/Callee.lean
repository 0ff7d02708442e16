import Parlance.Grammar.Statement

/-!
Callees. A program calls by name: a name stands in each of its calls, and what is read of a program
calls only what the readings of its parts call.
-/

namespace Parlance

mutual

def Expr.callees : Expr → List String
  | .literal .. | .ident .. => []
  | .call callee _ arguments _ => callee :: Expr.allCallees arguments
  | .binary _ left right _ => left.callees ++ right.callees
  | .unary _ operand _ => operand.callees
  | .list items _ => Expr.allCallees items
  | .map entries _ => Expr.entryCallees entries
  | .index target position _ => target.callees ++ position.callees

def Expr.allCallees : List Expr → List String
  | [] => []
  | expr :: rest => expr.callees ++ Expr.allCallees rest

def Expr.entryCallees : List (MapKey × Expr) → List String
  | [] => []
  | (_, value) :: rest => value.callees ++ Expr.entryCallees rest

end

def LoopHead.callees (head : LoopHead) : List String := head.expr.callees

mutual

/-- The names that a statement calls, in the bodies of functions too. -/
def Stmt.callees : Stmt → List String
  | .expression value => value.callees
  | .block body _ => Stmt.allCallees body
  | .declare _ initial _ => Expr.allCallees initial.toList
  | .assign _ value _ => value.callees
  | .define _ _ _ body _ _ => Stmt.allCallees body
  | .conditional guard body _ otherwise _ =>
      guard.callees ++ Stmt.allCallees body ++ otherwise.callees
  | .loop head body _ _ => head.callees ++ Stmt.allCallees body
  | .giveBack value _ => Expr.allCallees value.toList
  | .output what _ => Expr.allCallees (Stmt.outputArguments what)

def Stmt.allCallees : List Stmt → List String
  | [] => []
  | stmt :: rest => stmt.callees ++ Stmt.allCallees rest

def Branch.callees : Branch → List String
  | .absent => []
  | .block body _ => Stmt.allCallees body
  | .conditional guard body _ otherwise _ =>
      guard.callees ++ Stmt.allCallees body ++ otherwise.callees

end

theorem Stmt.allCallees_append (front rest : List Stmt) :
    Stmt.allCallees (front ++ rest) = Stmt.allCallees front ++ Stmt.allCallees rest := by
  induction front with
  | nil => rfl
  | cons stmt front ih => simp only [List.cons_append, Stmt.allCallees, ih, List.append_assoc]

class Calling (α : Type) where
  callees : α → List String

export Calling (callees)

namespace Grammar

instance : Calling Unit := ⟨fun _ => []⟩

instance : Calling Bool := ⟨fun _ => []⟩

instance : Calling (Option Token) := ⟨fun _ => []⟩

instance : Calling (Option String) := ⟨fun _ => []⟩

instance : Calling (List Param) := ⟨fun _ => []⟩

instance : Calling Expr := ⟨Expr.callees⟩

instance : Calling (List Expr) := ⟨Expr.allCallees⟩

instance : Calling (Option Expr) := ⟨fun expr => Expr.allCallees expr.toList⟩

instance : Calling (List (MapKey × Expr)) := ⟨Expr.entryCallees⟩

instance : Calling Stmt := ⟨Stmt.callees⟩

instance : Calling (List Stmt) := ⟨Stmt.allCallees⟩

instance : Calling (Option Stmt) := ⟨fun stmt => Stmt.allCallees stmt.toList⟩

instance : Calling Branch := ⟨Branch.callees⟩

instance : Calling Block := ⟨fun block => Stmt.allCallees block.body⟩

instance : Calling Conditional := ⟨fun read => read.stmt.callees⟩

end Grammar

end Parlance
