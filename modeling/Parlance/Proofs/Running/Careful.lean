import Parlance.Proofs.Reading.Callee
import Parlance.Value.Operation

/-!
Programs that are careful with logical operators: the right operands, which may be skipped once the
left ones have decided, contain no call.
-/

namespace Parlance

mutual

def Expr.skippable : Expr → List Expr
  | .literal .. | .ident .. => []
  | .call _ _ arguments _ => Expr.allSkippable arguments
  | .binary op left right _ =>
      (if op.isLogical then [right] else []) ++ (left.skippable ++ right.skippable)
  | .unary _ operand _ => operand.skippable
  | .list items _ => Expr.allSkippable items
  | .map entries _ => Expr.entrySkippable entries
  | .index target position _ => target.skippable ++ position.skippable

def Expr.allSkippable : List Expr → List Expr
  | [] => []
  | expr :: rest => expr.skippable ++ Expr.allSkippable rest

def Expr.entrySkippable : List (MapKey × Expr) → List Expr
  | [] => []
  | (_, value) :: rest => value.skippable ++ Expr.entrySkippable rest

end

mutual

/-- The right operands of the logical operators in a statement, in the bodies of functions too. -/
def Stmt.skippable : Stmt → List Expr
  | .expression value => value.skippable
  | .block body _ => Stmt.allSkippable body
  | .declare _ initial _ => Expr.allSkippable initial.toList
  | .assign _ value _ => value.skippable
  | .define _ _ _ body _ _ => Stmt.allSkippable body
  | .conditional guard body _ otherwise _ =>
      guard.skippable ++ (Stmt.allSkippable body ++ otherwise.skippable)
  | .loop head body _ _ => head.expr.skippable ++ Stmt.allSkippable body
  | .giveBack value _ => Expr.allSkippable value.toList
  | .output what _ => Expr.allSkippable (Stmt.outputArguments what)

def Stmt.allSkippable : List Stmt → List Expr
  | [] => []
  | stmt :: rest => stmt.skippable ++ Stmt.allSkippable rest

def Branch.skippable : Branch → List Expr
  | .absent => []
  | .block body _ => Stmt.allSkippable body
  | .conditional guard body _ otherwise _ =>
      guard.skippable ++ (Stmt.allSkippable body ++ otherwise.skippable)

end

class Skipping (α : Type) where
  skippable : α → List Expr

instance : Skipping Expr := ⟨Expr.skippable⟩

instance : Skipping (List Expr) := ⟨Expr.allSkippable⟩

instance : Skipping (Option Expr) := ⟨fun expr => Expr.allSkippable expr.toList⟩

instance : Skipping (List (MapKey × Expr)) := ⟨Expr.entrySkippable⟩

instance : Skipping Stmt := ⟨Stmt.skippable⟩

instance : Skipping (List Stmt) := ⟨Stmt.allSkippable⟩

instance : Skipping Branch := ⟨Branch.skippable⟩

instance : Skipping Closure := ⟨fun closure => Stmt.allSkippable closure.body⟩

/-- No right operand of a logical operator contains a call. -/
def Careful {α : Type} [Skipping α] (a : α) : Prop :=
  ∀ operand ∈ Skipping.skippable a, operand.callees = []

instance {α : Type} [Skipping α] (a : α) : Decidable (Careful a) :=
  inferInstanceAs (Decidable (∀ operand ∈ Skipping.skippable a, operand.callees = []))

theorem careful_binary {op : BinaryOp} {left right : Expr} {place : Place}
    (careful : Careful (Expr.binary op left right place)) :
    (op.isLogical = true → right.callees = []) ∧ Careful left ∧ Careful right := by
  obtain ⟨here, within⟩ := List.forall_mem_append.mp careful
  refine ⟨fun logical => here right ?_, List.forall_mem_append.mp within⟩
  rw [if_pos logical]
  exact List.mem_singleton_self right

theorem BinaryOp.isLogical_of_decided? {op : BinaryOp} {left result : Value}
    (decided : op.decided? left = some result) : op.isLogical = true := by
  -- only logical operators are decided by their left operands
  cases op <;> first | rfl | cases decided

end Parlance
