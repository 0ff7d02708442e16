import Parlance.Proofs.Running.Bearing

/-!
What may come to the binding of a name, read off the text of a program. A statement binds the names
that it declares where it stands, and its assignments aim at names, wherever these are bound. An
arena guards the global binding of a name if none of the functions in it assigns to the name and
none runs over the global scope entered anew.
-/

namespace Parlance

mutual

/-- The names that the assignments in a statement aim at, in the bodies of functions too. -/
def Stmt.targets : Stmt → List String
  | .block body _ => Stmt.allTargets body
  | .assign name _ _ => [name]
  | .define _ _ _ body _ _ => Stmt.allTargets body
  | .conditional _ body _ otherwise _ => Stmt.allTargets body ++ otherwise.targets
  | .loop _ body _ _ => Stmt.allTargets body
  | .expression _ | .declare .. | .giveBack .. | .output .. => []

def Stmt.allTargets : List Stmt → List String
  | [] => []
  | stmt :: rest => stmt.targets ++ Stmt.allTargets rest

def Branch.targets : Branch → List String
  | .absent => []
  | .block body _ => Stmt.allTargets body
  | .conditional _ body _ otherwise _ => Stmt.allTargets body ++ otherwise.targets

end

/-- The names that a statement binds in the scope that it stands in. -/
def Stmt.binds : Stmt → List String
  | .declare name _ _ => [name]
  | .define name byname _ _ _ _ => name.toList ++ byname.toList
  | _ => []

/-- No function assigns to a name. -/
def Spares (name : String) {α : Type} [Bearing α] (a : α) : Prop :=
  ∀ closure ∈ Bearing.closures a, name ∉ Stmt.allTargets closure.body

/-- No function assigns to a name or captured the global scope. -/
structure Harmless (name : String) {α : Type} [Capturing α] [Bearing α] (a : α) : Prop where
  held : Held Arena.locals a
  spares : Spares name a

section

variable {name : String}

/-- Harmless functions are those of a kind. -/
theorem harmless_iff {α : Type} [Capturing α] [Bearing α] {a : α} :
    Harmless name a ↔ Bears (fun closure => name ∉ Stmt.allTargets closure.body) a :=
  ⟨fun harmless => ⟨harmless.held, harmless.spares⟩, fun bears => ⟨bears.held, bears.kindred⟩⟩

theorem harmless_of_nil {α : Type} [Capturing α] [Bearing α] {a : α}
    (captured : Capturing.captured a = []) (closures : Bearing.closures a = []) :
    Harmless name a := harmless_iff.mpr (bears_of_nil captured closures)

theorem harmless_unit : Harmless name () := harmless_iff.mpr bears_unit

theorem harmless_void : Harmless name Value.void := harmless_iff.mpr bears_void

theorem harmless_number (x : Float) : Harmless name (Value.number x) :=
  harmless_iff.mpr (bears_number x)

theorem harmless_ofLiteral (literal : Literal) : Harmless name (Value.ofLiteral literal) :=
  harmless_iff.mpr (bears_ofLiteral literal)

theorem harmless_binary (op : BinaryOp) (left right : Value) :
    Harmless name (op.apply left right) := harmless_iff.mpr (bears_binary op left right)

theorem harmless_unary (op : UnaryOp) (operand : Value) : Harmless name (op.apply operand) :=
  harmless_iff.mpr (bears_unary op operand)

theorem harmless_some {value : Value} : Harmless name (some value) ↔ Harmless name value :=
  harmless_iff.trans (bears_some.trans harmless_iff.symm)

theorem harmless_cons {value : Value} {rest : List Value} :
    Harmless name (value :: rest) ↔ Harmless name value ∧ Harmless name rest :=
  harmless_iff.trans (bears_cons.trans (and_congr harmless_iff.symm harmless_iff.symm))

theorem harmless_list {items : List Value} (harmless : Harmless name items) :
    Harmless name (Value.list items) := ⟨harmless.held, harmless.spares⟩

theorem harmless_map {entries : List (String × Value)} (harmless : Harmless name entries) :
    Harmless name (Value.map entries) := ⟨harmless.held, harmless.spares⟩

theorem harmless_outcome {outcome : Outcome} :
    Harmless name outcome ↔ Harmless name outcome.value :=
  harmless_iff.trans (bears_outcome.trans harmless_iff.symm)

theorem harmless_normal : Harmless name Outcome.normal := harmless_outcome.mpr harmless_void

theorem harmless_put {entries : List (String × Value)} (old : Harmless name entries)
    (key : String) {value : Value} (new : Harmless name value) :
    Harmless name (Table.put key value entries) :=
  harmless_iff.mpr (bears_put (harmless_iff.mp old) key (harmless_iff.mp new))

theorem harmless_item {target : Value} (harmless : Harmless name target) (index : Value) :
    Harmless name (target.item index) :=
  harmless_iff.mpr (bears_item (harmless_iff.mp harmless) index)

theorem harmless_ofValue {value : Value} (harmless : Harmless name value) (index : Nat) :
    Harmless name ((Evaluation.Items.ofValue value).item index) :=
  harmless_iff.mpr (bears_ofValue (harmless_iff.mp harmless) index)

end

/-! ### Arenas -/

namespace Arena

/-- An intact arena in which no function assigns to a name, and where the global scope binds the
name to a value, or not at all. -/
structure Guards (name : String) (bound : Option Value) (stack : List Nat) (arena : Arena) :
    Prop where
  intact : arena.Intact locals stack
  spares : ∀ closure, arena.Holds closure → name ∉ Stmt.allTargets closure.body
  bound_eq : Table.get? name arena.globals = bound

end Arena

/-! ### Handlers -/

def Script.Spares (name : String) : Script → Prop
  | .give answer => Parlance.Spares name (Except.ok answer : Except String Host)
  | .fail _ => True
  | .emit _ next => next.Spares name
  | .lookup _ next => ∀ value : Value, Parlance.Spares name value → (next value).Spares name
  | .invoke function arguments next =>
      Parlance.Spares name function ∧ Parlance.Spares name arguments ∧
        ∀ value : Value, Parlance.Spares name value → (next value).Spares name
  | .attempt function arguments next otherwise =>
      Parlance.Spares name function ∧ Parlance.Spares name arguments ∧
        (∀ value : Value, Parlance.Spares name value → (next value).Spares name) ∧
          ∀ message, (otherwise message).Spares name

def Handler.Spares (name : String) (handler : Handler) : Prop :=
  ∀ request : Request, Parlance.Spares name request.arguments → (handler request).Spares name

/-- No handler makes up a function that assigns to a name or captured the global scope. -/
structure Registry.Spares (name : String) (registry : Registry) : Prop where
  genuine : registry.Genuine
  spares : ∀ entry ∈ registry.handlers, entry.2.handler.Spares name

theorem Script.spares_iff_passes {name : String} (script : Script) :
    script.Spares name ↔ script.Passes fun closure => name ∉ Stmt.allTargets closure.body := by
  induction script with
  | give answer => exact Iff.rfl
  | fail message => exact Iff.rfl
  | emit line next ih => exact ih
  | lookup key next ih => exact forall_congr' fun value => imp_congr_right fun _ => ih value
  | invoke function arguments next ih =>
      refine and_congr Iff.rfl (and_congr Iff.rfl ?_)
      exact forall_congr' fun value => imp_congr_right fun _ => ih value
  | attempt function arguments next otherwise ih ih' =>
      refine and_congr Iff.rfl (and_congr Iff.rfl (and_congr ?_ ?_))
      · exact forall_congr' fun value => imp_congr_right fun _ => ih value
      · exact forall_congr' fun message => ih' message

theorem Handler.apply_spares (name : String) : Handler.apply.Spares name :=
  fun request spares =>
    (Script.spares_iff_passes _).mpr (Handler.apply_passes _ request spares)

end Parlance
