import Parlance.Proofs.Running.Genuine

/-!
The functions that a run meets: those in what is handed on, those that an arena binds, and those
that handlers make up. What all of them have in common they keep, whatever is made of values and
whatever is bound, as long as it holds of the functions that a program defines.
-/

namespace Parlance

mutual

/-- The functions anywhere in a value. -/
def Value.closures : Value → List Closure
  | .function closure => [closure]
  | .list items => Value.itemsClosures items
  | .map entries => Value.entriesClosures entries
  | _ => []

def Value.itemsClosures : List Value → List Closure
  | [] => []
  | item :: rest => item.closures ++ Value.itemsClosures rest

def Value.entriesClosures : List (String × Value) → List Closure
  | [] => []
  | (_, value) :: rest => value.closures ++ Value.entriesClosures rest

end

class Bearing (α : Type) where
  closures : α → List Closure

instance : Bearing Unit := ⟨fun _ => []⟩

instance : Bearing Value := ⟨Value.closures⟩

instance : Bearing (Option Value) := ⟨fun value => value.toList.flatMap Value.closures⟩

instance : Bearing (List Value) := ⟨Value.itemsClosures⟩

instance : Bearing (List (String × Value)) := ⟨Value.entriesClosures⟩

instance : Bearing Outcome := ⟨fun outcome => outcome.value.closures⟩

instance : Bearing (Option Nat) := ⟨fun _ => []⟩

instance : Bearing (Except String Host) where
  closures
    | .ok answer =>
        match answer.toValue with
        | .ok value => value.closures
        | .error _ => []
    | .error _ => []

/-- All functions are of a kind. -/
def Kindred (kind : Closure → Prop) {α : Type} [Bearing α] (a : α) : Prop :=
  ∀ closure ∈ Bearing.closures a, kind closure

/-- All functions are of a kind, and none captured the global scope. -/
structure Bears (kind : Closure → Prop) {α : Type} [Capturing α] [Bearing α] (a : α) : Prop where
  held : Held Arena.locals a
  kindred : Kindred kind a

section

variable {kind : Closure → Prop}

theorem kindred_items {items : List Value} :
    Kindred kind items ↔ ∀ item ∈ items, Kindred kind item := by
  induction items with
  | nil => simp [Kindred, Bearing.closures, Value.itemsClosures]
  | cons item rest ih =>
      rw [List.forall_mem_cons, ← ih]
      exact List.forall_mem_append

theorem kindred_entries {entries : List (String × Value)} :
    Kindred kind entries ↔ ∀ entry ∈ entries, Kindred kind entry.2 := by
  induction entries with
  | nil => simp [Kindred, Bearing.closures, Value.entriesClosures]
  | cons entry rest ih =>
      rw [List.forall_mem_cons, ← ih]
      exact List.forall_mem_append

theorem kindred_function {closure : Closure} :
    Kindred kind (Value.function closure) ↔ kind closure := by
  simp [Kindred, Bearing.closures, Value.closures]

theorem bears_of_nil {α : Type} [Capturing α] [Bearing α] {a : α}
    (captured : Capturing.captured a = []) (closures : Bearing.closures a = []) :
    Bears kind a := by
  constructor
  · rw [Held, captured]
    exact List.forall_mem_nil _
  · rw [Kindred, closures]
    exact List.forall_mem_nil _

theorem bears_unit : Bears kind () := bears_of_nil rfl rfl

theorem bears_void : Bears kind Value.void :=
  bears_of_nil (by simp [Capturing.captured, Value.captured])
    (by simp [Bearing.closures, Value.closures])

theorem bears_text (s : String) : Bears kind (Value.text s) :=
  bears_of_nil (by simp [Capturing.captured, Value.captured])
    (by simp [Bearing.closures, Value.closures])

theorem bears_number (x : Float) : Bears kind (Value.number x) :=
  bears_of_nil (by simp [Capturing.captured, Value.captured])
    (by simp [Bearing.closures, Value.closures])

theorem bears_ofLiteral (literal : Literal) : Bears kind (Value.ofLiteral literal) :=
  bears_of_nil (by cases literal <;> simp [Capturing.captured, Value.ofLiteral, Value.captured])
    (by cases literal <;> simp [Bearing.closures, Value.ofLiteral, Value.closures])

theorem bears_binary (op : BinaryOp) (left right : Value) : Bears kind (op.apply left right) :=
  bears_of_nil (BinaryOp.captured_apply op left right)
    (by cases op <;> simp [Bearing.closures, BinaryOp.apply, Value.closures])

theorem bears_unary (op : UnaryOp) (operand : Value) : Bears kind (op.apply operand) :=
  bears_of_nil (UnaryOp.captured_apply op operand)
    (by cases op <;> simp [Bearing.closures, UnaryOp.apply, Value.closures])

theorem bears_some {value : Value} : Bears kind (some value) ↔ Bears kind value := by
  have held : Held Arena.locals (some value) ↔ Held Arena.locals value := by
    simp [Held, Capturing.captured]
  have kindred : Kindred kind (some value) ↔ Kindred kind value := by
    simp [Kindred, Bearing.closures]
  exact ⟨fun bears => ⟨held.mp bears.held, kindred.mp bears.kindred⟩,
    fun bears => ⟨held.mpr bears.held, kindred.mpr bears.kindred⟩⟩

theorem bears_cons {value : Value} {rest : List Value} :
    Bears kind (value :: rest) ↔ Bears kind value ∧ Bears kind rest := by
  constructor
  · rintro ⟨held, kindred⟩
    obtain ⟨first, later⟩ := held_cons.mp held
    obtain ⟨first', later'⟩ := List.forall_mem_append.mp kindred
    exact ⟨⟨first, first'⟩, later, later'⟩
  · rintro ⟨first, later⟩
    exact ⟨held_cons.mpr ⟨first.held, later.held⟩,
      List.forall_mem_append.mpr ⟨first.kindred, later.kindred⟩⟩

theorem bears_list {items : List Value} (bears : Bears kind items) :
    Bears kind (Value.list items) := ⟨bears.held, bears.kindred⟩

theorem bears_map {entries : List (String × Value)} (bears : Bears kind entries) :
    Bears kind (Value.map entries) := ⟨bears.held, bears.kindred⟩

theorem bears_outcome {outcome : Outcome} : Bears kind outcome ↔ Bears kind outcome.value :=
  ⟨fun bears => ⟨bears.held, bears.kindred⟩, fun bears => ⟨bears.held, bears.kindred⟩⟩

theorem bears_normal : Bears kind Outcome.normal := bears_outcome.mpr bears_void

theorem bears_put {entries : List (String × Value)} (old : Bears kind entries) (key : String)
    {value : Value} (new : Bears kind value) : Bears kind (Table.put key value entries) := by
  refine ⟨held_put old.held key new.held, kindred_entries.mpr fun entry member => ?_⟩
  rcases Table.mem_put member with rfl | before
  · exact new.kindred
  · exact kindred_entries.mp old.kindred entry before

theorem bears_item {target : Value} (bears : Bears kind target) (index : Value) :
    Bears kind (target.item index) := by
  refine ⟨held_item bears.held index, ?_⟩
  refine Value.item_parts (P := fun value => Kindred kind value) bears_void.kindred
    (fun s => (bears_text s).kindred) target index ?_ ?_
  · rintro items rfl
    exact kindred_items.mp bears.kindred
  · rintro entries rfl
    exact kindred_entries.mp bears.kindred

theorem bears_ofValue {value : Value} (bears : Bears kind value) (index : Nat) :
    Bears kind ((Evaluation.Items.ofValue value).item index) := by
  refine ⟨held_ofValue bears.held index, ?_⟩
  refine Evaluation.Items.ofValue_parts (P := fun value => Kindred kind value)
    bears_void.kindred (fun s => (bears_text s).kindred)
    (fun x => (bears_number x).kindred) value index ?_
  rintro items rfl
  exact kindred_items.mp bears.kindred

end

/-! ### Arenas -/

namespace Arena

/-- A live scope binds a function, or a list or a map that it is in. -/
def Holds (arena : Arena) (closure : Closure) : Prop :=
  ∃ id bindings key value, Table.get? id arena.scopes = some bindings ∧
    Table.get? key bindings = some value ∧ closure ∈ value.closures

/-- An intact arena in which all functions are of a kind. -/
structure Bears (kind : Closure → Prop) (stack : List Nat) (arena : Arena) : Prop where
  intact : arena.Intact locals stack
  kindred : ∀ closure, arena.Holds closure → kind closure

namespace Bears

variable {kind : Closure → Prop} {stack : List Nat} {arena : Arena}

theorem of_same (bears : arena.Bears kind stack) {after : Arena} {entered : List Nat}
    (intact : after.Intact locals entered) (scopes : after.scopes = arena.scopes) :
    after.Bears kind entered where
  intact := intact
  kindred := by
    rintro closure ⟨id, bindings, key, value, found, here, member⟩
    exact bears.kindred closure ⟨id, bindings, key, value, scopes ▸ found, here, member⟩

theorem carry (bears : arena.Bears kind stack) (value : Value) :
    (arena.carry value).Bears kind stack :=
  bears.of_same (bears.intact.carry value) (carry_scopes value arena)

theorem push (bears : arena.Bears kind stack) {id : Nat} (live : arena.isLive id = true)
    (here : id ∈ locals) : (Arena.push id arena).Bears kind (id :: stack) :=
  bears.of_same (bears.intact.push live here) rfl

/-- A scope that a function captures is not the global one. -/
theorem capture {id : Nat} (bears : arena.Bears kind (id :: stack)) :
    (arena.pin id).Bears kind (id :: stack) :=
  bears.of_same bears.intact.capture.locals (pin_scopes id arena)

theorem pushFresh (bears : arena.Bears kind stack) :
    arena.pushFresh.Bears kind (arena.nextId :: stack) where
  intact := bears.intact.pushFresh
  kindred := by
    rintro closure ⟨id, bindings, key, value, found, here, member⟩
    simp only [Arena.pushFresh, Table.get?_put] at found
    split at found
    · cases found
      cases here
    · exact bears.kindred closure ⟨id, bindings, key, value, found, here, member⟩

theorem of_shrinks (bears : arena.Bears kind stack) {after : Arena} {entered : List Nat}
    (sound : after.Sound entered) (shrinks : Shrinks arena after) :
    after.Bears kind entered where
  intact := ⟨sound, shrinks.capturesIn bears.intact.captures, bears.intact.uncaptured⟩
  kindred := by
    rintro closure ⟨id, bindings, key, value, found, here, member⟩
    exact bears.kindred closure
      ⟨id, bindings, key, value, shrinks.scopes_old id bindings found, here, member⟩

theorem pop_ok (upkeep : Upkeep) {id : Nat} (bears : arena.Bears kind (id :: stack)) :
    ∃ after, pop upkeep arena = .ok () after ∧ after.Bears kind stack := by
  obtain ⟨after, result, sound, shrinks⟩ := bears.intact.sound.pop_ok upkeep
  exact ⟨after, result, bears.of_shrinks sound shrinks⟩

theorem collect_ok (upkeep : Upkeep) (bears : arena.Bears kind stack) (roots : List Value) :
    ∃ count after, collect upkeep roots arena = .ok count after ∧ after.Bears kind stack := by
  obtain ⟨count, after, result, sound, shrinks, _⟩ := bears.intact.sound.collect_ok upkeep roots
  exact ⟨count, after, result, bears.of_shrinks sound shrinks⟩

theorem withScope (bears : arena.Bears kind stack) {id : Nat} {bindings : Bindings}
    (found : Table.get? id arena.scopes = some bindings) (key : String) {value : Value}
    (new : Parlance.Bears kind value) :
    (arena.withScope id (Table.put key value bindings)).Bears kind stack where
  intact := bears.intact.withScope found key new.held
  kindred := by
    rintro closure ⟨other, others, word, held, scope, here, member⟩
    simp only [Arena.withScope, Table.get?_put] at scope
    split at scope
    · cases scope
      rw [Table.get?_put] at here
      split at here
      · cases here
        exact new.kindred closure member
      · exact bears.kindred closure ⟨id, bindings, word, held, found, here, member⟩
    · exact bears.kindred closure ⟨other, others, word, held, scope, here, member⟩

theorem declare_ok (bears : arena.Bears kind stack) (key : String) {value : Value}
    (new : Parlance.Bears kind value) :
    ∃ after, declare key value arena = .ok () after ∧ after.Bears kind stack := by
  obtain ⟨bindings, found, result⟩ := bears.intact.sound.declare_ok key value
  exact ⟨_, result, bears.withScope found key new⟩

theorem assign_ok (bears : arena.Bears kind stack) (key : String) {value : Value}
    (new : Parlance.Bears kind value) :
    ∃ after, assign key value arena = .ok () after ∧ after.Bears kind stack := by
  obtain ⟨_, bindings, _, found, result⟩ := bears.intact.sound.assign_ok key value
  exact ⟨_, result, bears.withScope found key new⟩

theorem resolve_ok (bears : arena.Bears kind stack) (key : String) :
    ∃ found, arena.resolve key = .ok found ∧ Parlance.Bears kind found := by
  obtain ⟨found, answer⟩ := bears.intact.sound.resolve_ok key
  refine ⟨found, answer, ?_⟩
  cases found with
  | none => exact bears_of_nil rfl rfl
  | some value =>
      refine bears_some.mpr ⟨bears.intact.captures.resolve answer, fun closure member => ?_⟩
      unfold Arena.resolve at answer
      cases search : arena.holder? key arena.stack with
      | error fault => simp [search, Except.map] at answer
      | ok holder =>
          simp only [search, Except.map, Except.ok.injEq, Option.bind_eq_some_iff] at answer
          obtain ⟨id, _, bindings, scope, here⟩ := answer
          exact bears.kindred closure ⟨id, bindings, key, value, scope, here, member⟩

end Bears

end Arena

/-! ### Handlers -/

/-- A script hands on functions of a kind only, if it is handed no others. -/
def Script.Passes (kind : Closure → Prop) : Script → Prop
  | .give answer => Kindred kind (Except.ok answer : Except String Host)
  | .fail _ => True
  | .emit _ next => next.Passes kind
  | .lookup _ next => ∀ value : Value, Kindred kind value → (next value).Passes kind
  | .invoke function arguments next =>
      Kindred kind function ∧ Kindred kind arguments ∧
        ∀ value : Value, Kindred kind value → (next value).Passes kind
  | .attempt function arguments next otherwise =>
      Kindred kind function ∧ Kindred kind arguments ∧
        (∀ value : Value, Kindred kind value → (next value).Passes kind) ∧
          ∀ message, (otherwise message).Passes kind

/-- A handler makes up functions of a kind only. -/
def Handler.Passes (kind : Closure → Prop) (handler : Handler) : Prop :=
  ∀ request : Request, Kindred kind request.arguments → (handler request).Passes kind

/-- No handler makes up a function of another kind or one that captured the global scope. -/
structure Registry.Passes (kind : Closure → Prop) (registry : Registry) : Prop where
  genuine : registry.Genuine
  passes : ∀ entry ∈ registry.handlers, entry.2.handler.Passes kind

theorem Handler.apply_genuine : Handler.apply.Genuine := by
  intro request held
  simp only [apply]
  cases asked : request.arguments with
  | nil => exact List.forall_mem_nil _
  | cons function arguments =>
      rw [asked] at held
      obtain ⟨called, rest⟩ := held_cons.mp held
      refine ⟨called, rest, fun value given => ?_⟩
      simpa [Script.Within, Held, Capturing.captured, Host.toValue] using given

theorem Handler.apply_passes (kind : Closure → Prop) : Handler.apply.Passes kind := by
  intro request kindred
  simp only [apply]
  cases asked : request.arguments with
  | nil => exact List.forall_mem_nil _
  | cons function arguments =>
      rw [asked] at kindred
      obtain ⟨called, rest⟩ := List.forall_mem_cons.mp (kindred_items.mp kindred)
      refine ⟨called, kindred_items.mpr rest, fun value given => ?_⟩
      simpa [Script.Passes, Kindred, Bearing.closures, Host.toValue] using given

end Parlance
