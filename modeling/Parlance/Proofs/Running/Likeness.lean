import Parlance.Proofs.Relabelling.Value
import Parlance.Proofs.Running.Comparison

/-!
Evaluators that do alike. The right one of two evaluators is given the programs of the left one with
their nodes moved, and its values are those of the left one relabelled. What two evaluators have
to do alike for all their runs to be alike is listed in `Links`.
-/

namespace Parlance

/-- What may hold functions, and is relabelled by relabelling these. -/
class Labelled (α : Type) where
  relabel : Relabelling → α → α
  relabel_none : ∀ a, relabel .none a = a

instance : Labelled Unit := ⟨fun _ nothing => nothing, fun _ => rfl⟩

instance : Labelled Value := ⟨Value.relabel, Value.relabel_none⟩

instance : Labelled (Option Value) where
  relabel r := Option.map (Value.relabel r)
  relabel_none value := by cases value <;> simp [Value.relabel_none]

instance : Labelled (List Value) := ⟨Value.relabelItems, Value.relabelItems_none⟩

instance : Labelled (List (String × Value)) := ⟨Value.relabelEntries, Value.relabelEntries_none⟩

def Outcome.relabel (r : Relabelling) (outcome : Outcome) : Outcome :=
  ⟨outcome.value.relabel r, outcome.returned⟩

instance : Labelled Outcome where
  relabel := Outcome.relabel
  relabel_none outcome := by simp only [Outcome.relabel, Value.relabel_none]

theorem Outcome.returned_relabel (r : Relabelling) (outcome : Outcome) :
    (Labelled.relabel r outcome).returned = outcome.returned := rfl

instance : Labelled (Option Nat) where
  relabel r := Option.map r.scope
  relabel_none _ := Option.map_id_apply

namespace Evaluation

@[ext] theorem Items.ext {left right : Items} (count : left.count = right.count)
    (item : left.item = right.item) : left = right := by
  cases left
  cases right
  simp_all

def Items.relabel (r : Relabelling) (items : Items) : Items :=
  ⟨items.count, fun index => (items.item index).relabel r⟩

theorem Items.ofList_relabel (r : Relabelling) (values : List Value) :
    Items.ofList (Value.relabelItems r values) = (Items.ofList values).relabel r := by
  ext index
  · simp [ofList, relabel, Value.length_relabelItems]
  · simp [ofList, relabel, Value.getElem?_relabelItems, Value.getD_void_relabel]

/-- A relabelled value has as many items, and they are the relabelled ones. -/
theorem Items.ofValue_relabel (r : Relabelling) (value : Value) :
    Items.ofValue (value.relabel r) = (Items.ofValue value).relabel r := by
  have plain : ∀ values : List Value, Value.relabelItems r values = values →
      (Items.ofList values).relabel r = .ofList values := by
    intro values same
    rw [← Items.ofList_relabel, same]
  cases value with
  | list values => exact Items.ofList_relabel r values
  | map entries =>
      simp only [Value.relabel, ofValue, Value.keys_relabelEntries]
      rw [plain]
      simp [Value.relabelItems_eq_map, Value.relabel]
  | text s =>
      simp only [Value.relabel, ofValue]
      rw [plain]
      simp [Value.relabelItems_eq_map, Value.relabel]
  | number x => rfl
  | boolean _ | function _ | void => exact (plain [] rfl).symm

theorem Items.ofValue_parts {P : Value → Prop} (void : P .void) (text : ∀ s, P (.text s))
    (number : ∀ x, P (.number x)) (value : Value) (index : Nat)
    (items : ∀ items, value = .list items → ∀ item ∈ items, P item) :
    P ((Items.ofValue value).item index) := by
  have ofList : ∀ values : List Value, (∀ item ∈ values, P item) →
      P ((Items.ofList values).item index) := by
    intro values all
    simp only [Items.ofList]
    cases found : values[index]? with
    | none => exact void
    | some item => exact all item (List.mem_of_getElem? found)
  cases value with
  | list values => exact ofList values (items values rfl)
  | map entries =>
      refine ofList _ fun item member => ?_
      obtain ⟨key, _, rfl⟩ := List.mem_map.mp member
      exact text key
  | text s =>
      refine ofList _ fun item member => ?_
      obtain ⟨c, _, rfl⟩ := List.mem_map.mp member
      exact text _
  | number x => exact number _
  | boolean _ | function _ | void => exact ofList [] (List.forall_mem_nil _)

end Evaluation

theorem held_of_nil {known : Set Nat} {value : Value} (none : value.captured = []) :
    Held known value := by
  intro id member
  have absent : id ∈ value.captured := member
  simp [none] at absent

theorem held_cons {known : Set Nat} {value : Value} {rest : List Value} :
    Held known (value :: rest) ↔ Held known value ∧ Held known rest := by
  simp [Held, Capturing.captured, Value.itemsCaptured, or_imp, forall_and]

theorem held_put {known : Set Nat} {entries : List (String × Value)} (held : Held known entries)
    (key : String) {value : Value} (new : Held known value) :
    Held known (Table.put key value entries) := by
  intro id member
  obtain ⟨entry, here, captured⟩ := (Value.mem_entriesCaptured id _).mp member
  rcases Table.mem_put here with same | old
  · exact new id (show id ∈ value.captured by rw [same] at captured; exact captured)
  · exact held id ((Value.mem_entriesCaptured id entries).mpr ⟨entry, old, captured⟩)

theorem held_item {known : Set Nat} {target : Value} (held : Held known target) (index : Value) :
    Held known (target.item index) :=
  fun id member => held id (Value.mem_captured_of_item member)

theorem held_normal (known : Set Nat) : Held known Outcome.normal := by
  have void : Held known Value.void := held_of_nil (by simp [Value.captured])
  exact void

/-- What a loop goes over holds no more than the value does. -/
theorem held_ofValue {known : Set Nat} {value : Value} (held : Held known value) (index : Nat) :
    Held known ((Evaluation.Items.ofValue value).item index) := by
  apply Evaluation.Items.ofValue_parts
  · exact held_of_nil (by simp [Value.captured])
  · exact fun _ => held_of_nil (by simp [Value.captured])
  · exact fun _ => held_of_nil (by simp [Value.captured])
  · rintro items rfl item member id captured
    refine held id ?_
    simp only [Capturing.captured, Value.captured]
    exact (Value.mem_itemsCaptured id items).mpr ⟨item, member, captured⟩

def Evaluation.complete (around : Surroundings) (runner : Runner) (stmt : Stmt) :
    Run Outcome := do
  let outcome ← runner.exec stmt
  tidy around outcome.value
  pure outcome

theorem Program.runFrom_cons {around : Surroundings} {runner : Runner} (last : Value) (stmt : Stmt)
    (rest : Program) :
    runFrom around runner last (stmt :: rest) =
      (Evaluation.complete around runner stmt >>= fun outcome =>
        if outcome.returned = true then pure outcome.value
        else runFrom around runner outcome.value rest) := by
  simp only [runFrom, Evaluation.complete, bind_assoc, pure_bind]

/-- A comparison of the runs of two evaluators, the right one of which works on what the left one
does relabelled, while the values of the left one capture scopes of a set, over a stack of scopes.
It goes on from one run to what follows it. -/
structure Likeness where
  relabelling : Relabelling
  Agree : {α : Type} → [Capturing α] → [Labelled α] → Set Nat → List Nat → Run α → Run α → Prop
  value : ∀ {α : Type} [Capturing α] [Labelled α] {known : Set Nat} {stack : List Nat} {a : α},
    Held known a → Agree known stack (pure a) (pure (Labelled.relabel relabelling a))
  andThen : ∀ {α β : Type} [Capturing α] [Capturing β] [Labelled α] [Labelled β]
    {known : Set Nat} {stack : List Nat} {left right : Run α} {rest rest' : α → Run β},
      Agree known stack left right →
        (∀ more, known ⊆ more → ∀ a, Held more a →
          Agree more stack (rest a) (rest' (Labelled.relabel relabelling a))) →
            Agree known stack (left >>= rest) (right >>= rest')

namespace Likeness

variable (likeness : Likeness)

structure Pairs (inner inner' : Runner) : Prop where
  eval : ∀ known stack expr, likeness.Agree known stack (inner.eval expr)
    (inner'.eval (expr.moved likeness.relabelling.place))
  exec : ∀ known stack stmt, likeness.Agree known stack (inner.exec stmt)
    (inner'.exec (stmt.moved likeness.relabelling.place))
  call : ∀ known stack function arguments, Held known function → Held known arguments →
    likeness.Agree known stack (inner.call function arguments)
      (inner'.call (function.relabel likeness.relabelling)
        (Value.relabelItems likeness.relabelling arguments))

/-- The primitives of two evaluators are alike, all but the one that emits lines. The evaluators
have modules of the same names, and their settings differ at most in how strict they are and in
their limit of steps. -/
structure Quiet (around around' : Surroundings) : Prop where
  settings : around'.settings = { around.settings with
    strict := around'.settings.strict
    maxSteps := around'.settings.maxSteps }
  hosts : ∀ name, around'.modules.has name = around.modules.has name
  visit : ∀ known stack kind place, likeness.Agree known stack
    (Evaluation.visit around kind place)
    (Evaluation.visit around' kind (likeness.relabelling.place place))
  resolve : ∀ known stack name, likeness.Agree known stack (Run.resolve name) (Run.resolve name)
  declare : ∀ known stack name value, Held known value → likeness.Agree known stack
    (Evaluation.declare name value)
    (Evaluation.declare name (value.relabel likeness.relabelling))
  assign : ∀ known stack name value, Held known value → likeness.Agree known stack
    (Run.onArena (Arena.assign name value))
    (Run.onArena (Arena.assign name (value.relabel likeness.relabelling)))
  capture : ∀ known stack, likeness.Agree known stack Run.capture Run.capture
  /-- Where strict settings fail, others go on with a value. -/
  lapse : ∀ known stack cause place (value : Value), Held known value → cause.Lapse →
    likeness.Agree known stack
      (if around.settings.strict = true then Evaluation.failAt around cause place else pure value)
      (if around'.settings.strict = true then
        Evaluation.failAt around' cause (likeness.relabelling.place place)
      else pure (value.relabel likeness.relabelling))
  dispatch : ∀ inner inner', likeness.Pairs inner inner' → ∀ known stack request,
    around.modules.has request.module = true → Held known request.arguments →
      likeness.Agree known stack (Evaluation.dispatch around inner request)
        (Evaluation.dispatch around' inner' (request.relabel likeness.relabelling))
  inFresh : ∀ known stack (body body' : Run Outcome),
    (∀ id, likeness.Agree known (id :: stack) body body') → likeness.Agree known stack
      (Evaluation.inFresh around body) (Evaluation.inFresh around' body')
  inCaptured : ∀ known stack closure (body body' : Run Value),
    Held known (Value.function closure) → (∀ inner, likeness.Agree known inner body body') →
      likeness.Agree known stack (Evaluation.inCaptured around closure body)
        (Evaluation.inCaptured around' (closure.relabel likeness.relabelling) body')
  tidy : ∀ known value, Held known value → likeness.Agree known []
    (Evaluation.tidy around value)
    (Evaluation.tidy around' (value.relabel likeness.relabelling))

structure Links (around around' : Surroundings) : Prop extends likeness.Quiet around around' where
  emit : ∀ known stack line, likeness.Agree known stack (Run.emit line) (Run.emit line)

def Yields : Prop :=
  ∀ (α : Type) [Capturing α] [Labelled α] (known : Set Nat) (stack : List Nat) (right : Run α),
    likeness.Agree known stack (Run.fail (.of .unbounded)) right

def Bounds (bound bound' : Nat) : Prop :=
  bound = bound' ∧
      (∀ (α : Type) [Capturing α] [Labelled α] (known : Set Nat) (stack : List Nat),
        likeness.Agree known stack (Run.fail (.of .unbounded) : Run α)
          (Run.fail (.of .unbounded))) ∨
    bound ≤ bound' ∧ likeness.Yields

variable {likeness} {around around' : Surroundings}

theorem agree_pure {α : Type} [Capturing α] [Labelled α] {known : Set Nat} {stack : List Nat}
    {a : α} (held : Held known a) :
    likeness.Agree known stack (pure a) (pure (Labelled.relabel likeness.relabelling a)) :=
  likeness.value held

theorem agree_bind {α β : Type} [Capturing α] [Capturing β] [Labelled α] [Labelled β]
    {known : Set Nat} {stack : List Nat} {left right : Run α} {rest rest' : α → Run β}
    (first : likeness.Agree known stack left right)
    (later : ∀ more, known ⊆ more → ∀ a, Held more a →
      likeness.Agree more stack (rest a) (rest' (Labelled.relabel likeness.relabelling a))) :
    likeness.Agree known stack (left >>= rest) (right >>= rest') :=
  likeness.andThen first later

theorem Quiet.shortCircuit_eq (quiet : likeness.Quiet around around') :
    around'.settings.shortCircuit = around.settings.shortCircuit := by
  rw [quiet.settings]

theorem Quiet.loopIndex_eq (quiet : likeness.Quiet around around') :
    around'.settings.loopIndex = around.settings.loopIndex := by
  rw [quiet.settings]

theorem Quiet.capabilities_eq (quiet : likeness.Quiet around around') :
    around'.settings.capabilities = around.settings.capabilities := by
  rw [quiet.settings]

end Likeness

end Parlance
