import Parlance.Proofs.Reading.Callee
import Parlance.Proofs.Running.Dispatch

/-!
Values that call few names. A value calls the names that the bodies of the functions in it call. The
values that an arena binds are always such as were bound, whichever scopes are entered, left or
given up, so if these call only names of a set, then whatever is looked up does.
-/

namespace Parlance

mutual

def Value.callees : Value → List String
  | .function closure => Stmt.allCallees closure.body
  | .list items => Value.itemsCallees items
  | .map entries => Value.entriesCallees entries
  | _ => []

def Value.itemsCallees : List Value → List String
  | [] => []
  | item :: rest => item.callees ++ Value.itemsCallees rest

def Value.entriesCallees : List (String × Value) → List String
  | [] => []
  | (_, value) :: rest => value.callees ++ Value.entriesCallees rest

end

instance : Calling Value := ⟨Value.callees⟩

instance : Calling (Option Value) := ⟨fun value => value.toList.flatMap Value.callees⟩

instance : Calling (List Value) := ⟨Value.itemsCallees⟩

instance : Calling (List (String × Value)) := ⟨Value.entriesCallees⟩

instance : Calling Outcome := ⟨fun outcome => outcome.value.callees⟩

instance : Calling (Option Nat) := ⟨fun _ => []⟩

instance : Calling (Except String Host) where
  callees
    | .ok answer =>
        match answer.toValue with
        | .ok value => value.callees
        | .error _ => []
    | .error _ => []

def CallsOnly (common : String → Prop) {α : Type} [Calling α] (a : α) : Prop :=
  ∀ name ∈ callees a, common name

section

variable {common : String → Prop}

theorem callsOnly_of_nil {α : Type} [Calling α] {a : α} (none : callees a = []) :
    CallsOnly common a := by
  rw [CallsOnly, none]
  exact List.forall_mem_nil _

theorem callsOnly_items {items : List Value} :
    CallsOnly common items ↔ ∀ item ∈ items, CallsOnly common item := by
  induction items with
  | nil => simp [CallsOnly, callees, Value.itemsCallees]
  | cons item rest ih =>
      rw [List.forall_mem_cons, ← ih]
      exact List.forall_mem_append

theorem callsOnly_entries {entries : List (String × Value)} :
    CallsOnly common entries ↔ ∀ entry ∈ entries, CallsOnly common entry.2 := by
  induction entries with
  | nil => simp [CallsOnly, callees, Value.entriesCallees]
  | cons entry rest ih =>
      rw [List.forall_mem_cons, ← ih]
      exact List.forall_mem_append

theorem callsOnly_void : CallsOnly common Value.void :=
  callsOnly_of_nil (by simp [callees, Value.callees])

theorem callsOnly_text (s : String) : CallsOnly common (Value.text s) :=
  callsOnly_of_nil (by simp [callees, Value.callees])

theorem callsOnly_number (x : Float) : CallsOnly common (Value.number x) :=
  callsOnly_of_nil (by simp [callees, Value.callees])

theorem callsOnly_some {value : Value} :
    CallsOnly common (some value) ↔ CallsOnly common value := by
  simp [CallsOnly, callees]

theorem callsOnly_ofLiteral (literal : Literal) : CallsOnly common (Value.ofLiteral literal) :=
  callsOnly_of_nil (by cases literal <;> simp [callees, Value.ofLiteral, Value.callees])

theorem callsOnly_binary (op : BinaryOp) (left right : Value) :
    CallsOnly common (op.apply left right) :=
  callsOnly_of_nil (by cases op <;> simp [callees, BinaryOp.apply, Value.callees])

theorem callsOnly_unary (op : UnaryOp) (operand : Value) :
    CallsOnly common (op.apply operand) :=
  callsOnly_of_nil (by cases op <;> simp [callees, UnaryOp.apply, Value.callees])

theorem callsOnly_put {entries : List (String × Value)} (only : CallsOnly common entries)
    (key : String) {value : Value} (new : CallsOnly common value) :
    CallsOnly common (Table.put key value entries) := by
  rw [callsOnly_entries] at only ⊢
  intro entry member
  rcases Table.mem_put member with rfl | old
  · exact new
  · exact only entry old

theorem callsOnly_item {target : Value} (only : CallsOnly common target) (index : Value) :
    CallsOnly common (target.item index) := by
  refine Value.item_parts callsOnly_void callsOnly_text target index ?_ ?_
  · rintro items rfl
    exact callsOnly_items.mp only
  · rintro entries rfl
    exact callsOnly_entries.mp only

/-- What a loop goes over calls no more than the value does. -/
theorem callsOnly_ofValue {value : Value} (only : CallsOnly common value) (index : Nat) :
    CallsOnly common ((Evaluation.Items.ofValue value).item index) := by
  refine Evaluation.Items.ofValue_parts callsOnly_void callsOnly_text callsOnly_number value
    index ?_
  rintro items rfl
  exact callsOnly_items.mp only

end

namespace Arena

def BindsOnly (common : String → Prop) (arena : Arena) : Prop :=
  ∀ scope ∈ arena.scopes, CallsOnly common scope.2

variable {common : String → Prop} {arena : Arena}

theorem bindsOnly_empty : empty.BindsOnly common := by
  intro scope member
  obtain rfl := List.mem_singleton.mp member
  exact List.forall_mem_nil _

theorem BindsOnly.of_subset (only : arena.BindsOnly common) {after : Arena}
    (subset : after.scopes ⊆ arena.scopes) : after.BindsOnly common :=
  fun scope member => only scope (subset member)

theorem BindsOnly.of_scopes (only : arena.BindsOnly common) {after : Arena}
    (same : after.scopes = arena.scopes) : after.BindsOnly common :=
  fun scope member => only scope (same ▸ member)

theorem BindsOnly.pushFresh (only : arena.BindsOnly common) :
    arena.pushFresh.BindsOnly common := by
  intro scope member
  rcases Table.mem_put member with rfl | old
  · exact List.forall_mem_nil _
  · exact only scope old

theorem BindsOnly.resolve (only : arena.BindsOnly common) {name : String}
    {found : Option Value} (result : arena.resolve name = .ok found) :
    CallsOnly common found := by
  unfold Arena.resolve at result
  cases answer : arena.holder? name arena.stack with
  | error fault => simp [answer, Except.map] at result
  | ok holder =>
      simp only [answer, Except.map, Except.ok.injEq] at result
      cases found with
      | none => exact List.forall_mem_nil _
      | some value =>
          obtain ⟨id, _, here⟩ := Option.bind_eq_some_iff.mp result
          obtain ⟨bindings, scope, bound⟩ := Option.bind_eq_some_iff.mp here
          have all := callsOnly_entries.mp (only _ (Table.mem_of_get? scope))
          exact callsOnly_some.mpr (all _ (Table.mem_of_get? bound))

section

variable {name : String} {value : Value}

theorem BindsOnly.bind (only : arena.BindsOnly common) (new : CallsOnly common value) (id : Nat) :
    (left (bind id name value arena)).BindsOnly common := by
  unfold Arena.bind
  cases found : Table.get? id arena.scopes with
  | none => exact only
  | some bindings =>
      intro scope member
      rcases Table.mem_put member with rfl | old
      · exact callsOnly_put (only _ (Table.mem_of_get? found)) name new
      · exact only scope old

theorem BindsOnly.declare (only : arena.BindsOnly common) (new : CallsOnly common value) :
    (left (declare name value arena)).BindsOnly common := only.bind new _

theorem BindsOnly.assign (only : arena.BindsOnly common) (new : CallsOnly common value) :
    (left (assign name value arena)).BindsOnly common := by
  unfold Arena.assign
  cases arena.holder? name arena.stack with
  | error fault => exact only
  | ok holder =>
      cases holder with
      | none => exact only.declare new
      | some id => exact only.bind new id

end

theorem scopes_pop_subset (upkeep : Upkeep) : (left (pop upkeep arena)).scopes ⊆ arena.scopes := by
  unfold pop
  cases arena.stack with
  | nil => exact List.Subset.refl _
  | cons id stack =>
      simp only
      split
      · exact List.Subset.refl _
      · split
        · exact List.Subset.refl _
        · split
          · exact fun _ member => Table.mem_of_mem_erase member
          · exact List.Subset.refl _

theorem scopes_release_subset (lost : List Nat) :
    (left (release lost arena)).scopes ⊆ arena.scopes := by
  induction lost generalizing arena with
  | nil => exact List.Subset.refl _
  | cons id rest ih =>
      -- whichever way a scope is given up, also if the number is of none, nothing is added
      simp only [release]
      split
      · exact ih
      · split
        · exact List.Subset.trans ih fun _ member => Table.mem_of_mem_erase member
        · exact List.Subset.refl _

theorem scopes_collect_subset (upkeep : Upkeep) (roots : List Value) :
    (left (collect upkeep roots arena)).scopes ⊆ arena.scopes := by
  simp only [collect]
  split
  · exact List.Subset.refl _
  · split
    · exact List.Subset.refl _
    · let reached :=
        arena.reachable (roots ++ arena.carried.values) (globalId :: arena.stack.reverse)
      have released : (left (release ((arena.pinned.filter (· ∉ reached)).mergeSort (· ≤ ·))
          arena)).scopes ⊆ arena.scopes := scopes_release_subset _
      split
      · rename_i result
        rwa [result] at released
      · rename_i result
        rwa [result] at released

end Arena

/-- A script hands on functions that call only names of a set, if it is handed no others. -/
def Script.HandsOnly (common : String → Prop) : Script → Prop
  | .give answer => CallsOnly common (Except.ok answer : Except String Host)
  | .fail _ => True
  | .emit _ next => next.HandsOnly common
  | .lookup _ next => ∀ value, CallsOnly common value → (next value).HandsOnly common
  | .invoke function arguments next =>
      CallsOnly common function ∧ CallsOnly common arguments ∧
        ∀ value, CallsOnly common value → (next value).HandsOnly common
  | .attempt function arguments next otherwise =>
      CallsOnly common function ∧ CallsOnly common arguments ∧
        (∀ value, CallsOnly common value → (next value).HandsOnly common) ∧
          ∀ message, (otherwise message).HandsOnly common

/-- A handler that makes up no function that calls a name outside of a set. -/
def Handler.HandsOnly (common : String → Prop) (handler : Handler) : Prop :=
  ∀ request : Request, CallsOnly common request.arguments →
    (handler request).HandsOnly common

theorem Handler.apply_handsOnly (common : String → Prop) : Handler.apply.HandsOnly common := by
  intro request only
  simp only [apply]
  cases asked : request.arguments with
  | nil => exact callsOnly_of_nil (by simp [callees, Host.toValue, Value.callees])
  | cons function arguments =>
      rw [asked] at only
      obtain ⟨called, rest⟩ := List.forall_mem_cons.mp (callsOnly_items.mp only)
      refine ⟨called, callsOnly_items.mpr rest, fun value given => ?_⟩
      simpa [Script.HandsOnly, CallsOnly, callees, Host.toValue] using given

end Parlance
