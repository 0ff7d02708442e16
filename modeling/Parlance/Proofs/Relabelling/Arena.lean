import Mathlib.Data.List.Basic
import Mathlib.Order.Monotone.Basic
import Parlance.Arena
import Parlance.Proofs.Relabelling.Value

/-!
Arenas whose scopes are renumbered, and whose values are relabelled accordingly. A renumbering that
keeps the order of the numbers, the number of the global scope, and which number comes next is
followed by every operation: on the renumbered arena it does what it does on the other.
-/

namespace Parlance

/-- The numbers keep their order, the global scope its number, and fresh scopes are numbered on. -/
structure Relabelling.Orderly (r : Relabelling) : Prop where
  mono : StrictMono r.scope
  global : r.scope Arena.globalId = Arena.globalId
  next : ∀ id, id ≠ Arena.globalId → r.scope (id + 1) = r.scope id + 1

namespace Arena

def Fault.relabel (r : Relabelling) : Fault → Fault
  | .emptyStack => .emptyStack
  | .missing id => .missing (r.scope id)

def relabel (r : Relabelling) (arena : Arena) : Arena where
  scopes := arena.scopes.map (Prod.map r.scope (Value.relabelEntries r))
  pinned := arena.pinned.map r.scope
  carried := arena.carried.map (Prod.map r.scope (Value.relabel r))
  nextId := r.scope arena.nextId
  stack := arena.stack.map r.scope

def relabelled {α : Type} (r : Relabelling) :
    EStateM.Result Fault Arena α → EStateM.Result Fault Arena α
  | .ok a arena => .ok a (arena.relabel r)
  | .error fault arena => .error (fault.relabel r) (arena.relabel r)

/-- A search that may miss a scope, relabelled. -/
def searched {α : Type} (r : Relabelling) (relabel : α → α) : Except Fault α → Except Fault α
  | .ok found => .ok (relabel found)
  | .error fault => .error (fault.relabel r)

section

variable {r : Relabelling}

theorem relabel_empty (orderly : r.Orderly) (nextId : Nat) :
    ({ empty with nextId } : Arena).relabel r = { empty with nextId := r.scope nextId } := by
  simp [relabel, empty, orderly.global, Value.relabelEntries]

theorem getScope_relabel (orderly : r.Orderly) (arena : Arena) (id : Nat) :
    Table.get? (r.scope id) (arena.relabel r).scopes =
      (Table.get? id arena.scopes).map (Value.relabelEntries r) :=
  Table.get?_map _ orderly.mono.injective id arena.scopes

theorem getGlobal_relabel (orderly : r.Orderly) (arena : Arena) :
    Table.get? globalId (arena.relabel r).scopes =
      (Table.get? globalId arena.scopes).map (Value.relabelEntries r) := by
  have found := getScope_relabel orderly arena globalId
  rwa [orderly.global] at found

theorem has_relabelEntries (name : String) (bindings : Bindings) :
    Table.has name (Value.relabelEntries r bindings) = Table.has name bindings := by
  simp [Table.has, Value.get?_relabelEntries]

theorem isLive_relabel (orderly : r.Orderly) (arena : Arena) (id : Nat) :
    (arena.relabel r).isLive (r.scope id) = arena.isLive id := by
  simp [isLive, Table.has, getScope_relabel orderly]

theorem innermost?_relabel (arena : Arena) :
    (arena.relabel r).innermost? = arena.innermost?.map r.scope := by
  simp [innermost?, relabel]

theorem mem_map_scope (orderly : r.Orderly) {id : Nat} {ids : List Nat} :
    r.scope id ∈ ids.map r.scope ↔ id ∈ ids :=
  List.mem_map_of_injective orderly.mono.injective

theorem contains_map_scope (orderly : r.Orderly) (id : Nat) (ids : List Nat) :
    (ids.map r.scope).contains (r.scope id) = ids.contains id := by
  rw [Bool.eq_iff_iff]
  simp only [List.contains_iff_mem, mem_map_scope orderly]

/-! ### Entering scopes -/

theorem pushFresh_relabel (orderly : r.Orderly) {arena : Arena}
    (fresh : arena.nextId ≠ globalId) :
    (arena.relabel r).pushFresh = arena.pushFresh.relabel r := by
  have scopes := Table.put_map (Value.relabelEntries r) orderly.mono.injective arena.nextId []
    arena.scopes
  simp only [Value.relabelEntries] at scopes
  simp [relabel, pushFresh, orderly.next _ fresh, scopes]

theorem pin_relabel (orderly : r.Orderly) (id : Nat) (arena : Arena) :
    (arena.relabel r).pin (r.scope id) = (arena.pin id).relabel r := by
  have global : r.scope id = globalId ↔ id = globalId := by
    conv => lhs; rhs; rw [← orderly.global]
    exact orderly.mono.injective.eq_iff
  simp only [pin, relabel, global, mem_map_scope orderly]
  split <;> simp

theorem carry_relabel (orderly : r.Orderly) (value : Value) (arena : Arena) :
    (arena.relabel r).carry (value.relabel r) = (arena.carry value).relabel r := by
  cases entered : arena.stack with
  | nil => simp [carry, relabel, entered]
  | cons id rest =>
      simp only [carry, relabel, entered, List.map_cons, Value.captured_relabel, List.isEmpty_map]
      split
      · simp [entered]
      · simp [Table.put_map _ orderly.mono.injective]

/-! ### Bindings -/

theorem holder?_relabel (orderly : r.Orderly) (arena : Arena) (name : String) (ids : List Nat) :
    (arena.relabel r).holder? name (ids.map r.scope) =
      searched r (Option.map r.scope) (arena.holder? name ids) := by
  induction ids with
  | nil =>
      simp only [List.map_nil, holder?, getGlobal_relabel orderly]
      cases Table.get? globalId arena.scopes with
      | none => simp [searched, Fault.relabel, orderly.global]
      | some bindings =>
          simp only [Option.map_some, has_relabelEntries, searched]
          split <;> simp [orderly.global]
  | cons id rest ih =>
      simp only [List.map_cons, holder?, getScope_relabel orderly, ih]
      cases Table.get? id arena.scopes with
      | none => rfl
      | some bindings =>
          simp only [Option.map_some, has_relabelEntries]
          split <;> rfl

theorem resolve_relabel (orderly : r.Orderly) (arena : Arena) (name : String) :
    (arena.relabel r).resolve name =
      searched r (Option.map (Value.relabel r)) (arena.resolve name) := by
  have held := holder?_relabel orderly arena name arena.stack
  simp only [resolve, show (arena.relabel r).stack = arena.stack.map r.scope from rfl, held]
  cases arena.holder? name arena.stack with
  | error fault => rfl
  | ok holder =>
      cases holder with
      | none => rfl
      | some id =>
          simp only [searched, Except.map, Option.map_some, Option.bind_some,
            getScope_relabel orderly]
          cases Table.get? id arena.scopes with
          | none => rfl
          | some bindings => simp [Value.get?_relabelEntries]

theorem bind_relabel (orderly : r.Orderly) (id : Nat) (name : String) (value : Value)
    (arena : Arena) :
    bind (r.scope id) name (value.relabel r) (arena.relabel r) =
      relabelled r (bind id name value arena) := by
  simp only [bind, getScope_relabel orderly]
  cases Table.get? id arena.scopes with
  | none => rfl
  | some bindings =>
      have scopes := Table.put_map (Value.relabelEntries r) orderly.mono.injective id
        (Table.put name value bindings) arena.scopes
      simp only [Option.map_some, Value.put_relabelEntries, relabelled, relabel, scopes]

theorem declare_relabel (orderly : r.Orderly) (name : String) (value : Value) (arena : Arena) :
    declare name (value.relabel r) (arena.relabel r) = relabelled r (declare name value arena) := by
  have scope : (arena.relabel r).innermost?.getD globalId =
      r.scope (arena.innermost?.getD globalId) := by
    rw [innermost?_relabel]
    cases arena.innermost? with
    | none => exact orderly.global.symm
    | some id => rfl
  simp only [declare, scope, bind_relabel orderly]

theorem assign_relabel (orderly : r.Orderly) (name : String) (value : Value) (arena : Arena) :
    assign name (value.relabel r) (arena.relabel r) = relabelled r (assign name value arena) := by
  have held := holder?_relabel orderly arena name arena.stack
  simp only [assign, show (arena.relabel r).stack = arena.stack.map r.scope from rfl, held]
  cases arena.holder? name arena.stack with
  | error fault => rfl
  | ok holder =>
      cases holder with
      | none => exact declare_relabel orderly name value arena
      | some id => exact bind_relabel orderly id name value arena

theorem globals_relabel (orderly : r.Orderly) (arena : Arena) :
    (arena.relabel r).globals = Value.relabelEntries r arena.globals := by
  simp only [globals, getGlobal_relabel orderly]
  cases Table.get? globalId arena.scopes <;> rfl

/-! ### Leaving scopes -/

theorem isCaptured_relabel (orderly : r.Orderly) (arena : Arena) (id : Nat)
    (carried : Option Value) :
    (arena.relabel r).isCaptured (r.scope id) (carried.map (Value.relabel r)) =
      arena.isCaptured id carried := by
  have others : ((arena.relabel r).scopes.filter fun scope => scope.1 ≠ r.scope id) =
      (arena.scopes.filter fun scope => scope.1 ≠ id).map
        (Prod.map r.scope (Value.relabelEntries r)) := by
    simp [relabel, List.filter_map, Function.comp_def, orderly.mono.injective.eq_iff]
  have values : ∀ scopes : Table Nat Bindings,
      (scopes.map (Prod.map r.scope (Value.relabelEntries r))).flatMap
          (fun scope => Table.values scope.2) =
        (scopes.flatMap fun scope => Table.values scope.2).map (Value.relabel r) := by
    intro scopes
    simp [List.flatMap_map, List.map_flatMap, Table.values, Value.relabelEntries_eq_map,
      Function.comp_def]
  have carrying : (arena.relabel r).carried.values =
      arena.carried.values.map (Value.relabel r) := by
    simp [relabel, Table.values]
  have given : (carried.map (Value.relabel r)).toList = carried.toList.map (Value.relabel r) := by
    cases carried <;> rfl
  simp only [isCaptured, others, values, carrying, given, ← List.map_append, List.any_map,
    Function.comp_def, Value.captured_relabel, contains_map_scope orderly]

theorem filter_ne_relabel (orderly : r.Orderly) (id : Nat) (ids : List Nat) :
    (ids.map r.scope).filter (· ≠ r.scope id) = (ids.filter (· ≠ id)).map r.scope := by
  simp [List.filter_map, Function.comp_def, orderly.mono.injective.eq_iff]

theorem pop_relabel (orderly : r.Orderly) (upkeep : Upkeep) (arena : Arena) :
    pop upkeep (arena.relabel r) = relabelled r (pop upkeep arena) := by
  obtain ⟨scopes, pinned, carried, nextId, stack⟩ := arena
  cases stack with
  | nil => rfl
  | cons id stack =>
      -- the arena without the innermost scope on the stack, renumbered
      have rest : ∀ pinned, ({
          scopes := scopes.map (Prod.map r.scope (Value.relabelEntries r))
          pinned := pinned.map r.scope
          carried := Table.erase (r.scope id) (carried.map (Prod.map r.scope (Value.relabel r)))
          nextId := r.scope nextId
          stack := stack.map r.scope } : Arena) =
            (⟨scopes, pinned, Table.erase id carried, nextId, stack⟩ : Arena).relabel r := by
        intro pinned
        simp [relabel, Table.erase_map _ orderly.mono.injective]
      have given := Table.get?_map (Value.relabel r) orderly.mono.injective id carried
      simp only [pop, relabel, List.map_cons, contains_map_scope orderly, given]
      simp only [rest, isCaptured_relabel orderly, filter_ne_relabel orderly,
        isLive_relabel orderly]
      split
      · rfl
      · split
        · rfl
        · split
          · simp [relabelled, relabel, Table.erase_map _ orderly.mono.injective]
          · rfl

/-! ### Collecting scopes -/

theorem valuesOf_relabel (orderly : r.Orderly) (arena : Arena) (id : Nat) :
    (arena.relabel r).valuesOf (r.scope id) = (arena.valuesOf id).map (Value.relabel r) := by
  simp only [valuesOf, getScope_relabel orderly]
  cases Table.get? id arena.scopes with
  | none => rfl
  | some bindings =>
      simp [Table.values, Value.relabelEntries_eq_map, Function.comp_def]

theorem filter_live_relabel (orderly : r.Orderly) (arena : Arena) (ids : List Nat) :
    (ids.map r.scope).filter (arena.relabel r).isLive = (ids.filter arena.isLive).map r.scope := by
  simp [List.filter_map, Function.comp_def, isLive_relabel orderly]

theorem captured_values_relabel (values : List Value) :
    (values.map (Value.relabel r)).flatMap Value.captured =
      (values.flatMap Value.captured).map r.scope := by
  simp [List.flatMap_map, List.map_flatMap]

theorem capturedFrom_relabel (orderly : r.Orderly) (arena : Arena) (ids : List Nat) :
    (arena.relabel r).capturedFrom (ids.map r.scope) = (arena.capturedFrom ids).map r.scope := by
  rw [capturedFrom, capturedFrom, ← filter_live_relabel orderly]
  simp [List.flatMap_map, List.map_flatMap, valuesOf_relabel orderly]

theorem eraseDups_relabel (orderly : r.Orderly) :
    (ids : List Nat) → (ids.map r.scope).eraseDups = ids.eraseDups.map r.scope
  | [] => rfl
  | id :: rest => by
      have others : (rest.map r.scope).filter (fun other => !other == r.scope id) =
          (rest.filter fun other => !other == id).map r.scope := by
        simp [List.filter_map, Function.comp_def, orderly.mono.injective.beq_eq]
      have shorter : (rest.filter fun other => !other == id).length ≤ rest.length :=
        List.length_filter_le _ _
      rw [List.map_cons, List.eraseDups_cons, List.eraseDups_cons, others,
        eraseDups_relabel orderly (rest.filter fun other => !other == id), List.map_cons]
termination_by ids => ids.length

theorem filter_notMem_relabel (orderly : r.Orderly) (ids seen : List Nat) :
    (ids.map r.scope).filter (· ∉ seen.map r.scope) = (ids.filter (· ∉ seen)).map r.scope := by
  simp only [List.filter_map, Function.comp_def, mem_map_scope orderly]

theorem reach_relabel (orderly : r.Orderly) (arena : Arena) (rounds : Nat) (seen : List Nat) :
    (arena.relabel r).reach rounds (seen.map r.scope) = (arena.reach rounds seen).map r.scope := by
  induction rounds generalizing seen with
  | zero => rfl
  | succ rounds ih =>
      simp only [reach, capturedFrom_relabel orderly, filter_notMem_relabel orderly,
        eraseDups_relabel orderly]
      cases ((arena.capturedFrom seen).filter (· ∉ seen)).eraseDups with
      | nil => rfl
      | cons id rest =>
          rw [← ih, List.map_append]
          rfl

theorem reachable_relabel (orderly : r.Orderly) (arena : Arena) (values : List Value)
    (ids : List Nat) :
    (arena.relabel r).reachable (values.map (Value.relabel r)) (ids.map r.scope) =
      (arena.reachable values ids).map r.scope := by
  have bound : (ids.map r.scope).flatMap (arena.relabel r).valuesOf =
      (ids.flatMap arena.valuesOf).map (Value.relabel r) := by
    simp [List.flatMap_map, List.map_flatMap, valuesOf_relabel orderly]
  have size : (arena.relabel r).size = arena.size := List.length_map _
  simp only [reachable, bound, ← List.map_append, captured_values_relabel,
    filter_live_relabel orderly, eraseDups_relabel orderly, size, reach_relabel orderly]

theorem release_relabel (orderly : r.Orderly) (ids : List Nat) (arena : Arena) :
    release (ids.map r.scope) (arena.relabel r) = relabelled r (release ids arena) := by
  induction ids generalizing arena with
  | nil => rfl
  | cons id rest ih =>
      obtain ⟨scopes, pinned, carried, nextId, stack⟩ := arena
      -- the arena with the scope unpinned, and the one with it given up, renumbered
      have unpinned := filter_ne_relabel orderly id pinned
      have erased := Table.erase_map (Value.relabelEntries r) orderly.mono.injective id scopes
      have live := isLive_relabel orderly
        ⟨scopes, pinned.filter (· ≠ id), carried, nextId, stack⟩ id
      simp only [relabel] at live
      simp only [List.map_cons, release, relabel, unpinned, contains_map_scope orderly, live]
      split
      · exact ih ⟨scopes, pinned.filter (· ≠ id), carried, nextId, stack⟩
      · split
        · rw [erased]
          exact ih ⟨Table.erase id scopes, pinned.filter (· ≠ id), carried, nextId, stack⟩
        · rfl

theorem collect_relabel (orderly : r.Orderly) (upkeep : Upkeep) (roots : List Value)
    (arena : Arena) :
    collect upkeep (roots.map (Value.relabel r)) (arena.relabel r) =
      relabelled r (collect upkeep roots arena) := by
  have entered : globalId :: (arena.relabel r).stack.reverse =
      (globalId :: arena.stack.reverse).map r.scope := by
    simp [relabel, orderly.global, List.map_reverse]
  have carrying : (arena.relabel r).carried.values =
      arena.carried.values.map (Value.relabel r) := by
    simp [relabel, Table.values, Function.comp_def]
  -- a renaming that keeps the order of the ids commutes with sorting them
  have sorted : ∀ ids : List Nat,
      (ids.map r.scope).mergeSort (· ≤ ·) = (ids.mergeSort (· ≤ ·)).map r.scope := by
    intro ids
    symm
    apply List.map_mergeSort
    intro first _ second _
    simp [orderly.mono.le_iff_le]
  have pinned : (arena.relabel r).pinned = arena.pinned.map r.scope := rfl
  simp only [collect, entered, carrying, pinned, List.isEmpty_map, ← List.map_append,
    reachable_relabel orderly, filter_notMem_relabel orderly, sorted, release_relabel orderly,
    List.find?_map, Function.comp_def, isLive_relabel orderly, List.length_map]
  split
  · rfl
  · cases (globalId :: arena.stack.reverse).find? fun id => !arena.isLive id with
    | some id => rfl
    | none =>
        simp only [Option.map_none]
        generalize ((arena.pinned.filter _).mergeSort _) = lost
        cases release lost arena <;> rfl

end

end Arena

end Parlance
