import Mathlib.Data.Set.Basic
import Parlance.Arena

/-!
What the operations of an arena keep. In a sound arena the global scope, the entered scopes and
the pinned ones are live, and the global scope is neither entered nor pinned. On a sound arena no
operation fails, and its state afterwards is sound again.
-/

namespace Parlance

namespace Value

def CapturesIn (known : Set Nat) (value : Value) : Prop := ∀ id ∈ value.captured, id ∈ known

theorem CapturesIn.mono {known more : Set Nat} (grows : known ⊆ more) {value : Value}
    (held : value.CapturesIn known) : value.CapturesIn more :=
  fun id member => grows (held id member)

end Value

namespace Arena

structure Sound (arena : Arena) (stack : List Nat) : Prop where
  stack_eq : arena.stack = stack
  global_live : arena.isLive globalId = true
  entered_live : ∀ id ∈ stack, arena.isLive id = true
  entered_local : globalId ∉ stack
  pinned_live : ∀ id ∈ arena.pinned, arena.isLive id = true
  pinned_local : globalId ∉ arena.pinned
  pinned_once : arena.pinned.Nodup
  scopes_once : (Table.keys arena.scopes).Nodup
  fresh_local : arena.nextId ≠ globalId

def CapturesIn (known : Set Nat) (arena : Arena) : Prop :=
  ∀ id bindings, Table.get? id arena.scopes = some bindings →
    ∀ name value, Table.get? name bindings = some value → value.CapturesIn known

theorem CapturesIn.mono {known more : Set Nat} (grows : known ⊆ more) {arena : Arena}
    (held : arena.CapturesIn known) : arena.CapturesIn more :=
  fun id bindings found name value bound => (held id bindings found name value bound).mono grows

theorem empty_sound : Sound empty [] := by
  constructor <;> simp [empty, isLive, Table.has, Table.get?, Table.keys, globalId]

theorem empty_capturesIn (known : Set Nat) : CapturesIn known empty := by
  intro id bindings found name value bound
  by_cases global : globalId = id <;> simp [empty, Table.get?, global] at found
  subst found
  simp at bound

theorem isLive_iff (arena : Arena) (id : Nat) :
    arena.isLive id = true ↔ ∃ bindings, Table.get? id arena.scopes = some bindings := by
  simp [isLive, Table.has, Option.isSome_iff_exists]

theorem isLive_congr {before after : Arena} (same : after.scopes = before.scopes) (id : Nat) :
    after.isLive id = before.isLive id := by
  simp [isLive, same]

section

variable {arena : Arena} {stack : List Nat}

/-- Soundness says nothing of the carried values. -/
theorem Sound.of_same (sound : Sound arena stack) {after : Arena}
    (scopes : after.scopes = arena.scopes) (entered : after.stack = arena.stack)
    (pinned : after.pinned = arena.pinned) (nextId : after.nextId = arena.nextId) :
    Sound after stack where
  stack_eq := entered ▸ sound.stack_eq
  global_live := isLive_congr scopes _ ▸ sound.global_live
  entered_live id member := isLive_congr scopes id ▸ sound.entered_live id member
  entered_local := sound.entered_local
  pinned_live id member := isLive_congr scopes id ▸ sound.pinned_live id (pinned ▸ member)
  pinned_local := pinned ▸ sound.pinned_local
  pinned_once := pinned ▸ sound.pinned_once
  scopes_once := scopes ▸ sound.scopes_once
  fresh_local := nextId ▸ sound.fresh_local

/-! ### Entering scopes -/

theorem Sound.pushFresh (sound : Sound arena stack) :
    Sound arena.pushFresh (arena.nextId :: stack) where
  stack_eq := by simp [Arena.pushFresh, sound.stack_eq]
  global_live := by
    have live := sound.global_live
    simp only [isLive] at live
    simp [Arena.pushFresh, isLive, Table.has_put, live]
  entered_live := by
    intro id member
    rcases List.mem_cons.mp member with fresh | entered
    · simp [Arena.pushFresh, isLive, Table.has_put, fresh]
    · have live := sound.entered_live id entered
      simp only [isLive] at live
      simp [Arena.pushFresh, isLive, Table.has_put, live]
  entered_local := by
    intro member
    rcases List.mem_cons.mp member with fresh | entered
    · exact sound.fresh_local fresh.symm
    · exact sound.entered_local entered
  pinned_live := by
    intro id member
    have live := sound.pinned_live id member
    simp only [isLive] at live
    simp [Arena.pushFresh, isLive, Table.has_put, live]
  pinned_local := sound.pinned_local
  pinned_once := sound.pinned_once
  scopes_once := Table.nodup_put sound.scopes_once _ _
  fresh_local := Nat.succ_ne_zero _

theorem CapturesIn.pushFresh {known : Set Nat} (held : CapturesIn known arena) :
    CapturesIn known arena.pushFresh := by
  intro id bindings found name value bound
  simp only [Arena.pushFresh, Table.get?_put] at found
  split at found
  · cases found
    simp at bound
  · exact held id bindings found name value bound

theorem Sound.push (sound : Sound arena stack) {id : Nat} (live : arena.isLive id = true)
    (here : id ≠ globalId) : Sound (Arena.push id arena) (id :: stack) where
  stack_eq := by simp [Arena.push, sound.stack_eq]
  global_live := sound.global_live
  entered_live := by
    intro other member
    rcases List.mem_cons.mp member with same | entered
    · exact same ▸ live
    · exact sound.entered_live other entered
  entered_local := by
    intro member
    rcases List.mem_cons.mp member with same | entered
    · exact here same.symm
    · exact sound.entered_local entered
  pinned_live := sound.pinned_live
  pinned_local := sound.pinned_local
  pinned_once := sound.pinned_once
  scopes_once := sound.scopes_once
  fresh_local := sound.fresh_local

@[simp] theorem pin_scopes (id : Nat) (arena : Arena) : (arena.pin id).scopes = arena.scopes := by
  unfold pin
  split <;> rfl

@[simp] theorem pin_stack (id : Nat) (arena : Arena) : (arena.pin id).stack = arena.stack := by
  unfold pin
  split <;> rfl

@[simp] theorem pin_nextId (id : Nat) (arena : Arena) : (arena.pin id).nextId = arena.nextId := by
  unfold pin
  split <;> rfl

theorem mem_pin_pinned (id other : Nat) (arena : Arena) :
    other ∈ (arena.pin id).pinned ↔ other ∈ arena.pinned ∨ (other = id ∧ id ≠ globalId) := by
  unfold pin
  by_cases skipped : id = globalId ∨ id ∈ arena.pinned
  · rw [if_pos skipped]
    constructor
    · exact Or.inl
    · rintro (old | ⟨rfl, here⟩)
      · exact old
      · exact skipped.resolve_left here
  · rw [if_neg skipped]
    push Not at skipped
    simp [skipped.1]

theorem Sound.pin (sound : Sound arena stack) {id : Nat} (live : arena.isLive id = true) :
    Sound (arena.pin id) stack where
  stack_eq := by rw [pin_stack, sound.stack_eq]
  global_live := by rw [isLive_congr (pin_scopes id arena)]; exact sound.global_live
  entered_live := by
    intro other member
    rw [isLive_congr (pin_scopes id arena)]
    exact sound.entered_live other member
  entered_local := sound.entered_local
  pinned_live := by
    intro other member
    rw [isLive_congr (pin_scopes id arena)]
    -- an id is pinned from before, or it is the one pinned now
    rcases (mem_pin_pinned id other arena).mp member with old | ⟨rfl, _⟩
    · exact sound.pinned_live other old
    · exact live
  pinned_local := by
    intro member
    rcases (mem_pin_pinned id globalId arena).mp member with old | ⟨same, here⟩
    · exact sound.pinned_local old
    · exact here same.symm
  pinned_once := by
    unfold Arena.pin
    split
    · exact sound.pinned_once
    · rename_i absent
      push Not at absent
      rw [List.nodup_append]
      refine ⟨sound.pinned_once, by simp, ?_⟩
      intro other member last new same
      rw [List.mem_singleton] at new
      exact absent.2 (new ▸ same ▸ member)
  scopes_once := by rw [pin_scopes]; exact sound.scopes_once
  fresh_local := by rw [pin_nextId]; exact sound.fresh_local

@[simp] theorem carry_scopes (value : Value) (arena : Arena) :
    (arena.carry value).scopes = arena.scopes := by
  unfold carry
  split
  · split <;> rfl
  · rfl

@[simp] theorem carry_stack (value : Value) (arena : Arena) :
    (arena.carry value).stack = arena.stack := by
  unfold carry
  split
  · split <;> rfl
  · rfl

@[simp] theorem carry_pinned (value : Value) (arena : Arena) :
    (arena.carry value).pinned = arena.pinned := by
  unfold carry
  split
  · split <;> rfl
  · rfl

@[simp] theorem carry_nextId (value : Value) (arena : Arena) :
    (arena.carry value).nextId = arena.nextId := by
  unfold carry
  split
  · split <;> rfl
  · rfl

theorem Sound.carry (sound : Sound arena stack) (value : Value) :
    Sound (arena.carry value) stack :=
  sound.of_same (carry_scopes value arena) (carry_stack value arena) (carry_pinned value arena)
    (carry_nextId value arena)

/-! ### Bindings -/

/-- The holder of a name depends only on the bindings of the entered scopes and the global one. -/
theorem holder?_congr {left right : Arena} (name : String) (ids : List Nat)
    (global : Table.get? globalId left.scopes = Table.get? globalId right.scopes)
    (entered : ∀ id ∈ ids, Table.get? id left.scopes = Table.get? id right.scopes) :
    left.holder? name ids = right.holder? name ids := by
  induction ids with
  | nil => simp [holder?, global]
  | cons id rest ih =>
      have tail := ih fun other member => entered other (List.mem_cons_of_mem id member)
      have head := entered id List.mem_cons_self
      simp [holder?, head, tail]

/-- Among live scopes the search for a name ends, and what it finds holds the name. -/
theorem holder?_ok (name : String) (ids : List Nat) (global : arena.isLive globalId = true)
    (entered : ∀ id ∈ ids, arena.isLive id = true) :
    ∃ holder, arena.holder? name ids = .ok holder ∧
      ∀ id, holder = some id → id ∈ globalId :: ids := by
  -- the search goes from the innermost scope outward, and the global scope ends it
  induction ids with
  | nil =>
      obtain ⟨bindings, found⟩ := (isLive_iff arena globalId).mp global
      refine ⟨if bindings.has name then some globalId else none, by simp [holder?, found], ?_⟩
      intro id here
      split at here
      · cases here
        simp
      · cases here
  | cons id rest ih =>
      obtain ⟨bindings, found⟩ := (isLive_iff arena id).mp (entered id List.mem_cons_self)
      obtain ⟨holder, answer, within⟩ :=
        ih fun other member => entered other (List.mem_cons_of_mem id member)
      by_cases bound : bindings.has name = true
      · refine ⟨some id, by simp [holder?, found, bound], ?_⟩
        intro other here
        cases here
        simp
      · refine ⟨holder, by simp [holder?, found, bound, answer], ?_⟩
        intro other here
        rcases List.mem_cons.mp (within other here) with same | member
        · exact same ▸ List.mem_cons_self
        · exact List.mem_cons_of_mem _ (List.mem_cons_of_mem _ member)

theorem Sound.resolve_ok (sound : Sound arena stack) (name : String) :
    ∃ found, arena.resolve name = .ok found := by
  obtain ⟨holder, answer, _⟩ := holder?_ok name stack sound.global_live sound.entered_live
  simp [resolve, sound.stack_eq, answer, Except.map]

theorem CapturesIn.resolve {known : Set Nat} (held : CapturesIn known arena) {name : String}
    {value : Value} (found : arena.resolve name = .ok (some value)) : value.CapturesIn known := by
  unfold Arena.resolve at found
  cases answer : arena.holder? name arena.stack with
  | error fault => simp [answer, Except.map] at found
  | ok holder =>
      simp only [answer, Except.map, Except.ok.injEq, Option.bind_eq_some_iff] at found
      obtain ⟨id, _, bindings, scope, bound⟩ := found
      exact held id bindings scope name value bound

def withScope (id : Nat) (bindings : Bindings) (arena : Arena) : Arena :=
  { arena with scopes := Table.put id bindings arena.scopes }

theorem bind_eq {id : Nat} {bindings : Bindings} (name : String) (value : Value)
    (found : Table.get? id arena.scopes = some bindings) :
    bind id name value arena = .ok () (arena.withScope id (Table.put name value bindings)) := by
  simp [bind, withScope, found]

theorem Sound.withScope (sound : Sound arena stack) (id : Nat) (bindings : Bindings) :
    Sound (arena.withScope id bindings) stack := by
  have kept : ∀ other, arena.isLive other = true →
      (arena.withScope id bindings).isLive other = true := by
    intro other live
    simp only [isLive] at live
    simp [Arena.withScope, isLive, Table.has_put, live]
  exact
    { stack_eq := sound.stack_eq
      global_live := kept _ sound.global_live
      entered_live := fun other member => kept other (sound.entered_live other member)
      entered_local := sound.entered_local
      pinned_live := fun other member => kept other (sound.pinned_live other member)
      pinned_local := sound.pinned_local
      pinned_once := sound.pinned_once
      scopes_once := Table.nodup_put sound.scopes_once _ _
      fresh_local := sound.fresh_local }

theorem CapturesIn.withScope {known : Set Nat} (held : CapturesIn known arena) {id : Nat}
    {bindings : Bindings} {name : String} {value : Value}
    (found : Table.get? id arena.scopes = some bindings) (new : value.CapturesIn known) :
    CapturesIn known (arena.withScope id (Table.put name value bindings)) := by
  intro other others scope key bound here
  simp only [Arena.withScope, Table.get?_put] at scope
  split at scope
  · cases scope
    rw [Table.get?_put] at here
    split at here
    · cases here
      exact new
    · exact held id bindings found key bound here
  · exact held other others scope key bound here

/-- A declaration binds the name in the innermost scope. -/
theorem Sound.declare_ok (sound : Sound arena stack) (name : String) (value : Value) :
    ∃ bindings, Table.get? (stack.head?.getD globalId) arena.scopes = some bindings ∧
      declare name value arena =
        .ok () (arena.withScope (stack.head?.getD globalId) (Table.put name value bindings)) := by
  have live : arena.isLive (stack.head?.getD globalId) = true := by
    cases stack with
    | nil => exact sound.global_live
    | cons id rest => exact sound.entered_live id List.mem_cons_self
  obtain ⟨bindings, found⟩ := (isLive_iff _ _).mp live
  refine ⟨bindings, found, ?_⟩
  simp only [declare, innermost?, sound.stack_eq]
  exact bind_eq name value found

/-- An assignment binds the name where it is held, or else in the innermost scope. -/
theorem Sound.assign_ok (sound : Sound arena stack) (name : String) (value : Value) :
    ∃ holder bindings, arena.holder? name stack = .ok holder ∧
      Table.get? (holder.getD (stack.head?.getD globalId)) arena.scopes = some bindings ∧
        assign name value arena = .ok ()
          (arena.withScope (holder.getD (stack.head?.getD globalId))
            (Table.put name value bindings)) := by
  obtain ⟨holder, answer, within⟩ := holder?_ok name stack sound.global_live sound.entered_live
  cases holder with
  | none =>
      obtain ⟨bindings, found, bound⟩ := sound.declare_ok name value
      exact ⟨none, bindings, answer, found, by simp [assign, sound.stack_eq, answer, bound]⟩
  | some id =>
      have live : arena.isLive id = true := by
        rcases List.mem_cons.mp (within id rfl) with same | entered
        · exact same ▸ sound.global_live
        · exact sound.entered_live id entered
      obtain ⟨bindings, found⟩ := (isLive_iff _ _).mp live
      refine ⟨some id, bindings, answer, found, ?_⟩
      simp only [assign, sound.stack_eq, answer]
      exact bind_eq name value found

end

end Arena

end Parlance
