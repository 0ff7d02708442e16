import Parlance.Proofs.Arena.Leaving

/-!
The account of an arena. Every live scope has a reason to be so: it is the global one, or entered,
or pinned; and whatever is entered or pinned is live. No operation of the arena spoils its account,
not even one that fails, and only those that enter or leave a scope change the stack.
-/

namespace Parlance.Arena

variable {α : Type}

def left : EStateM.Result Fault Arena α → Arena
  | .ok _ arena => arena
  | .error _ arena => arena

structure Accounted (arena : Arena) : Prop where
  live_held : ∀ id, arena.isLive id = true → id = globalId ∨ id ∈ arena.stack ∨ id ∈ arena.pinned
  entered_live : ∀ id ∈ arena.stack, arena.isLive id = true
  pinned_live : ∀ id ∈ arena.pinned, arena.isLive id = true
  pinned_local : globalId ∉ arena.pinned
  /-- Values are on their way out of entered scopes only. -/
  carried_entered : ∀ id, Table.has id arena.carried = true → id ∈ arena.stack
  carried_once : (Table.keys arena.carried).Nodup
  scopes_once : (Table.keys arena.scopes).Nodup

/-- The stack is the same, and an arena that was accounted for still is. -/
structure Balanced (before after : Arena) : Prop where
  stack_eq : after.stack = before.stack
  accounted : before.Accounted → after.Accounted

theorem Balanced.refl (arena : Arena) : Balanced arena arena := ⟨rfl, id⟩

theorem Balanced.trans {first second third : Arena} (early : Balanced first second)
    (late : Balanced second third) : Balanced first third :=
  ⟨late.stack_eq.trans early.stack_eq, late.accounted ∘ early.accounted⟩

theorem empty_accounted : empty.Accounted where
  live_held := by
    intro id live
    by_cases global : globalId = id
    · exact Or.inl global.symm
    · simp [empty, isLive, Table.has, Table.get?, global] at live
  entered_live := List.forall_mem_nil _
  pinned_live := List.forall_mem_nil _
  pinned_local := List.not_mem_nil
  carried_entered := by
    intro id carried
    cases carried
  carried_once := List.nodup_nil
  scopes_once := by simp [empty, Table.keys]

theorem reset_accounted (arena : Arena) : arena.reset.Accounted where
  live_held := empty_accounted.live_held
  entered_live := empty_accounted.entered_live
  pinned_live := empty_accounted.pinned_live
  pinned_local := empty_accounted.pinned_local
  carried_entered := empty_accounted.carried_entered
  carried_once := empty_accounted.carried_once
  scopes_once := empty_accounted.scopes_once

section

variable {arena : Arena} {stack : List Nat}

/-! ### Bindings and values carried -/

theorem withScope_balanced {id : Nat} (live : arena.isLive id = true) (bindings : Bindings) :
    Balanced arena (arena.withScope id bindings) where
  stack_eq := rfl
  accounted accounted := by
    have same : ∀ other, (arena.withScope id bindings).isLive other = arena.isLive other := by
      intro other
      have held : Table.has id arena.scopes = true := live
      by_cases here : other = id <;> simp [withScope, isLive, Table.has_put, here, held]
    exact
      { live_held := fun other alive => accounted.live_held other (same other ▸ alive)
        entered_live := fun other member => (same other).trans (accounted.entered_live other member)
        pinned_live := fun other member => (same other).trans (accounted.pinned_live other member)
        pinned_local := accounted.pinned_local
        carried_entered := accounted.carried_entered
        carried_once := accounted.carried_once
        scopes_once := Table.nodup_put accounted.scopes_once _ _ }

theorem bind_balanced (id : Nat) (name : String) (value : Value) :
    Balanced arena (left (bind id name value arena)) := by
  cases found : Table.get? id arena.scopes with
  | none =>
      simp only [bind, found]
      exact Balanced.refl arena
  | some bindings =>
      rw [bind_eq name value found]
      exact withScope_balanced ((isLive_iff arena id).mpr ⟨bindings, found⟩) _

theorem declare_balanced (name : String) (value : Value) :
    Balanced arena (left (declare name value arena)) :=
  bind_balanced _ name value

theorem assign_balanced (name : String) (value : Value) :
    Balanced arena (left (assign name value arena)) := by
  simp only [assign]
  cases arena.holder? name arena.stack with
  | error fault => exact Balanced.refl arena
  | ok holder =>
      cases holder with
      | none => exact declare_balanced name value
      | some id => exact bind_balanced id name value

/-- A value is noted at the innermost scope, or not at all. -/
theorem carry_cases (value : Value) (arena : Arena) : arena.carry value = arena ∨
    ∃ id ∈ arena.stack, arena.carry value =
      { arena with carried := Table.put id value arena.carried } := by
  unfold carry
  split
  · rename_i id rest entered
    split
    · exact Or.inl rfl
    · exact Or.inr ⟨id, entered ▸ List.mem_cons_self, rfl⟩
  · exact Or.inl rfl

theorem carry_balanced (value : Value) : Balanced arena (arena.carry value) := by
  rcases carry_cases value arena with same | ⟨id, entered, noted⟩
  · rw [same]
    exact Balanced.refl arena
  · rw [noted]
    refine ⟨rfl, fun accounted => { accounted with carried_entered := ?_, carried_once := ?_ }⟩
    · intro other carried
      rw [Table.has_put, Bool.or_eq_true, decide_eq_true_iff] at carried
      rcases carried with rfl | old
      · exact entered
      · exact accounted.carried_entered other old
    · exact Table.nodup_put accounted.carried_once _ _

/-! ### Entering scopes -/

theorem Accounted.pushFresh (accounted : arena.Accounted) : arena.pushFresh.Accounted := by
  have same : ∀ id, arena.pushFresh.isLive id = (decide (id = arena.nextId) || arena.isLive id) :=
    fun id => Table.has_put arena.nextId id [] arena.scopes
  exact
    { live_held := by
        intro id live
        rw [same, Bool.or_eq_true, decide_eq_true_iff] at live
        rcases live with rfl | old
        · exact Or.inr (Or.inl List.mem_cons_self)
        · exact (accounted.live_held id old).imp_right (Or.imp_left (List.mem_cons_of_mem _))
      entered_live := by
        intro id member
        rw [same, Bool.or_eq_true, decide_eq_true_iff]
        exact (List.mem_cons.mp member).imp_right (accounted.entered_live id)
      pinned_live := by
        intro id member
        rw [same, accounted.pinned_live id member, Bool.or_true]
      pinned_local := accounted.pinned_local
      carried_entered := fun id carried =>
        List.mem_cons_of_mem _ (accounted.carried_entered id carried)
      carried_once := accounted.carried_once
      scopes_once := Table.nodup_put accounted.scopes_once _ _ }

theorem Accounted.push (accounted : arena.Accounted) {id : Nat} (live : arena.isLive id = true) :
    (Arena.push id arena).Accounted where
  live_held other alive :=
    (accounted.live_held other alive).imp_right (Or.imp_left (List.mem_cons_of_mem _))
  entered_live other member := by
    rcases List.mem_cons.mp member with rfl | old
    · exact live
    · exact accounted.entered_live other old
  pinned_live := accounted.pinned_live
  pinned_local := accounted.pinned_local
  carried_entered other carried := List.mem_cons_of_mem _ (accounted.carried_entered other carried)
  carried_once := accounted.carried_once
  scopes_once := accounted.scopes_once

theorem Accounted.pin (accounted : arena.Accounted) {id : Nat} (live : arena.isLive id = true) :
    (arena.pin id).Accounted := by
  have same : ∀ other, (arena.pin id).isLive other = arena.isLive other :=
    isLive_congr (pin_scopes id arena)
  have carried : (arena.pin id).carried = arena.carried := by
    unfold Arena.pin
    split <;> rfl
  exact
    { live_held := by
        intro other alive
        rw [pin_stack, mem_pin_pinned]
        exact (accounted.live_held other (same other ▸ alive)).imp_right (Or.imp_right Or.inl)
      entered_live := by
        intro other member
        rw [pin_stack] at member
        exact (same other).trans (accounted.entered_live other member)
      pinned_live := by
        intro other member
        rw [same]
        rcases (mem_pin_pinned id other arena).mp member with old | ⟨rfl, _⟩
        · exact accounted.pinned_live other old
        · exact live
      pinned_local := by
        intro member
        rcases (mem_pin_pinned id globalId arena).mp member with old | ⟨same, here⟩
        · exact accounted.pinned_local old
        · exact here same.symm
      carried_entered := by
        rw [pin_stack, carried]
        exact accounted.carried_entered
      carried_once := carried ▸ accounted.carried_once
      scopes_once := (pin_scopes id arena).symm ▸ accounted.scopes_once }

/-- A function captures the innermost scope, which is live. -/
theorem pin_balanced {id : Nat} (innermost : arena.innermost? = some id) :
    Balanced arena (arena.pin id) where
  stack_eq := pin_stack id arena
  accounted accounted :=
    accounted.pin (accounted.entered_live id (List.mem_of_mem_head? innermost))

/-! ### Leaving scopes -/

theorem Accounted.without (accounted : arena.Accounted) {id : Nat} (gone : id ∉ arena.stack) :
    (arena.without id).Accounted where
  live_held other alive := by
    rw [isLive_without accounted.scopes_once, Bool.and_eq_true, decide_eq_true_iff] at alive
    rcases accounted.live_held other alive.2 with global | entered | pinned
    · exact Or.inl global
    · exact Or.inr (Or.inl entered)
    · exact Or.inr (Or.inr (List.mem_filter.mpr ⟨pinned, by simpa using alive.1⟩))
  entered_live other member := by
    have differ : other ≠ id := fun same => gone (same ▸ member)
    simp [isLive_without accounted.scopes_once, accounted.entered_live other member, differ]
  pinned_live other member := by
    have kept := List.mem_filter.mp member
    have differ : other ≠ id := by simpa using kept.2
    simp [isLive_without accounted.scopes_once, accounted.pinned_live other kept.1, differ]
  pinned_local member := accounted.pinned_local (List.mem_filter.mp member).1
  carried_entered := accounted.carried_entered
  carried_once := accounted.carried_once
  scopes_once := Table.nodup_erase accounted.scopes_once id

theorem Accounted.unpinned (accounted : arena.Accounted) {id : Nat} (entered : id ∈ arena.stack) :
    Accounted { arena with pinned := arena.pinned.filter (· ≠ id) } :=
  { accounted with
    live_held := by
      intro other alive
      by_cases same : other = id
      · exact Or.inr (Or.inl (same ▸ entered))
      · refine (accounted.live_held other alive).imp_right (Or.imp_right fun pinned => ?_)
        exact List.mem_filter.mpr ⟨pinned, by simpa using same⟩
    pinned_live := fun other member => accounted.pinned_live other (List.mem_filter.mp member).1
    pinned_local := fun member => accounted.pinned_local (List.mem_filter.mp member).1 }

theorem Accounted.carried_popped (accounted : arena.Accounted) {id : Nat}
    (entered : arena.stack = id :: stack) {other : Nat}
    (carried : Table.has other (arena.popped id stack).carried = true) : other ∈ stack := by
  -- what was carried out of the scope left is on its way no more
  simp only [Arena.popped, Table.has, Table.get?_erase accounted.carried_once] at carried
  split at carried
  · cases carried
  · rename_i differ
    have inside := accounted.carried_entered other carried
    rw [entered] at inside
    exact (List.mem_cons.mp inside).resolve_left differ

/-- The scope left is still accounted for if it is entered elsewhere too, or pinned. -/
theorem Accounted.popped (accounted : arena.Accounted) {id : Nat}
    (entered : arena.stack = id :: stack) (held : id ∈ stack ∨ id ∈ arena.pinned) :
    (arena.popped id stack).Accounted where
  live_held other alive := by
    rcases accounted.live_held other alive with global | inside | pinned
    · exact Or.inl global
    · rw [entered] at inside
      rcases List.mem_cons.mp inside with rfl | outer
      · exact Or.inr held
      · exact Or.inr (Or.inl outer)
    · exact Or.inr (Or.inr pinned)
  entered_live other member :=
    accounted.entered_live other (entered ▸ List.mem_cons_of_mem id member)
  pinned_live := accounted.pinned_live
  pinned_local := accounted.pinned_local
  carried_entered _ carried := accounted.carried_popped entered carried
  carried_once := Table.nodup_erase accounted.carried_once id
  scopes_once := accounted.scopes_once

theorem Accounted.givenUp (accounted : arena.Accounted) {id : Nat}
    (entered : arena.stack = id :: stack) (gone : id ∉ stack) :
    ((arena.popped id stack).without id).Accounted := by
  -- the scope left is given up, for it is entered no longer
  have live : ∀ other, ((arena.popped id stack).without id).isLive other =
      (decide (other ≠ id) && arena.isLive other) :=
    @isLive_without (arena.popped id stack) accounted.scopes_once id
  refine
    { live_held := ?_, entered_live := ?_, pinned_live := ?_
      pinned_local := fun member => accounted.pinned_local (List.mem_filter.mp member).1
      carried_entered := fun _ carried => accounted.carried_popped entered carried
      carried_once := Table.nodup_erase accounted.carried_once id
      scopes_once := Table.nodup_erase accounted.scopes_once id }
  · intro other alive
    rw [live, Bool.and_eq_true, decide_eq_true_iff] at alive
    rcases accounted.live_held other alive.2 with global | inside | pinned
    · exact Or.inl global
    · rw [entered] at inside
      exact Or.inr (Or.inl ((List.mem_cons.mp inside).resolve_left alive.1))
    · exact Or.inr (Or.inr (List.mem_filter.mpr ⟨pinned, by simpa using alive.1⟩))
  · intro other member
    have differ : other ≠ id := fun same => gone (same ▸ member)
    simp [live, differ, accounted.entered_live other (entered ▸ List.mem_cons_of_mem id member)]
  · intro other member
    have kept := List.mem_filter.mp member
    have differ : other ≠ id := by simpa using kept.2
    simp [live, differ, accounted.pinned_live other kept.1]

theorem Accounted.pop_ok (accounted : arena.Accounted) (upkeep : Upkeep) {id : Nat}
    (entered : arena.stack = id :: stack) :
    ∃ after, Arena.pop upkeep arena = .ok () after ∧ after.Accounted := by
  -- leaving a scope does not fail, since what is entered is live
  have live : isLive { arena with
      stack := stack
      pinned := arena.pinned.filter (· ≠ id)
      carried := Table.erase id arena.carried } id = true :=
    accounted.entered_live id (entered ▸ List.mem_cons_self)
  simp only [Arena.pop, entered, live, ↓reduceIte]
  split
  · rename_i again
    exact ⟨_, rfl, accounted.popped entered (Or.inl (List.contains_iff_mem.mp again))⟩
  · rename_i gone
    split
    · rename_i kept
      have pinned := (Bool.and_eq_true_iff.mp kept).1
      exact ⟨_, rfl, accounted.popped entered (Or.inr (List.contains_iff_mem.mp pinned))⟩
    · exact ⟨_, rfl, accounted.givenUp entered fun again => gone (List.contains_iff_mem.mpr again)⟩

theorem Accounted.pop (accounted : arena.Accounted) (upkeep : Upkeep) :
    (left (pop upkeep arena)).Accounted := by
  cases entered : arena.stack with
  | nil =>
      simp only [Arena.pop, entered]
      exact accounted
  | cons id rest =>
      obtain ⟨after, result, kept⟩ := accounted.pop_ok upkeep entered
      rw [result]
      exact kept

theorem stack_pop (upkeep : Upkeep) : (left (pop upkeep arena)).stack = arena.stack.tail := by
  cases entered : arena.stack with
  | nil => simp [Arena.pop, entered, left]
  | cons id rest =>
      simp only [Arena.pop, entered]
      repeat' split
      all_goals rfl

/-- What is done in a scope, between entering and leaving it, is balanced if it is so inside. -/
theorem Balanced.around {entered inside : Arena} (within : Balanced entered inside) {id : Nat}
    (enters : entered.stack = id :: arena.stack) (kept : arena.Accounted → entered.Accounted)
    (upkeep : Upkeep) : Balanced arena (left (Arena.pop upkeep inside)) where
  stack_eq := by rw [stack_pop, within.stack_eq, enters, List.tail_cons]
  accounted accounted := (within.accounted (kept accounted)).pop upkeep

/-! ### Tidying up -/

theorem release_balanced (lost : List Nat) : Balanced arena (left (release lost arena)) := by
  induction lost generalizing arena with
  | nil => exact Balanced.refl arena
  | cons id rest ih =>
      simp only [release]
      split
      · rename_i entered
        have unpins : Balanced arena { arena with pinned := arena.pinned.filter (· ≠ id) } :=
          ⟨rfl, fun accounted => accounted.unpinned (List.contains_iff_mem.mp entered)⟩
        exact unpins.trans ih
      · rename_i gone
        have off : id ∉ arena.stack := fun again => gone (List.contains_iff_mem.mpr again)
        split
        · have gives : Balanced arena (arena.without id) :=
            ⟨rfl, fun accounted => accounted.without off⟩
          exact gives.trans ih
        · rename_i missing
          -- releasing stops at a scope that is gone; it was not pinned, so no pin is taken away
          refine ⟨rfl, fun accounted => ?_⟩
          have absent : id ∉ arena.pinned :=
            fun pinned => missing (accounted.pinned_live id pinned)
          have same : arena.pinned.filter (· ≠ id) = arena.pinned :=
            List.filter_eq_self.mpr fun other member =>
              decide_eq_true fun here => absent (here ▸ member)
          rw [same]
          exact accounted

theorem collect_balanced (upkeep : Upkeep) (roots : List Value) :
    Balanced arena (left (collect upkeep roots arena)) := by
  simp only [collect]
  split
  · exact Balanced.refl arena
  · split
    · exact Balanced.refl arena
    · let reached :=
        arena.reachable (roots ++ arena.carried.values) (globalId :: arena.stack.reverse)
      have released : Balanced arena
          (left (release ((arena.pinned.filter (· ∉ reached)).mergeSort (· ≤ ·)) arena)) :=
        release_balanced _
      split
      · rename_i result
        rw [result] at released
        exact released
      · rename_i result
        rw [result] at released
        exact released

/-! ### Outside of every scope -/

/-- Nothing is entered or carried, every live scope is the global one or pinned, and every pinned
one is live. -/
structure Settled (arena : Arena) : Prop where
  stack_eq : arena.stack = []
  carried_eq : arena.carried = []
  live_held : ∀ id, arena.isLive id = true → id = globalId ∨ id ∈ arena.pinned
  pinned_live : ∀ id ∈ arena.pinned, arena.isLive id = true

theorem Accounted.settled (accounted : arena.Accounted) (outside : arena.stack = []) :
    arena.Settled where
  stack_eq := outside
  carried_eq := by
    have none : ∀ id, id ∉ Table.keys arena.carried := by
      intro id member
      have entered := accounted.carried_entered id ((Table.mem_keys_iff id arena.carried).mp member)
      simp [outside] at entered
    exact List.map_eq_nil_iff.mp (List.eq_nil_iff_forall_not_mem.mpr none)
  live_held id live := by
    rcases accounted.live_held id live with global | entered | pinned
    · exact Or.inl global
    · simp [outside] at entered
    · exact Or.inr pinned
  pinned_live := accounted.pinned_live

end

end Parlance.Arena
