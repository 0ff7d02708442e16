import Parlance.Proofs.Arena.Sound

/-!
Leaving scopes and tidying up. Either a scope stays as it is, or it is given up together with its
pin; what remains of the arena is sound, and live scopes keep their bindings.
-/

namespace Parlance.Arena

def without (id : Nat) (arena : Arena) : Arena :=
  { arena with
    pinned := arena.pinned.filter (· ≠ id)
    scopes := Table.erase id arena.scopes }

/-- No scope, binding or pin is new. -/
structure Shrinks (before after : Arena) : Prop where
  nextId_eq : after.nextId = before.nextId
  scopes_old : ∀ id bindings, Table.get? id after.scopes = some bindings →
    Table.get? id before.scopes = some bindings
  pinned_old : ∀ id ∈ after.pinned, id ∈ before.pinned

theorem Shrinks.refl (arena : Arena) : Shrinks arena arena :=
  ⟨rfl, fun _ _ found => found, fun _ member => member⟩

theorem Shrinks.trans {first second third : Arena} (early : Shrinks first second)
    (late : Shrinks second third) : Shrinks first third :=
  ⟨late.nextId_eq.trans early.nextId_eq,
    fun id bindings found => early.scopes_old id bindings (late.scopes_old id bindings found),
    fun id member => early.pinned_old id (late.pinned_old id member)⟩

theorem Shrinks.capturesIn {known : Set Nat} {before after : Arena}
    (shrinks : Shrinks before after) (held : CapturesIn known before) : CapturesIn known after :=
  fun id bindings found => held id bindings (shrinks.scopes_old id bindings found)

section

variable {arena : Arena} {stack : List Nat}

theorem isLive_without (once : (Table.keys arena.scopes).Nodup) (id other : Nat) :
    (arena.without id).isLive other = (decide (other ≠ id) && arena.isLive other) := by
  by_cases same : other = id <;>
    simp [without, isLive, Table.has, Table.get?_erase once, same]

theorem without_shrinks (once : (Table.keys arena.scopes).Nodup) (id : Nat) :
    Shrinks arena (arena.without id) where
  nextId_eq := rfl
  scopes_old := by
    intro other bindings found
    simp only [without, Table.get?_erase once] at found
    split at found
    · cases found
    · exact found
  pinned_old := fun _ member => (List.mem_filter.mp member).1

theorem Sound.without (sound : Sound arena stack) {id : Nat} (left : id ∉ stack)
    (here : id ≠ globalId) : Sound (arena.without id) stack where
  stack_eq := sound.stack_eq
  global_live := by
    simp [isLive_without sound.scopes_once, sound.global_live, here.symm]
  entered_live := by
    intro other member
    have differ : other ≠ id := fun same => left (same ▸ member)
    simp [isLive_without sound.scopes_once, sound.entered_live other member, differ]
  entered_local := sound.entered_local
  pinned_live := by
    intro other member
    have kept := List.mem_filter.mp member
    have differ : other ≠ id := by simpa using kept.2
    simp [isLive_without sound.scopes_once, sound.pinned_live other kept.1, differ]
  pinned_local := fun member => sound.pinned_local (List.mem_filter.mp member).1
  pinned_once := sound.pinned_once.filter _
  scopes_once := Table.nodup_erase sound.scopes_once id
  fresh_local := sound.fresh_local

theorem Sound.unpinned (sound : Sound arena stack) (id : Nat) :
    Sound { arena with pinned := arena.pinned.filter (· ≠ id) } stack :=
  { sound with
    pinned_live := fun other member => sound.pinned_live other (List.mem_filter.mp member).1
    pinned_local := fun member => sound.pinned_local (List.mem_filter.mp member).1
    pinned_once := sound.pinned_once.filter _ }

def popped (id : Nat) (stack : List Nat) (arena : Arena) : Arena :=
  { arena with stack, carried := Table.erase id arena.carried }

theorem Sound.popped {id : Nat} (sound : Sound arena (id :: stack)) :
    Sound (arena.popped id stack) stack :=
  { sound with
    stack_eq := rfl
    entered_live := fun other member => sound.entered_live other (List.mem_cons_of_mem id member)
    entered_local := fun member => sound.entered_local (List.mem_cons_of_mem id member) }

/-- What leaving the innermost scope comes to: it stays, since it is entered elsewhere or pinned,
or it is given up. Nothing that retains scopes gives up a pinned one. -/
theorem Sound.pop_cases (upkeep : Upkeep) {id : Nat} (sound : Sound arena (id :: stack)) :
    (pop upkeep arena = .ok () (arena.popped id stack) ∧ (id ∈ stack ∨ id ∈ arena.pinned)) ∨
      (pop upkeep arena = .ok () ((arena.popped id stack).without id) ∧ id ∉ stack ∧
        (upkeep = .retain → id ∉ arena.pinned)) := by
  have live : arena.isLive id = true := sound.entered_live id List.mem_cons_self
  have liveLater : ∀ pinned carried,
      isLive { arena with stack, pinned, carried } id = true := fun _ _ => live
  -- a scope that is entered elsewhere too stays, whether it is pinned or not
  by_cases again : id ∈ stack
  · left
    refine ⟨?_, Or.inl again⟩
    simp [pop, sound.stack_eq, again, Arena.popped]
  · by_cases kept : id ∈ arena.pinned ∧ (upkeep = .retain ∨
        (arena.popped id stack).isCaptured id (Table.get? id arena.carried) = true)
    · left
      refine ⟨?_, Or.inr kept.1⟩
      have stays := kept.2
      simp only [Arena.popped] at stays
      simp [pop, sound.stack_eq, again, Arena.popped, kept.1, stays]
    · right
      refine ⟨?_, again, fun retain pinned => kept ⟨pinned, Or.inl retain⟩⟩
      simp only [Arena.popped] at kept
      simp [pop, sound.stack_eq, again, Arena.popped, Arena.without, kept, liveLater]

theorem Sound.pop_ok (upkeep : Upkeep) {id : Nat} (sound : Sound arena (id :: stack)) :
    ∃ after, pop upkeep arena = .ok () after ∧ Sound after stack ∧ Shrinks arena after := by
  have here : id ≠ globalId := fun same => sound.entered_local (same ▸ List.mem_cons_self)
  have off : Shrinks arena (arena.popped id stack) :=
    ⟨rfl, fun _ _ found => found, fun _ member => member⟩
  rcases sound.pop_cases upkeep with ⟨result, _⟩ | ⟨result, left, _⟩
  · exact ⟨_, result, sound.popped, off⟩
  · exact ⟨_, result, sound.popped.without left here,
      off.trans (without_shrinks sound.popped.scopes_once id)⟩

theorem Sound.release_ok (lost : List Nat) (once : lost.Nodup)
    (sound : Sound arena stack) (pinned : ∀ id ∈ lost, id ∈ arena.pinned) :
    ∃ after, release lost arena = .ok () after ∧ Sound after stack ∧ Shrinks arena after := by
  induction lost generalizing arena with
  | nil => exact ⟨arena, rfl, sound, Shrinks.refl arena⟩
  | cons id rest ih =>
      have restOnce := (List.nodup_cons.mp once).2
      have here : id ≠ globalId :=
        fun same => sound.pinned_local (same ▸ pinned id List.mem_cons_self)
      -- no scope is listed twice, so giving up the first leaves the pins of the others
      have stillPinned : ∀ other ∈ rest, other ∈ arena.pinned.filter (· ≠ id) := by
        intro other member
        have differ : other ≠ id := fun same => (List.nodup_cons.mp once).1 (same ▸ member)
        simp [pinned other (List.mem_cons_of_mem id member), differ]
      by_cases entered : id ∈ stack
      · have unpins : Shrinks arena { arena with pinned := arena.pinned.filter (· ≠ id) } :=
          ⟨rfl, fun _ _ found => found, fun _ member => (List.mem_filter.mp member).1⟩
        obtain ⟨after, result, kept, shrinks⟩ := ih restOnce (sound.unpinned id) stillPinned
        exact ⟨after, by simpa [release, sound.stack_eq, entered] using result, kept,
          unpins.trans shrinks⟩
      · have live : isLive { arena with pinned := arena.pinned.filter (· ≠ id) } id = true :=
          sound.pinned_live id (pinned id List.mem_cons_self)
        have off : arena.stack.contains id = false := by simp [sound.stack_eq, entered]
        have step : release (id :: rest) arena = release rest (arena.without id) := by
          simp only [release, off, live, Arena.without, Bool.false_eq_true, ↓reduceIte]
        obtain ⟨after, result, kept, shrinks⟩ :=
          ih restOnce (sound.without entered here) stillPinned
        exact ⟨after, step.trans result, kept,
          (without_shrinks sound.scopes_once id).trans shrinks⟩

/-- Tidying up never fails, and what retains scopes leaves the arena as it is. -/
theorem Sound.collect_ok (upkeep : Upkeep) (sound : Sound arena stack) (roots : List Value) :
    ∃ count after, collect upkeep roots arena = .ok count after ∧ Sound after stack ∧
      Shrinks arena after ∧ (upkeep = .retain → after = arena) := by
  by_cases idle : (arena.pinned.isEmpty || decide (upkeep = .retain)) = true
  · exact ⟨0, arena, by simp only [collect, idle, ↓reduceIte], sound, Shrinks.refl arena,
      fun _ => rfl⟩
  -- the walk over the entered scopes meets no missing one, for all of them are live
  · have entered : (globalId :: arena.stack.reverse).find? (fun id => !arena.isLive id) = none := by
      rw [List.find?_eq_none]
      intro id member
      have live : arena.isLive id = true := by
        rcases List.mem_cons.mp member with global | inner
        · exact global ▸ sound.global_live
        · exact sound.entered_live id (sound.stack_eq ▸ List.mem_reverse.mp inner)
      simp [live]
    let reached :=
      arena.reachable (roots ++ arena.carried.values) (globalId :: arena.stack.reverse)
    let lost := (arena.pinned.filter (· ∉ reached)).mergeSort (· ≤ ·)
    have sorted : lost.Perm (arena.pinned.filter (· ∉ reached)) := List.mergeSort_perm _ _
    have once : lost.Nodup := sorted.nodup_iff.mpr (sound.pinned_once.filter _)
    have pinned : ∀ id ∈ lost, id ∈ arena.pinned :=
      fun id member => (List.mem_filter.mp (sorted.mem_iff.mp member)).1
    obtain ⟨after, result, kept, shrinks⟩ := sound.release_ok lost once pinned
    refine ⟨lost.length, after, ?_, kept, shrinks, ?_⟩
    · simp only [collect, if_neg idle, entered]
      rw [show release _ arena = _ from result]
    · intro retain
      simp [retain] at idle

theorem unwind_eq (upkeep : Upkeep) (outside : arena.stack = []) :
    unwind upkeep arena = .ok () { arena with carried := [] } := by
  simp [unwind, outside, popTimes]

end

end Parlance.Arena
