import Mathlib.Data.List.Perm.Subperm
import Parlance.Proofs.Arena.Accounted

/-!
Reachable scopes. A chain of captures goes from a value to a live scope that a function in it
captured, and on from there through the values bound in that scope. The walk of `reachable` finds
the scopes that chains lead to, and nothing else, so tidying up outside of every scope leaves the
global scope and those.
-/

namespace Parlance.Arena

/-- The live scopes that chains of captures lead to from some values. -/
inductive Chained (arena : Arena) (values : List Value) : Nat → Prop where
  | root {value : Value} {id : Nat} : value ∈ values → id ∈ value.captured →
      arena.isLive id = true → Chained arena values id
  | link {inner : Nat} {value : Value} {id : Nat} : Chained arena values inner →
      value ∈ arena.valuesOf inner → id ∈ value.captured → arena.isLive id = true →
        Chained arena values id

section

variable {arena : Arena} {values : List Value}

theorem Chained.live {id : Nat} (chained : arena.Chained values id) : arena.isLive id = true := by
  cases chained with
  | root _ _ live => exact live
  | link _ _ _ live => exact live

/-- Chains lead to the same scopes in an arena that has kept the scopes they lead to. -/
theorem Chained.of_kept {after : Arena} {id : Nat} (chained : arena.Chained values id)
    (kept : ∀ other, arena.Chained values other →
      Table.get? other after.scopes = Table.get? other arena.scopes) :
    after.Chained values id := by
  have live : ∀ other, arena.Chained values other → after.isLive other = true := by
    intro other member
    have alive := member.live
    simp only [isLive, Table.has] at alive ⊢
    rw [kept other member, alive]
  induction chained with
  | root member captured alive =>
      exact .root member captured (live _ (.root member captured alive))
  | link inner bound captured alive ih =>
      refine .link ih ?_ captured (live _ (.link inner bound captured alive))
      simp only [valuesOf, kept _ inner]
      exact bound

/-! ### The walk -/

theorem mem_capturedFrom {ids : List Nat} {id : Nat} :
    id ∈ arena.capturedFrom ids ↔ arena.isLive id = true ∧
      ∃ inner ∈ ids, ∃ value ∈ arena.valuesOf inner, id ∈ value.captured := by
  simp [capturedFrom, and_comm]

def fresh (arena : Arena) (seen : List Nat) : List Nat :=
  ((arena.capturedFrom seen).filter (· ∉ seen)).eraseDups

theorem mem_fresh {seen : List Nat} {id : Nat} :
    id ∈ arena.fresh seen ↔ id ∈ arena.capturedFrom seen ∧ id ∉ seen := by
  simp [fresh]

theorem nodup_eraseDups : (ids : List Nat) → ids.eraseDups.Nodup
  | [] => by simp
  | id :: rest => by
      rw [List.eraseDups_cons, List.nodup_cons]
      exact ⟨by simp, nodup_eraseDups _⟩
termination_by ids => ids.length
decreasing_by
  have fewer := List.length_filter_le (fun other => !other == id) rest
  simp only [List.length_cons]
  omega

theorem reach_succ (rounds : Nat) (seen : List Nat) : arena.reach (rounds + 1) seen =
    if arena.fresh seen = [] then seen else arena.reach rounds (seen ++ arena.fresh seen) := by
  rw [reach, ← fresh]
  cases arena.fresh seen with
  | nil => rfl
  | cons id rest => rfl

theorem subset_reach (rounds : Nat) (seen : List Nat) : seen ⊆ arena.reach rounds seen := by
  induction rounds generalizing seen with
  | zero => exact List.Subset.refl seen
  | succ rounds ih =>
      rw [reach_succ]
      split
      · exact List.Subset.refl seen
      · exact List.Subset.trans (List.subset_append_left seen _) (ih _)

theorem reach_induction {P : Nat → Prop} {seen : List Nat} (rounds : Nat)
    (start : ∀ id ∈ seen, P id)
    (step : ∀ ids : List Nat, (∀ id ∈ ids, P id) → ∀ id ∈ arena.capturedFrom ids, P id) :
    ∀ id ∈ arena.reach rounds seen, P id := by
  induction rounds generalizing seen with
  | zero => exact start
  | succ rounds ih =>
      rw [reach_succ]
      split
      · exact start
      · apply ih
        intro id member
        rcases List.mem_append.mp member with old | new
        · exact start id old
        · exact step seen start id (mem_fresh.mp new).1

/-- Scopes that are live and all different, and as many as there are, are all that there are. -/
theorem live_mem_of_size_le {seen : List Nat} (once : seen.Nodup)
    (live : ∀ id ∈ seen, arena.isLive id = true) (all : arena.size ≤ seen.length) {id : Nat}
    (here : arena.isLive id = true) : id ∈ seen := by
  have known : seen ⊆ Table.keys arena.scopes :=
    fun other member => (Table.mem_keys_iff other arena.scopes).mpr (live other member)
  have same : seen.Perm (Table.keys arena.scopes) := by
    apply (once.subperm known).perm_of_length_le
    simpa [Table.keys, size] using all
  exact same.mem_iff.mpr ((Table.mem_keys_iff id arena.scopes).mpr here)

theorem reach_closed {seen : List Nat} (rounds : Nat) (once : seen.Nodup)
    (live : ∀ id ∈ seen, arena.isLive id = true) (enough : arena.size ≤ seen.length + rounds) :
    arena.capturedFrom (arena.reach rounds seen) ⊆ arena.reach rounds seen := by
  -- the walk ends where no step leads further: each round but the last finds one more live scope,
  -- so there are as many rounds as scopes at most
  induction rounds generalizing seen with
  | zero =>
      intro id member
      exact live_mem_of_size_le once live enough (mem_capturedFrom.mp member).1
  | succ rounds ih =>
      rw [reach_succ]
      split
      · rename_i none
        intro id member
        by_contra new
        have found : id ∈ arena.fresh seen := mem_fresh.mpr ⟨member, new⟩
        simp [none] at found
      · rename_i more
        have some : 0 < (arena.fresh seen).length := List.length_pos_iff.mpr more
        apply ih
        · refine List.nodup_append.mpr ⟨once, nodup_eraseDups _, ?_⟩
          rintro id old other new rfl
          exact (mem_fresh.mp new).2 old
        · intro id member
          rcases List.mem_append.mp member with old | new
          · exact live id old
          · exact (mem_capturedFrom.mp (mem_fresh.mp new).1).1
        · rw [List.length_append]
          omega

/-- What the walk finds is what chains of captures lead to. -/
theorem mem_reachable_iff {ids : List Nat} {id : Nat} :
    id ∈ arena.reachable values ids ↔
      arena.Chained (values ++ ids.flatMap arena.valuesOf) id := by
  have first : ∀ other, other ∈ (((values ++ ids.flatMap arena.valuesOf).flatMap
      Value.captured).filter arena.isLive).eraseDups ↔ arena.isLive other = true ∧
        ∃ value ∈ values ++ ids.flatMap arena.valuesOf, other ∈ value.captured := by
    intro other
    rw [List.mem_eraseDups, List.mem_filter, List.mem_flatMap, and_comm]
  simp only [reachable]
  constructor
  · refine reach_induction (P := arena.Chained _) arena.size ?_ ?_ id
    · intro other member
      obtain ⟨live, value, bound, captured⟩ := (first other).mp member
      exact .root bound captured live
    · intro inner chained other member
      obtain ⟨live, holder, held, value, bound, captured⟩ := mem_capturedFrom.mp member
      exact .link (chained holder held) bound captured live
  · intro chained
    induction chained with
    | root bound captured live =>
        exact subset_reach _ _ ((first _).mpr ⟨live, _, bound, captured⟩)
    | link _ bound captured live ih =>
        refine reach_closed _ (nodup_eraseDups _) (fun other member => ((first other).mp member).1)
          (Nat.le_add_left _ _) ?_
        exact mem_capturedFrom.mpr ⟨live, _, ih, _, bound, captured⟩

/-! ### What tidying up leaves -/

theorem get?_of_release {lost : List Nat} (once : (Table.keys arena.scopes).Nodup)
    (outside : arena.stack = []) {after : Arena} (result : release lost arena = .ok () after)
    (id : Nat) : Table.get? id after.scopes =
      if id ∈ lost then none else Table.get? id arena.scopes := by
  induction lost generalizing arena with
  | nil =>
      cases result
      simp
  | cons other rest ih =>
      simp only [release, outside, List.contains_nil, Bool.false_eq_true, ↓reduceIte] at result
      split at result
      · rw [@ih (arena.without other) (Table.nodup_erase once other) outside
          (by simpa [without, outside] using result)]
        simp only [without, Table.get?_erase once]
        by_cases same : id = other <;> simp [same]
      · cases result

/-- Tidying up that ends well does nothing, or it gives up the pinned scopes that nothing
reaches. -/
theorem collect_cases {upkeep : Upkeep} {roots : List Value} {count : Nat} {after : Arena}
    (result : collect upkeep roots arena = .ok count after) :
    (arena.pinned = [] ∨ upkeep = .retain) ∧ after = arena ∨
      release ((arena.pinned.filter (· ∉ arena.reachable (roots ++ arena.carried.values)
        (globalId :: arena.stack.reverse))).mergeSort (· ≤ ·)) arena = .ok () after := by
  simp only [collect] at result
  split at result
  · rename_i idle
    cases result
    exact Or.inl ⟨by simpa using idle, rfl⟩
  · split at result
    · cases result
    · split at result
      · rename_i released
        cases result
        exact Or.inr released
      · cases result

/-- Where every pinned scope is reached there is nothing to tidy up. -/
theorem collect_idle {upkeep : Upkeep} {roots : List Value}
    (present : (globalId :: arena.stack.reverse).find? (fun id => !arena.isLive id) = none)
    (reached : arena.pinned.filter (· ∉ arena.reachable (roots ++ arena.carried.values)
      (globalId :: arena.stack.reverse)) = []) :
    collect upkeep roots arena = .ok 0 arena := by
  simp only [collect, present, reached, List.mergeSort_nil, List.length_nil]
  split
  · rfl
  · rfl

/-- Outside of every scope, tidying up leaves only the global scope and those that chains of
captures lead to in the arena that is left. -/
theorem Accounted.chained_of_collect (accounted : arena.Accounted) (outside : arena.stack = [])
    {value : Value} {count : Nat} {after : Arena}
    (result : collect .reclaim [value] arena = .ok count after) {id : Nat}
    (live : after.isLive id = true) (here : id ≠ globalId) :
    after.Chained (value :: after.globals.values) id := by
  have settled := accounted.settled outside
  rcases collect_cases result with ⟨idle, rfl⟩ | released
  · have none := idle.resolve_right nofun
    have pinned := (settled.live_held id live).resolve_left here
    simp [none] at pinned
  · generalize some : (arena.pinned.filter _).mergeSort _ = lost at released
    have mem_lost : ∀ other, other ∈ lost ↔ other ∈ arena.pinned ∧
        ¬ arena.Chained (value :: arena.valuesOf globalId) other := by
      intro other
      simp only [← some, List.mem_mergeSort, List.mem_filter, decide_eq_true_eq, mem_reachable_iff]
      simp [settled.carried_eq, outside, Table.values]
    have left := get?_of_release accounted.scopes_once outside released
    -- no scope that a chain leads to is given up, and neither is the global one
    have kept : ∀ other, arena.Chained (value :: arena.valuesOf globalId) other →
        Table.get? other after.scopes = Table.get? other arena.scopes := by
      intro other chained
      rw [left, if_neg fun member => ((mem_lost other).mp member).2 chained]
    have global : after.globals.values = arena.valuesOf globalId := by
      rw [globals, valuesOf, left,
        if_neg fun member => accounted.pinned_local ((mem_lost globalId).mp member).1]
    have stays : id ∉ lost ∧ arena.isLive id = true := by
      simp only [isLive, Table.has, left] at live ⊢
      split at live
      · cases live
      · rename_i off
        exact ⟨off, live⟩
    have pinned := (settled.live_held id stays.2).resolve_left here
    have chained : arena.Chained (value :: arena.valuesOf globalId) id := by
      by_contra unchained
      exact stays.1 ((mem_lost id).mpr ⟨pinned, unchained⟩)
    rw [global]
    exact chained.of_kept kept

end

end Parlance.Arena
