import Parlance.Proofs.Arena.Lifecycle
import Parlance.Proofs.Arena.Reachable

/-!
Garbage. A pinned scope is garbage once no chain of captures leads to it from anything that is still
held. Tidying up in any state of the arena, also inside of scopes, gives up all garbage and nothing
else. Leaving a scope asks for less than a chain, whether a function outside the scope captures it;
but the last step of a chain that comes from outside is such a function. Main statement:
`only_garbage_given_up`.
-/

namespace Parlance.Arena

/-- The tables list nothing twice, what is entered or pinned is live, and what is live is the global
scope, entered or pinned. -/
structure Represented (arena : Arena) : Prop where
  global_live : arena.isLive globalId = true
  entered_live : ∀ id ∈ arena.stack, arena.isLive id = true
  pinned_live : ∀ id ∈ arena.pinned, arena.isLive id = true
  pinned_local : globalId ∉ arena.pinned
  live_held : ∀ id, arena.isLive id = true → id = globalId ∨ id ∈ arena.stack ∨ id ∈ arena.pinned
  pinned_once : arena.pinned.Nodup
  scopes_once : (Table.keys arena.scopes).Nodup

theorem Kept.represented {arena : Arena} (kept : arena.Kept) : arena.Represented where
  global_live := kept.sound.global_live
  entered_live := kept.sound.entered_live
  pinned_live := kept.sound.pinned_live
  pinned_local := kept.sound.pinned_local
  live_held := kept.accounted.live_held
  pinned_once := kept.sound.pinned_once
  scopes_once := kept.sound.scopes_once

/-- A chain of captures leads to the scope from the roots, the carried values, or what is bound in
the global scope or an entered one. -/
def Wanted (arena : Arena) (roots : List Value) (id : Nat) : Prop :=
  arena.Chained (roots ++ arena.carried.values ++
    (globalId :: arena.stack).flatMap arena.valuesOf) id

/-- All garbage is given up, and nothing else is changed. -/
structure Collected (arena : Arena) (roots : List Value) (count : Nat) (after : Arena) :
    Prop where
  stack_eq : after.stack = arena.stack
  carried_eq : after.carried = arena.carried
  nextId_eq : after.nextId = arena.nextId
  live_iff : ∀ id, after.isLive id = true ↔
    id = globalId ∨ id ∈ arena.stack ∨ id ∈ arena.pinned ∧ arena.Wanted roots id
  bindings_eq : ∀ id, after.isLive id = true →
    Table.get? id after.scopes = Table.get? id arena.scopes
  pinned_iff : ∀ id, id ∈ after.pinned ↔ id ∈ arena.pinned ∧ arena.Wanted roots id
  /-- The count is that of the scopes unpinned. -/
  count_eq : count = (arena.pinned.filter (· ∉ after.pinned)).length
  again : collect .reclaim roots after = .ok 0 after

/-- Of the pinned scopes those that are entered still, or wanted, stay as they are; what is carried
out of the scope that is left counts as a root. -/
structure Spared (arena : Arena) (id : Nat) (rest : List Nat) (after : Arena) : Prop where
  stack_eq : after.stack = rest
  spared : ∀ other ∈ arena.pinned,
    other ∈ rest ∨ (arena.popped id rest).Wanted (Table.get? id arena.carried).toList other →
      other ∈ after.pinned ∧ after.isLive other = true ∧
        Table.get? other after.scopes = Table.get? other arena.scopes

section

variable {arena : Arena} {roots : List Value}

theorem Chained.of_subset {values more : List Value} (within : values ⊆ more) {id : Nat}
    (chained : arena.Chained values id) : arena.Chained more id := by
  induction chained with
  | root member captured live => exact .root (within member) captured live
  | link _ bound captured live ih => exact .link ih bound captured live

theorem isLive_of_get?_eq {before after : Arena} {id : Nat}
    (same : Table.get? id after.scopes = Table.get? id before.scopes) :
    after.isLive id = before.isLive id := by
  simp only [isLive, Table.has, same]

theorem valuesOf_of_get?_eq {before after : Arena} {id : Nat}
    (same : Table.get? id after.scopes = Table.get? id before.scopes) :
    after.valuesOf id = before.valuesOf id := by
  simp only [valuesOf, same]

theorem mem_reachable_iff_wanted {id : Nat} :
    id ∈ arena.reachable (roots ++ arena.carried.values) (globalId :: arena.stack.reverse) ↔
      arena.Wanted roots id := by
  -- the walk over the arena finds what is wanted; it goes over the stack from the outside
  have ids : ∀ value : Value,
      value ∈ (globalId :: arena.stack.reverse).flatMap arena.valuesOf ↔
        value ∈ (globalId :: arena.stack).flatMap arena.valuesOf := by
    intro value
    simp only [List.mem_flatMap, List.mem_cons, List.mem_reverse]
  rw [mem_reachable_iff]
  constructor
  · refine Chained.of_subset fun value member => ?_
    rw [List.mem_append] at member ⊢
    exact member.imp_right (ids value).mp
  · refine Chained.of_subset fun value member => ?_
    rw [List.mem_append] at member ⊢
    exact member.imp_right (ids value).mpr

/-! ### Giving scopes up -/

/-- What giving up scopes comes to: of those entered only the pins go. -/
structure Released (arena : Arena) (gone : List Nat) (after : Arena) : Prop where
  stack_eq : after.stack = arena.stack
  carried_eq : after.carried = arena.carried
  nextId_eq : after.nextId = arena.nextId
  pinned_eq : after.pinned = arena.pinned.filter (· ∉ gone)
  get?_eq : ∀ id, Table.get? id after.scopes =
    if id ∈ gone ∧ id ∉ arena.stack then none else Table.get? id arena.scopes

theorem release_eq {gone : List Nat} (once : gone.Nodup)
    (scopes : (Table.keys arena.scopes).Nodup) (live : ∀ id ∈ gone, arena.isLive id = true) :
    ∃ after, release gone arena = .ok () after ∧ arena.Released gone after := by
  induction gone generalizing arena with
  | nil => exact ⟨arena, rfl, rfl, rfl, rfl, by simp, by simp⟩
  | cons first rest ih =>
      obtain ⟨new, restOnce⟩ := List.nodup_cons.mp once
      have pins : (arena.pinned.filter (· ≠ first)).filter (· ∉ rest) =
          arena.pinned.filter (· ∉ first :: rest) := by
        rw [List.filter_filter]
        apply List.filter_congr
        intro id _
        simpa using Bool.and_comm _ _
      by_cases entered : first ∈ arena.stack
      · obtain ⟨after, result, released⟩ :=
          @ih { arena with pinned := arena.pinned.filter (· ≠ first) } restOnce scopes
            fun id member => live id (List.mem_cons_of_mem first member)
        refine ⟨after, ?_, released.stack_eq, released.carried_eq, released.nextId_eq,
          released.pinned_eq.trans pins, fun id => ?_⟩
        · simpa only [release, List.contains_iff_mem, entered, ↓reduceIte] using result
        · rw [released.get?_eq]
          by_cases here : id = first
          · simp [here, entered]
          · simp [here]
      · have alive : isLive { arena with pinned := arena.pinned.filter (· ≠ first) } first = true :=
          live first List.mem_cons_self
        -- the scopes behind the first are others, so they are live without it
        have still : ∀ id ∈ rest, (arena.without first).isLive id = true := by
          intro id member
          have differ : id ≠ first := fun same => new (same ▸ member)
          simp [isLive_without scopes, differ, live id (List.mem_cons_of_mem first member)]
        obtain ⟨after, result, released⟩ := ih restOnce (Table.nodup_erase scopes first) still
        have off : arena.stack.contains first = false := by simp [entered]
        refine ⟨after, ?_, released.stack_eq, released.carried_eq, released.nextId_eq,
          released.pinned_eq.trans pins, fun id => ?_⟩
        · simp only [release, off, alive, Bool.false_eq_true, ↓reduceIte]
          exact result
        · rw [released.get?_eq]
          simp only [without, Table.get?_erase scopes]
          by_cases here : id = first
          · simp [here, entered]
          · simp [here]

def lost (arena : Arena) (roots : List Value) : List Nat :=
  (arena.pinned.filter (· ∉ arena.reachable (roots ++ arena.carried.values)
    (globalId :: arena.stack.reverse))).mergeSort (· ≤ ·)

theorem mem_lost {id : Nat} :
    id ∈ arena.lost roots ↔ id ∈ arena.pinned ∧ ¬ arena.Wanted roots id := by
  simp only [lost, List.mem_mergeSort, List.mem_filter, decide_eq_true_eq, mem_reachable_iff_wanted]

theorem find?_missing (global : arena.isLive globalId = true)
    (entered : ∀ id ∈ arena.stack, arena.isLive id = true) :
    (globalId :: arena.stack.reverse).find? (fun id => !arena.isLive id) = none := by
  rw [List.find?_eq_none]
  intro id member
  rcases List.mem_cons.mp member with rfl | inner
  · simp [global]
  · simp [entered id (List.mem_reverse.mp inner)]

/-- Tidying up gives up what is lost, also where nothing is pinned at all. -/
theorem Represented.collect_eq (represented : arena.Represented) (roots : List Value)
    {after : Arena} (released : release (arena.lost roots) arena = .ok () after) :
    collect .reclaim roots arena = .ok (arena.lost roots).length after := by
  have present := find?_missing represented.global_live represented.entered_live
  by_cases idle : arena.pinned = []
  · have nothing : arena.lost roots = [] := by simp [lost, idle]
    rw [nothing] at released ⊢
    obtain ⟨_, rfl⟩ := EStateM.Result.ok.inj released
    simp [collect, idle]
  · have pinned : arena.pinned.isEmpty = false := by simpa using idle
    unfold lost at released ⊢
    simp only [collect, pinned, present, Bool.false_or, reduceCtorEq, decide_false,
      Bool.false_eq_true, ↓reduceIte, released]

theorem Represented.lost_once (represented : arena.Represented) (roots : List Value) :
    (arena.lost roots).Nodup :=
  (List.mergeSort_perm _ _).nodup_iff.mpr (represented.pinned_once.filter _)

theorem Represented.global_not_lost (represented : arena.Represented) :
    globalId ∉ arena.lost roots :=
  fun member => represented.pinned_local (mem_lost.mp member).1

theorem Represented.released (represented : arena.Represented) (roots : List Value) :
    ∃ after, release (arena.lost roots) arena = .ok () after ∧
      arena.Released (arena.lost roots) after :=
  release_eq (represented.lost_once roots) represented.scopes_once
    fun id member => represented.pinned_live id (mem_lost.mp member).1

namespace Released

variable {after : Arena} (released : arena.Released (arena.lost roots) after)

include released

theorem bindings_eq {id : Nat} (kept : id ∈ arena.lost roots → id ∈ arena.stack) :
    Table.get? id after.scopes = Table.get? id arena.scopes := by
  rw [released.get?_eq, if_neg fun gone => gone.2 (kept gone.1)]

theorem pinned_iff (id : Nat) : id ∈ after.pinned ↔ id ∈ arena.pinned ∧ arena.Wanted roots id := by
  rw [released.pinned_eq, List.mem_filter, decide_eq_true_eq, mem_lost]
  tauto

theorem live_iff (id : Nat) : after.isLive id = true ↔
    (id ∈ arena.lost roots → id ∈ arena.stack) ∧ arena.isLive id = true := by
  by_cases kept : id ∈ arena.lost roots → id ∈ arena.stack
  · rw [isLive_of_get?_eq (released.bindings_eq kept)]
    exact ⟨fun live => ⟨kept, live⟩, And.right⟩
  · have gone : Table.get? id after.scopes = none := by
      rw [released.get?_eq, if_pos (Classical.not_imp.mp kept)]
    have dead : after.isLive id = false := by
      simp only [isLive, Table.has, gone, Option.isSome_none]
    simp [dead, kept]

theorem count_eq : (arena.lost roots).length =
    (arena.pinned.filter (· ∉ after.pinned)).length := by
  have unpinned : arena.pinned.filter (· ∉ after.pinned) = arena.pinned.filter
      (· ∉ arena.reachable (roots ++ arena.carried.values) (globalId :: arena.stack.reverse)) := by
    apply List.filter_congr
    intro id member
    rw [decide_eq_decide, released.pinned_iff, mem_reachable_iff_wanted, and_iff_right member]
  rw [unpinned]
  exact (List.mergeSort_perm _ _).length_eq

variable (represented : arena.Represented)

include represented

/-- Nothing that a chain leads to is given up, and neither are the scopes that chains start from. -/
theorem wanted {id : Nat} (wanted : arena.Wanted roots id) : after.Wanted roots id := by
  have starts : (globalId :: after.stack).flatMap after.valuesOf =
      (globalId :: arena.stack).flatMap arena.valuesOf := by
    rw [released.stack_eq]
    apply List.flatMap_congr
    intro start member
    apply valuesOf_of_get?_eq
    rcases List.mem_cons.mp member with rfl | entered
    · exact released.bindings_eq fun member => absurd member represented.global_not_lost
    · exact released.bindings_eq fun _ => entered
  simp only [Wanted, released.carried_eq, starts]
  refine Chained.of_kept wanted fun other chained => released.bindings_eq fun member => ?_
  exact absurd chained (mem_lost.mp member).2

theorem again : collect .reclaim roots after = .ok 0 after := by
  -- then all that is pinned is wanted, and there is no more to be given up
  have present := find?_missing
    ((released.live_iff globalId).mpr ⟨fun member => absurd member represented.global_not_lost,
      represented.global_live⟩)
    fun id member => (released.live_iff id).mpr ⟨fun _ => released.stack_eq ▸ member,
      represented.entered_live id (released.stack_eq ▸ member)⟩
  apply collect_idle present
  rw [List.filter_eq_nil_iff]
  intro id member
  have wanted := released.wanted represented ((released.pinned_iff id).mp member).2
  simpa only [decide_eq_true_eq, not_not, mem_reachable_iff_wanted] using wanted

theorem live_iff_wanted (id : Nat) : after.isLive id = true ↔
    id = globalId ∨ id ∈ arena.stack ∨ id ∈ arena.pinned ∧ arena.Wanted roots id := by
  rw [released.live_iff, mem_lost]
  constructor
  · rintro ⟨kept, live⟩
    have held := represented.live_held id live
    tauto
  · rintro (rfl | entered | ⟨pinned, wanted⟩)
    · exact ⟨fun member => absurd member.1 represented.pinned_local, represented.global_live⟩
    · exact ⟨fun _ => entered, represented.entered_live id entered⟩
    · exact ⟨fun member => absurd wanted member.2, represented.pinned_live id pinned⟩

end Released

theorem Represented.collected (represented : arena.Represented) (roots : List Value) :
    ∃ count after, collect .reclaim roots arena = .ok count after ∧
      arena.Collected roots count after := by
  obtain ⟨after, result, released⟩ := represented.released roots
  refine ⟨_, after, represented.collect_eq roots result, ?_⟩
  exact
    { stack_eq := released.stack_eq
      carried_eq := released.carried_eq
      nextId_eq := released.nextId_eq
      live_iff := released.live_iff_wanted represented
      bindings_eq := fun id live => released.bindings_eq ((released.live_iff id).mp live).1
      pinned_iff := released.pinned_iff
      count_eq := released.count_eq
      again := released.again represented }

/-! ### Leaving a scope -/

theorem not_chained_of_not_isCaptured {id : Nat} {carried : Option Value} {values : List Value}
    (outside : ∀ value ∈ values, value ∈ carried.toList ++ arena.carried.values ∨
      ∃ other, other ≠ id ∧ value ∈ arena.valuesOf other)
    (free : arena.isCaptured id carried = false) : ¬ arena.Chained values id := by
  -- where no function outside of a scope captures it, no chain that starts outside leads to it: the
  -- first step into the scope would come from such a function
  have bound : ∀ other, other ≠ id → ∀ value ∈ arena.valuesOf other, id ∉ value.captured := by
    intro other differ value member captured
    obtain ⟨bindings, found, here⟩ : ∃ bindings, Table.get? other arena.scopes = some bindings ∧
        value ∈ bindings.values := by
      unfold valuesOf at member
      cases found : Table.get? other arena.scopes with
      | none => simp [found, Table.values] at member
      | some bindings => exact ⟨bindings, rfl, by simpa [found] using member⟩
    have captures : arena.isCaptured id carried = true := by
      simp only [isCaptured, List.any_eq_true, List.mem_append, List.mem_flatMap,
        List.mem_filter, decide_eq_true_eq, List.contains_iff_mem]
      exact ⟨value, Or.inl (Or.inr ⟨_, ⟨Table.mem_of_get? found, differ⟩, here⟩), captured⟩
    rw [free] at captures
    cases captures
  have held : ∀ value ∈ carried.toList ++ arena.carried.values, id ∉ value.captured := by
    intro value member captured
    have captures : arena.isCaptured id carried = true := by
      simp only [isCaptured, List.any_eq_true, List.mem_append, List.contains_iff_mem]
      rcases List.mem_append.mp member with root | noted
      · exact ⟨value, Or.inl (Or.inl root), captured⟩
      · exact ⟨value, Or.inr noted, captured⟩
    rw [free] at captures
    cases captures
  -- the induction is on the chain: its scopes so far are others, so the next one is too
  have others : ∀ other, arena.Chained values other → other ≠ id := by
    intro other chained
    induction chained with
    | root member captured _ =>
        rintro rfl
        rcases outside _ member with held' | ⟨inner, differ, bound'⟩
        · exact held _ held' captured
        · exact bound inner differ _ bound' captured
    | link _ bound' captured _ differ =>
        rintro rfl
        exact bound _ differ _ bound' captured
  exact fun chained => others id chained rfl

theorem Represented.not_wanted (represented : arena.Represented) {id : Nat} {rest : List Nat}
    (pinned : id ∈ arena.pinned) (left : id ∉ rest)
    (free : (arena.popped id rest).isCaptured id (Table.get? id arena.carried) = false) :
    ¬ (arena.popped id rest).Wanted (Table.get? id arena.carried).toList id := by
  refine not_chained_of_not_isCaptured (fun value member => ?_) free
  rcases List.mem_append.mp member with held | bound
  · exact Or.inl held
  · obtain ⟨inner, here, bound⟩ := List.mem_flatMap.mp bound
    refine Or.inr ⟨inner, ?_, bound⟩
    rintro rfl
    rcases List.mem_cons.mp here with global | still
    · exact represented.pinned_local (global ▸ pinned)
    · exact left still

theorem Represented.spared (represented : arena.Represented) {id : Nat} {rest : List Nat}
    (entered : arena.stack = id :: rest) :
    ∃ after, pop .reclaim arena = .ok () after ∧ arena.Spared id rest after := by
  have live : ∀ pinned carried,
      isLive { arena with stack := rest, pinned, carried } id = true :=
    fun _ _ => represented.entered_live id (entered ▸ List.mem_cons_self)
  have stays : arena.Spared id rest (arena.popped id rest) :=
    ⟨rfl, fun other pinned _ => ⟨pinned, represented.pinned_live other pinned, rfl⟩⟩
  -- the scope stays while it is entered further down, or while it is pinned and captured
  by_cases again : id ∈ rest
  · refine ⟨arena.popped id rest, ?_, stays⟩
    simp [pop, entered, again, popped]
  · by_cases kept : id ∈ arena.pinned ∧
        (arena.popped id rest).isCaptured id (Table.get? id arena.carried) = true
    · refine ⟨arena.popped id rest, ?_, stays⟩
      simp only [popped] at kept
      simp [pop, entered, again, popped, kept]
    · refine ⟨(arena.popped id rest).without id, ?_, rfl, ?_⟩
      · simp only [popped] at kept
        simp [pop, entered, again, popped, without, kept, live]
      · intro other pinned wanted
        have differ : other ≠ id := by
          rintro rfl
          have free := Bool.eq_false_iff.mpr fun captured => kept ⟨pinned, captured⟩
          exact wanted.elim again (represented.not_wanted pinned again free)
        have left : Table.get? other ((arena.popped id rest).without id).scopes =
            Table.get? other arena.scopes := by
          simp only [without, popped, Table.get?_erase_of_ne differ]
        refine ⟨List.mem_filter.mpr ⟨pinned, by simpa using differ⟩, ?_, left⟩
        rw [isLive_of_get?_eq left]
        exact represented.pinned_live other pinned

end

/-- Tidying up and leaving a scope succeed in every state of an arena. Tidying up leaves live
exactly the global scope, the entered ones and the pinned ones that are wanted, with their bindings,
it says how many it has unpinned, and there is nothing to be done a second time. Leaving a scope
gives up no pinned scope that is entered still or wanted. -/
theorem only_garbage_given_up {arena : Arena} (represented : arena.Represented) :
    (∀ roots, ∃ count after, collect .reclaim roots arena = .ok count after ∧
      arena.Collected roots count after) ∧
    ∀ id rest, arena.stack = id :: rest →
      ∃ after, pop .reclaim arena = .ok () after ∧ arena.Spared id rest after :=
  ⟨represented.collected, fun _ _ => represented.spared⟩

/-- Two scopes that the global one holds through a list, and that hold one another; a scope that
only holds itself; and one that is entered. -/
def rings : Arena :=
  let defined (scope : Nat) : Value := .function ⟨"f", [], [], ⟨1, 1⟩, some scope⟩
  { scopes :=
      [(0, [("held", .list [.number 1, defined 1])]), (1, [("partner", .map [("f", defined 2)])]),
        (2, [("partner", defined 1)]), (3, [("self", defined 3)]), (4, [])]
    pinned := [1, 2, 3, 4]
    carried := []
    nextId := 5
    stack := [4] }

theorem rings_garbage_given_up :
    rings.Represented ∧
      (∀ roots, ∃ count after, collect .reclaim roots rings = .ok count after ∧
        rings.Collected roots count after) ∧
      ∀ id rest, rings.stack = id :: rest →
        ∃ after, pop .reclaim rings = .ok () after ∧ rings.Spared id rest after :=
  have represented : rings.Represented :=
    { global_live := by decide
      entered_live := by decide
      pinned_live := by decide
      pinned_local := by decide
      live_held := by
        intro id live
        have listed : id ∈ Table.keys rings.scopes := (Table.mem_keys_iff id _).mpr live
        simp only [rings, Table.keys, List.map_cons, List.map_nil, List.mem_cons, List.not_mem_nil,
          or_false] at listed
        rcases listed with rfl | rfl | rfl | rfl | rfl <;> decide
      pinned_once := by decide
      scopes_once := by decide }
  ⟨represented, only_garbage_given_up represented⟩

end Parlance.Arena
