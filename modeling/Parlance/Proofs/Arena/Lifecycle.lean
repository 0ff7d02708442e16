import Parlance.Proofs.Arena.Accounted

/-!
The life of an arena. Its operations come in any order, as long as a scope is left only where one is
entered, and only live scopes are entered again or pinned. Main statement: `always_consistent`. No
operation fails, the arena is consistent at every moment, and the numbers of fresh scopes only
grow, so that a function never finds another scope behind the number it captured.
-/

namespace Parlance.Arena

/-- One operation. To push without a number is to enter a fresh scope. -/
inductive Move where
  | push (id : Option Nat)
  | pop
  | unwind
  | pin (id : Nat)
  | carry (value : Value)
  | collect (roots : List Value)
  | declare (name : String) (value : Value)
  | assign (name : String) (value : Value)
  | resolve (name : String)
  | reset

/-- What a caller does: one operation, or several ones inside a scope. -/
inductive Operation where
  | single (move : Move)
  | entered (id : Option Nat) (body : List Operation)

mutual

def Operation.moves : Operation → List Move
  | .single move => [move]
  | .entered id body => .push id :: (movesOf body ++ [.pop])

def movesOf : List Operation → List Move
  | [] => []
  | operation :: rest => operation.moves ++ movesOf rest

end

/-- The number of a scope, as it is told to the one who enters it. -/
structure Ticket where
  id : Nat
  fresh : Bool
  deriving DecidableEq

def untold {α : Type} (action : Action α) : Action (List Ticket) := do
  let _ ← action
  pure []

def Move.perform (upkeep : Upkeep) : Move → Action (List Ticket)
  | .push none => fun arena => .ok [⟨arena.nextId, true⟩] arena.pushFresh
  | .push (some id) => fun arena => .ok [⟨id, false⟩] (Arena.push id arena)
  | .pop => untold (Arena.pop upkeep)
  | .unwind => untold (Arena.unwind upkeep)
  | .pin id => fun arena => .ok [] (Arena.pin id arena)
  | .carry value => fun arena => .ok [] (Arena.carry value arena)
  | .collect roots => untold (Arena.collect upkeep roots)
  | .declare name value => untold (Arena.declare name value)
  | .assign name value => untold (Arena.assign name value)
  | .resolve name => fun arena =>
      match arena.resolve name with
      | .ok _ => .ok [] arena
      | .error fault => .error fault arena
  | .reset => fun arena => .ok [] arena.reset

def performAll (upkeep : Upkeep) : List Move → Action (List Ticket)
  | [] => pure []
  | move :: rest => do
      let early ← move.perform upkeep
      let late ← performAll upkeep rest
      pure (early ++ late)

/-- What an operation asks of its caller. -/
def Move.Allowed (arena : Arena) : Move → Prop
  | .push (some id) => arena.isLive id = true ∧ id ≠ globalId
  | .pop => arena.stack ≠ []
  | .pin id => arena.isLive id = true
  | _ => True

def AllowedAll (upkeep : Upkeep) : List Move → Arena → Prop
  | [], _ => True
  | move :: rest, arena =>
      move.Allowed arena ∧ AllowedAll upkeep rest (left (move.perform upkeep arena))

structure Consistent (arena : Arena) : Prop where
  global_live : arena.isLive globalId = true
  global_outside : globalId ∉ arena.stack
  entered_live : ∀ id ∈ arena.stack, arena.isLive id = true
  pinned_live : ∀ id ∈ arena.pinned, arena.isLive id = true
  live_held : ∀ id, arena.isLive id = true → id = globalId ∨ id ∈ arena.stack ∨ id ∈ arena.pinned
  carried_entered : ∀ id, Table.has id arena.carried = true → id ∈ arena.stack

def Rising (tickets : List Ticket) : Prop :=
  tickets.Pairwise fun early late => late.fresh = true → early.id < late.id

/-! ### What every operation keeps -/

/-- The invariant: consistency, no table lists a scope twice, and no number that is still to be
given is that of a live scope. -/
structure Kept (arena : Arena) : Prop where
  sound : arena.Sound arena.stack
  accounted : arena.Accounted
  live_below : ∀ id, arena.isLive id = true → id < arena.nextId

theorem Kept.consistent {arena : Arena} (kept : arena.Kept) : arena.Consistent where
  global_live := kept.sound.global_live
  global_outside := kept.sound.entered_local
  entered_live := kept.sound.entered_live
  pinned_live := kept.sound.pinned_live
  live_held := kept.accounted.live_held
  carried_entered := kept.accounted.carried_entered

theorem empty_kept : empty.Kept where
  sound := empty_sound
  accounted := empty_accounted
  live_below := by
    intro id live
    rcases empty_accounted.live_held id live with rfl | entered | pinned
    · decide
    · cases entered
    · cases pinned

/-- Numbers told while the next fresh number went from the one to the other. -/
structure Told (first next : Nat) (tickets : List Ticket) : Prop where
  grows : first ≤ next
  below : ∀ ticket ∈ tickets, ticket.id < next
  fresh_above : ∀ ticket ∈ tickets, ticket.fresh = true → first ≤ ticket.id
  rising : Rising tickets

theorem Told.nothing {first next : Nat} (grows : first ≤ next) : Told first next [] :=
  ⟨grows, List.forall_mem_nil _, List.forall_mem_nil _, List.Pairwise.nil⟩

theorem Told.one {first next : Nat} (grows : first ≤ next) {ticket : Ticket}
    (below : ticket.id < next) (above : ticket.fresh = true → first ≤ ticket.id) :
    Told first next [ticket] :=
  ⟨grows, by simpa using below, by simpa using above, List.pairwise_singleton _ _⟩

theorem Told.append {first middle next : Nat} {early late : List Ticket}
    (before : Told first middle early) (after : Told middle next late) :
    Told first next (early ++ late) where
  grows := before.grows.trans after.grows
  below ticket member := by
    rcases List.mem_append.mp member with old | new
    · exact (before.below ticket old).trans_le after.grows
    · exact after.below ticket new
  fresh_above ticket member fresh := by
    rcases List.mem_append.mp member with old | new
    · exact before.fresh_above ticket old fresh
    · exact before.grows.trans (after.fresh_above ticket new fresh)
  rising := List.pairwise_append.mpr ⟨before.rising, after.rising,
    fun old oldMember new newMember fresh =>
      (before.below old oldMember).trans_le (after.fresh_above new newMember fresh)⟩

section

variable {arena : Arena}

/-- An operation ends as the invariant asks. -/
def Succeeds (result : EStateM.Result Fault Arena (List Ticket)) (before : Arena) : Prop :=
  ∃ tickets after, result = .ok tickets after ∧ after.Kept ∧
    Told before.nextId after.nextId tickets

theorem Shrinks.isLive_old {after : Arena} (shrinks : Shrinks arena after) {id : Nat}
    (live : after.isLive id = true) : arena.isLive id = true := by
  obtain ⟨bindings, found⟩ := (isLive_iff after id).mp live
  exact (isLive_iff arena id).mpr ⟨bindings, shrinks.scopes_old id bindings found⟩

theorem Kept.of_shrinks (kept : arena.Kept) {after : Arena} (shrinks : Shrinks arena after)
    (sound : after.Sound after.stack) (accounted : after.Accounted) : after.Kept where
  sound := sound
  accounted := accounted
  live_below := fun id live =>
    (kept.live_below id (shrinks.isLive_old live)).trans_eq shrinks.nextId_eq.symm

theorem Shrinks.told {after : Arena} (shrinks : Shrinks arena after) :
    Told arena.nextId after.nextId [] :=
  Told.nothing shrinks.nextId_eq.ge

theorem Kept.pushFresh (kept : arena.Kept) : arena.pushFresh.Kept where
  sound := kept.sound.pushFresh
  accounted := kept.accounted.pushFresh
  live_below := by
    intro id live
    have cases : id = arena.nextId ∨ arena.isLive id = true := by
      simpa [Arena.pushFresh, isLive, Table.has_put] using live
    rcases cases with rfl | old
    · exact Nat.lt_succ_self _
    · exact Nat.lt_succ_of_lt (kept.live_below id old)

theorem Kept.pop (kept : arena.Kept) (upkeep : Upkeep) (inside : arena.stack ≠ []) :
    ∃ after, Arena.pop upkeep arena = .ok () after ∧ after.Kept ∧ Shrinks arena after ∧
      after.stack = arena.stack.tail := by
  obtain ⟨id, stack, entered⟩ := List.exists_cons_of_ne_nil inside
  obtain ⟨after, result, sound, shrinks⟩ := (entered ▸ kept.sound).pop_ok upkeep
  have accounted : after.Accounted := by
    have left := kept.accounted.pop upkeep
    rwa [result] at left
  have same : after.stack = stack := sound.stack_eq
  exact ⟨after, result, kept.of_shrinks shrinks (same ▸ sound) accounted, shrinks,
    by rw [same, entered, List.tail_cons]⟩

theorem Kept.popTimes (kept : arena.Kept) (upkeep : Upkeep) {count : Nat}
    (height : arena.stack.length = count) :
    ∃ after, Arena.popTimes upkeep count arena = .ok () after ∧ after.Kept ∧
      Shrinks arena after := by
  -- leaving as many scopes as are entered; what is carried out of them is then forgotten
  induction count generalizing arena with
  | zero =>
      -- carried values belong to entered scopes, so outside of all there are none to forget
      have outside : arena.stack = [] := List.length_eq_zero_iff.mp height
      have nothing : arena.carried = [] := (kept.accounted.settled outside).carried_eq
      have same : { arena with carried := [] } = arena := by
        rw [← nothing]
      exact ⟨arena, congrArg (EStateM.Result.ok ()) same, kept, Shrinks.refl arena⟩
  | succ count ih =>
      have inside : arena.stack ≠ [] := by
        intro outside
        rw [outside] at height
        cases height
      obtain ⟨outer, left, keptOuter, early, tail⟩ := kept.pop upkeep inside
      obtain ⟨after, rest, keptAfter, late⟩ :=
        ih keptOuter (by rw [tail, List.length_tail, height, Nat.add_sub_cancel])
      refine ⟨after, ?_, keptAfter, early.trans late⟩
      simp only [Arena.popTimes, Bind.bind, EStateM.bind, left, rest]

theorem Kept.pin (kept : arena.Kept) {id : Nat} (live : arena.isLive id = true) :
    (arena.pin id).Kept where
  sound := by rw [pin_stack]; exact kept.sound.pin live
  accounted := kept.accounted.pin live
  live_below := by
    intro other alive
    rw [isLive_congr (pin_scopes id arena)] at alive
    rw [pin_nextId]
    exact kept.live_below other alive

theorem Kept.carry (kept : arena.Kept) (value : Value) : (arena.carry value).Kept where
  sound := by rw [carry_stack]; exact kept.sound.carry value
  accounted := (carry_balanced value).accounted kept.accounted
  live_below := by
    intro other alive
    rw [isLive_congr (carry_scopes value arena)] at alive
    rw [carry_nextId]
    exact kept.live_below other alive

theorem Kept.collect (kept : arena.Kept) (upkeep : Upkeep) (roots : List Value) :
    ∃ count after, Arena.collect upkeep roots arena = .ok count after ∧ after.Kept ∧
      Shrinks arena after := by
  obtain ⟨count, after, result, sound, shrinks, _⟩ := kept.sound.collect_ok upkeep roots
  have balanced : Balanced arena after := by
    have left : Balanced arena (left (Arena.collect upkeep roots arena)) :=
      collect_balanced upkeep roots
    rwa [result] at left
  exact ⟨count, after, result,
    kept.of_shrinks shrinks (balanced.stack_eq ▸ sound) (balanced.accounted kept.accounted),
    shrinks⟩

theorem Kept.withScope (kept : arena.Kept) {id : Nat} {old : Bindings}
    (found : Table.get? id arena.scopes = some old) (bindings : Bindings) :
    (arena.withScope id bindings).Kept where
  sound := kept.sound.withScope id bindings
  accounted :=
    (withScope_balanced ((isLive_iff arena id).mpr ⟨old, found⟩) bindings).accounted kept.accounted
  live_below := by
    intro other live
    have cases : other = id ∨ arena.isLive other = true := by
      simpa [Arena.withScope, isLive, Table.has_put] using live
    rcases cases with rfl | alive
    · exact kept.live_below other ((isLive_iff arena other).mpr ⟨old, found⟩)
    · exact kept.live_below other alive

theorem Kept.reset (kept : arena.Kept) : arena.reset.Kept where
  sound := { empty_sound with fresh_local := kept.sound.fresh_local }
  accounted := reset_accounted arena
  live_below := by
  -- only the count of numbers outlives a new start
    intro id live
    rcases (reset_accounted arena).live_held id live with rfl | entered | pinned
    · exact kept.live_below globalId kept.sound.global_live
    · cases entered
    · cases pinned

theorem untold_ok {α : Type} {action : Action α} {answer : α} {after : Arena}
    (result : action arena = .ok answer after) : untold action arena = .ok [] after := by
  simp only [untold, Bind.bind, EStateM.bind, result]
  rfl

theorem Move.perform_ok (upkeep : Upkeep) (kept : arena.Kept) {move : Move}
    (allowed : move.Allowed arena) : Succeeds (move.perform upkeep arena) arena := by
  cases move with
  | push id =>
      cases id with
      | none =>
          exact ⟨_, _, rfl, kept.pushFresh,
            Told.one (Nat.le_succ _) (Nat.lt_succ_self _) fun _ => Nat.le_refl _⟩
      | some id =>
          -- a scope is entered again only while it is live, and it is not the global one
          obtain ⟨live, here⟩ := allowed
          have entered : (Arena.push id arena).Kept :=
            ⟨kept.sound.push live here, kept.accounted.push live, kept.live_below⟩
          exact ⟨_, _, rfl, entered,
            Told.one (Nat.le_refl _) (kept.live_below id live) (fun fresh => by cases fresh)⟩
  | pop =>
      obtain ⟨after, result, keptAfter, shrinks, _⟩ := kept.pop upkeep allowed
      exact ⟨[], after, untold_ok result, keptAfter, shrinks.told⟩
  | unwind =>
      obtain ⟨after, result, keptAfter, shrinks⟩ := kept.popTimes upkeep rfl
      exact ⟨[], after, untold_ok result, keptAfter, shrinks.told⟩
  | pin id => exact ⟨_, _, rfl, kept.pin allowed, Told.nothing (pin_nextId id arena).ge⟩
  | carry value =>
      exact ⟨_, _, rfl, kept.carry value, Told.nothing (carry_nextId value arena).ge⟩
  | collect roots =>
      obtain ⟨count, after, result, keptAfter, shrinks⟩ := kept.collect upkeep roots
      exact ⟨[], after, untold_ok result, keptAfter, shrinks.told⟩
  | declare name value =>
      obtain ⟨bindings, found, result⟩ := kept.sound.declare_ok name value
      exact ⟨[], _, untold_ok result, kept.withScope found _, Told.nothing (Nat.le_refl _)⟩
  | assign name value =>
      obtain ⟨holder, bindings, _, found, result⟩ := kept.sound.assign_ok name value
      exact ⟨[], _, untold_ok result, kept.withScope found _, Told.nothing (Nat.le_refl _)⟩
  | resolve name =>
      obtain ⟨found, answer⟩ := kept.sound.resolve_ok name
      exact ⟨[], arena, by simp only [Move.perform, answer], kept, Told.nothing (Nat.le_refl _)⟩
  | reset => exact ⟨_, _, rfl, kept.reset, Told.nothing (Nat.le_refl _)⟩

/-! ### Whole lives -/

/-- Operations that are allowed all succeed, and leave allowed what was allowed behind them. -/
theorem performAll_ok (upkeep : Upkeep) (kept : arena.Kept) (done rest : List Move)
    (allowed : AllowedAll upkeep (done ++ rest) arena) :
    ∃ tickets after, performAll upkeep done arena = .ok tickets after ∧ after.Kept ∧
      Told arena.nextId after.nextId tickets ∧ AllowedAll upkeep rest after := by
  induction done generalizing arena with
  | nil => exact ⟨[], arena, rfl, kept, Told.nothing (Nat.le_refl _), allowed⟩
  | cons move done ih =>
      -- what is allowed later speaks of the arena left behind, which is known once this succeeds
      obtain ⟨here, later⟩ := allowed
      obtain ⟨early, middle, result, keptMiddle, toldEarly⟩ := Move.perform_ok upkeep kept here
      rw [result] at later
      obtain ⟨late, after, results, keptAfter, toldLate, allowedAfter⟩ := ih keptMiddle later
      refine ⟨early ++ late, after, ?_, keptAfter, toldEarly.append toldLate, allowedAfter⟩
      simp only [performAll, Bind.bind, EStateM.bind, result, results]
      rfl

end

/-- At any moment of the life of an arena, also between entering a scope and leaving it, what was
done has succeeded and what is still to be done will; the arena is consistent; and the scopes that
are still to be made get greater numbers than all that were told before or are live. -/
theorem always_consistent (upkeep : Upkeep) (operations : List Operation)
    (allowed : AllowedAll upkeep (movesOf operations) empty) (done rest : List Move)
    (moment : done ++ rest = movesOf operations) :
    ∃ tickets now, performAll upkeep done empty = .ok tickets now ∧ now.Consistent ∧
      ∃ more after, performAll upkeep rest now = .ok more after ∧ Rising (tickets ++ more) ∧
        ∀ ticket ∈ more, ticket.fresh = true → ∀ id, now.isLive id = true → id < ticket.id := by
  rw [← moment] at allowed
  obtain ⟨tickets, now, result, kept, told, allowedRest⟩ :=
    performAll_ok upkeep empty_kept done rest allowed
  obtain ⟨more, after, results, _, toldMore, _⟩ :=
    performAll_ok upkeep kept rest [] (by rwa [List.append_nil])
  refine ⟨tickets, now, result, kept.consistent, more, after, results,
    (told.append toldMore).rising, ?_⟩
  intro ticket member fresh id live
  exact (kept.live_below id live).trans_le (toldMore.fresh_above ticket member fresh)

/-- A function leaves the scope that it captured, and the scope is entered again, given up and
followed by another. -/
def reentry : List Operation :=
  let function : Value := .function ⟨"f", [], [], ⟨1, 1⟩, some 1⟩
  [.entered none
      [.single (.declare "f" function), .single (.pin 1), .entered (some 1) [.single (.push none)],
        .single .pop, .single (.carry function)],
    .single (.push (some 1)), .single (.collect []), .single .reset, .single (.push none),
    .single .unwind]

theorem reentry_consistent :
    AllowedAll .reclaim (movesOf reentry) empty ∧
      (movesOf reentry).take 5 ++ (movesOf reentry).drop 5 = movesOf reentry ∧
        ∃ tickets now, performAll .reclaim ((movesOf reentry).take 5) empty = .ok tickets now ∧
          now.Consistent ∧ ∃ more after,
            performAll .reclaim ((movesOf reentry).drop 5) now = .ok more after ∧
              Rising (tickets ++ more) ∧ ∀ ticket ∈ more, ticket.fresh = true →
                ∀ id, now.isLive id = true → id < ticket.id :=
  have allowed : AllowedAll .reclaim (movesOf reentry) empty := by
    simp only [reentry, movesOf, Operation.moves, List.cons_append, List.nil_append, AllowedAll]
    exact ⟨trivial, trivial, rfl, ⟨rfl, Nat.one_ne_zero⟩, trivial, List.cons_ne_nil 2 [1, 1],
      List.cons_ne_nil 1 [1], trivial, List.cons_ne_nil 1 [], ⟨rfl, Nat.one_ne_zero⟩, trivial,
      trivial, trivial, trivial, trivial⟩
  have moment := List.take_append_drop 5 (movesOf reentry)
  ⟨allowed, moment, always_consistent .reclaim reentry allowed _ _ moment⟩

end Parlance.Arena
