import Parlance.Proofs.Arena.Covering
import Parlance.Proofs.Running.Agreement
import Parlance.Proofs.Running.Bond

/-!
Runs that reclaim scopes against runs that retain them. The two go in step up to the first call
that misses the scope its function captured, and where scopes are retained no call does.
-/

namespace Parlance

namespace Run

variable {α : Type}

theorem strays_inScope (upkeep : Arena.Upkeep) (enter : Arena → Arena) (body : Run α)
    (machine : Machine) :
    (left (inScope upkeep enter body machine)).strays =
      (left (body { machine with arena := enter machine.arena })).strays := by
  rw [left_inScope]

theorem strays_onArena (action : Arena.Action α) (machine : Machine) :
    (left (onArena action machine)).strays = machine.strays := by
  rw [left_onArena]

theorem strays_visit (budget : Option Nat) (kind : Node.Kind) (place : Place) (machine : Machine) :
    (left (visit budget kind place machine)).strays = machine.strays := by
  simp only [visit]
  cases budget with
  | none => rfl
  | some limit =>
      simp only
      split <;> rfl

theorem strays_resolve (name : String) (machine : Machine) :
    (left (resolve name machine)).strays = machine.strays := by
  rw [left_resolve]

theorem strays_capture (machine : Machine) : (left (capture machine)).strays = machine.strays := by
  simp only [capture]
  cases machine.arena.innermost? <;> rfl

theorem strays_tidy (around : Surroundings) (value : Value) (machine : Machine) :
    (left (Evaluation.tidy around value machine)).strays = machine.strays := by
  rw [Evaluation.left_tidy, strays_onArena]

end Run

namespace Bond

open Evaluation

/-- On the left scopes are kept up as told; on the right they are retained. -/
def reclaimed (upkeep : Arena.Upkeep) : Bond where
  joined known stack left right :=
    right.steps = left.steps ∧ right.journal = left.journal ∧ left.strays = [] ∧
      right.strays = [] ∧ Arena.Covers upkeep known stack left.arena right.arena
  shared _ := True
  parted _ _ machine := upkeep = .reclaim ∧ machine.strays ≠ []

section

variable {upkeep : Arena.Upkeep} {α : Type} [Capturing α] {known : Set Nat} {stack : List Nat}

omit [Capturing α] in
theorem reclaimed_parted (result : EStateM.Result Failure Machine α) :
    (reclaimed upkeep).Parted stack result ↔
      upkeep = .reclaim ∧ (Run.left result).strays ≠ [] := by
  cases result <;> rfl

omit [Capturing α] in
theorem reclaimed_parts {body : Run α}
    (keeps : ∀ machine, (Run.left (body machine)).strays = machine.strays) (machine : Machine)
    (parted : (reclaimed upkeep).parted stack none machine) :
    (reclaimed upkeep).Parted stack (body machine) := by
  rw [reclaimed_parted, keeps]
  exact parted

/-- What a primitive does that changes nothing but the arena. -/
theorem reclaimed_arena {body body' : Run α}
    (keeps : ∀ machine, (Run.left (body machine)).strays = machine.strays)
    (step : ∀ left right : Machine, Arena.Covers upkeep known stack left.arena right.arena →
      ∃ value arena arena' more, body left = .ok value { left with arena := arena } ∧
        body' right = .ok value { right with arena := arena' } ∧ known ⊆ more ∧
          Arena.Covers upkeep more stack arena arena' ∧ Held more value) :
    (reclaimed upkeep).Agree known stack body body' where
  meets left right joined := by
    obtain ⟨steps, journal, strays, strays', covers⟩ := joined
    obtain ⟨value, arena, arena', more, result, result', grows, covers, held⟩ :=
      step left right covers
    rw [result, result']
    exact Or.inr ⟨rfl, more, grows, ⟨steps, journal, strays, strays', covers⟩, held⟩
  parts := reclaimed_parts keeps

theorem reclaimed_fail (failure : Failure) :
    (reclaimed upkeep).Agree known stack (Run.fail failure : Run α) (Run.fail failure) where
  meets _ _ joined := Or.inr ⟨rfl, trivial, known, subset_rfl, joined⟩
  parts := reclaimed_parts fun _ => rfl

theorem reclaimed_bounds (bound : Nat) : (reclaimed upkeep).comparison.Bounds bound bound :=
  Or.inl ⟨rfl, fun _ _ _ _ => reclaimed_fail _⟩

theorem reclaimed_note (event : Event) :
    (reclaimed upkeep).Agree known stack (Run.note event) (Run.note event) where
  meets left right joined := by
    obtain ⟨steps, journal, strays, strays', covers⟩ := joined
    refine Or.inr ⟨rfl, known, subset_rfl, ⟨steps, ?_, strays, strays', covers⟩, ?_⟩
    · exact congrArg (event :: ·) journal
    · exact List.forall_mem_nil _
  parts := reclaimed_parts fun _ => rfl

theorem reclaimed_visit (budget : Option Nat) (kind : Node.Kind) (place : Place) :
    (reclaimed upkeep).Agree known stack (Run.visit budget kind place)
      (Run.visit budget kind place) where
  meets left right joined := by
    obtain ⟨steps, journal, strays, strays', covers⟩ := joined
    have counted : (reclaimed upkeep).joined known stack { left with steps := left.steps + 1 }
        { right with steps := right.steps + 1 } :=
      ⟨congrArg (· + 1) steps, journal, strays, strays', covers⟩
    have goes := (reclaimed_note (.visited kind place)).meets _ _ counted
    simp only [Run.visit]
    cases budget with
    | none => exact goes
    | some limit =>
        simp only [steps]
        split
        · exact Or.inr ⟨rfl, trivial, known, subset_rfl, steps ▸ counted⟩
        · exact steps ▸ goes
  parts := reclaimed_parts (Run.strays_visit budget kind place)

theorem reclaimed_inScope {enter : Arena → Arena} {id : Nat} {body body' : Run α}
    (agree : (reclaimed upkeep).Agree known (id :: stack) body body') {left right : Machine}
    (joined : (reclaimed upkeep).joined known (id :: stack)
      { left with arena := enter left.arena } { right with arena := enter right.arena }) :
    (reclaimed upkeep).Parted stack (Run.inScope upkeep enter body left) ∨
      (reclaimed upkeep).Meets known stack (Run.inScope upkeep enter body left)
        (Run.inScope .retain enter body' right) := by
  -- a run that has parted with the other one stays parted when the scope is left
  rcases agree.meets _ _ joined with parted | meets
  · left
    rw [reclaimed_parted] at parted ⊢
    rw [Run.strays_inScope]
    exact parted
  · right
    cases result : body { left with arena := enter left.arena } with
    | ok value after =>
        cases result' : body' { right with arena := enter right.arena } with
        | error _ _ => rw [result, result'] at meets; exact meets.elim
        | ok value' after' =>
            rw [result, result'] at meets
            obtain ⟨rfl, more, grows, ⟨steps, journal, strays, strays', covers⟩, held⟩ := meets
            obtain ⟨arena, arena', popped, popped', covers⟩ := covers.pop_ok
            rw [Run.inScope_ok result popped, Run.inScope_ok result' popped']
            exact ⟨rfl, more, grows, ⟨steps, journal, strays, strays', covers⟩, held⟩
    | error failure after =>
        cases result' : body' { right with arena := enter right.arena } with
        | ok _ _ => rw [result, result'] at meets; exact meets.elim
        | error failure' after' =>
            rw [result, result'] at meets
            obtain ⟨rfl, _, more, grows, steps, journal, strays, strays', covers⟩ := meets
            obtain ⟨arena, arena', popped, popped', covers⟩ := covers.pop_ok
            rw [Run.inScope_error result popped, Run.inScope_error result' popped']
            exact ⟨rfl, trivial, more, grows, steps, journal, strays, strays', covers⟩

end

section

variable {around : Surroundings} {known : Set Nat} {stack : List Nat}

theorem reclaimed_inFresh {body body' : Run Outcome}
    (agree : ∀ id, (reclaimed around.upkeep).Agree known (id :: stack) body body') :
    (reclaimed around.upkeep).Agree known stack (inFresh around body)
      (inFresh { around with upkeep := .retain } body') := by
  -- the value is carried out of the fresh scope before that is left
  have carries : ∀ id, (reclaimed around.upkeep).Agree known (id :: stack)
      (do let outcome ← body; carry outcome.value; pure outcome)
      (do let outcome ← body'; carry outcome.value; pure outcome) := by
    intro id
    refine agree_bind (agree id) ?_
    intro more _ outcome held
    refine agree_bind (reclaimed_arena (α := Unit) (fun _ => rfl) fun left right covers =>
      ⟨(), _, _, more, rfl, rfl, subset_rfl, covers.carry outcome.value,
        List.forall_mem_nil _⟩) ?_
    intro further wider _ _
    exact agree_pure (held.mono wider)
  exact
    { meets := by
        rintro left right ⟨steps, journal, strays, strays', covers⟩
        exact reclaimed_inScope (carries left.arena.nextId)
          ⟨steps, journal, strays, strays', covers.pushFresh⟩
      parts := by
        intro machine parted
        have later := (carries machine.arena.nextId).parts
          { machine with arena := machine.arena.pushFresh } parted
        rw [reclaimed_parted] at later ⊢
        simp only [inFresh, inScope, Run.strays_inScope]
        exact later }

/-- A call that misses its scope parts the runs, and where scopes are retained none does. -/
theorem reclaimed_inCaptured {closure : Closure} {body body' : Run Value}
    (held : Held known (Value.function closure))
    (agree : ∀ inner, (reclaimed around.upkeep).Agree known inner body body') :
    (reclaimed around.upkeep).Agree known stack (inCaptured around closure body)
      (inCaptured { around with upkeep := .retain } closure body') := by
  cases scope : closure.scope with
  | none =>
      rw [inCaptured_none scope, inCaptured_none scope]
      exact agree stack
  | some id =>
      have member : id ∈ known := held id (by simp [Capturing.captured, Value.captured, scope])
      constructor
      · rintro left right ⟨steps, journal, strays, strays', covers⟩
        rw [inCaptured_entered scope (covers.right_live member)]
        by_cases live : left.arena.isLive id = true
        · rw [inCaptured_entered scope live]
          exact reclaimed_inScope (agree (id :: stack)) ⟨steps, journal, strays, strays',
            (covers.push live member).carry (.function closure)⟩
        -- only the left run misses its scope; from here on nothing is compared
        · rw [inCaptured_missed scope live]
          refine Or.inl ((agree stack).parts _ ⟨?_, List.cons_ne_nil _ _⟩)
          cases kept : around.upkeep with
          | reclaim => rfl
          | retain => exact absurd ((kept ▸ covers).left_live member) live
      · intro machine parted
        by_cases live : machine.arena.isLive id = true
        · rw [inCaptured_entered scope live]
          have later := (agree (id :: stack)).parts
            { machine with
              arena := Arena.carry (.function closure) (Arena.push id machine.arena) } parted
          rw [reclaimed_parted] at later ⊢
          rw [Run.strays_inScope]
          exact later
        · rw [inCaptured_missed scope live]
          exact (agree stack).parts _ ⟨parted.1, List.cons_ne_nil _ _⟩

theorem reclaimed_links (unhosted : ∀ name, around.modules.has name = false) :
    (reclaimed around.upkeep).comparison.Links around { around with upkeep := .retain } where
  settings := rfl
  hosts _ := rfl
  visit _ _ kind place := reclaimed_visit around.budget kind place
  emit _ _ line := reclaimed_note (.emitted line)
  -- names are looked up, bound and assigned to in scopes that are entered, and these are on both
  -- sides
  resolve known stack name := reclaimed_arena (Run.strays_resolve name) fun left right covers => by
    obtain ⟨found, answer⟩ := covers.right_sound.resolve_ok name
    refine ⟨found, left.arena, right.arena, known, ?_, by simp [Run.resolve, answer], subset_rfl,
      covers, ?_⟩
    · simp [Run.resolve, covers.resolve_eq name, answer]
    · intro id member
      cases found with
      | none => cases member
      | some value =>
          exact covers.captures.resolve answer id (by simpa [Capturing.captured] using member)
  declare known stack name value held :=
    reclaimed_arena (Run.strays_onArena _) fun left right covers => by
      obtain ⟨arena, arena', result, result', covers⟩ := covers.declare_ok name held
      exact ⟨(), arena, arena', known, Run.onArena_ok result, Run.onArena_ok result', subset_rfl,
        covers, List.forall_mem_nil _⟩
  assign known stack name value held :=
    reclaimed_arena (Run.strays_onArena _) fun left right covers => by
      obtain ⟨arena, arena', result, result', covers⟩ := covers.assign_ok name held
      exact ⟨(), arena, arena', known, Run.onArena_ok result, Run.onArena_ok result', subset_rfl,
        covers, List.forall_mem_nil _⟩
  capture known stack := reclaimed_arena Run.strays_capture fun left right covers => by
    have entered := covers.left_sound.stack_eq
    have entered' := covers.right_sound.stack_eq
    cases stack with
    | nil =>
        refine ⟨none, left.arena, right.arena, known, ?_, ?_, subset_rfl, covers,
          List.forall_mem_nil _⟩
        · simp [Run.capture, Arena.innermost?, entered]
        · simp [Run.capture, Arena.innermost?, entered']
    | cons id rest =>
        refine ⟨some id, left.arena.pin id, right.arena.pin id, insert id known, ?_, ?_,
          Set.subset_insert id known, covers.capture, ?_⟩
        · simp [Run.capture, Arena.innermost?, entered]
        · simp [Run.capture, Arena.innermost?, entered']
        · intro other member
          exact Or.inl (by simpa [Capturing.captured] using member)
  lapse known stack cause place value held _ := by
    by_cases strict : around.settings.strict = true
    · simp only [strict, ↓reduceIte]
      exact reclaimed_fail _
    · simp only [strict]
      exact agree_pure held
  dispatch _ _ _ known stack request hosted := by simp [unhosted] at hosted
  inFresh _ _ _ _ := reclaimed_inFresh
  inCaptured _ _ _ _ _ := reclaimed_inCaptured
  tidy known value held := by
    refine reclaimed_arena (Run.strays_tidy around value) fun left right covers => ?_
    obtain ⟨count, arena, result, result', covers⟩ := covers.collect_ok [value]
    exact ⟨(), arena, right.arena, known, tidy_ok result, tidy_ok result', subset_rfl, covers,
      List.forall_mem_nil _⟩

end

end Bond

end Parlance
