import Mathlib.Data.Set.Insert
import Parlance.Proofs.Running.Agreement
import Parlance.Proofs.Running.Bond

/-!
Runs over intact arenas. On an intact arena none of its operations fails, and it is intact again
afterwards. So two runs that start alike there go on alike as long as they do the same to the arena,
up to failures that have other reasons. Without strict settings and without modules none has: a run
exceeds the limit of steps, or it comes to the end of its depth or its rounds, and where it does not
come to the end of them, more depth and more rounds change nothing.
-/

namespace Parlance

/-- A sound arena whose bindings capture scopes of a set; the global scope is never captured. -/
structure Arena.Intact (known : Set Nat) (stack : List Nat) (arena : Arena) : Prop where
  sound : arena.Sound stack
  captures : arena.CapturesIn known
  uncaptured : Arena.globalId ∉ known

namespace Arena.Intact

variable {known : Set Nat} {stack : List Nat} {arena : Arena}

theorem empty : Arena.empty.Intact ∅ [] :=
  ⟨empty_sound, empty_capturesIn ∅, fun member => member⟩

theorem of_same (intact : arena.Intact known stack) {after : Arena}
    (scopes : after.scopes = arena.scopes) (entered : after.stack = arena.stack)
    (pinned : after.pinned = arena.pinned) (nextId : after.nextId = arena.nextId) :
    after.Intact known stack where
  sound := intact.sound.of_same scopes entered pinned nextId
  captures := by
    intro id bindings found
    exact intact.captures id bindings (scopes ▸ found)
  uncaptured := intact.uncaptured

theorem reset (intact : arena.Intact known stack) : arena.reset.Intact ∅ [] where
  sound := { empty_sound with fresh_local := intact.sound.fresh_local }
  captures := empty_capturesIn ∅
  uncaptured member := member

theorem carry (intact : arena.Intact known stack) (value : Value) :
    (arena.carry value).Intact known stack :=
  intact.of_same (carry_scopes value arena) (carry_stack value arena) (carry_pinned value arena)
    (carry_nextId value arena)

theorem pushFresh (intact : arena.Intact known stack) :
    arena.pushFresh.Intact known (arena.nextId :: stack) :=
  ⟨intact.sound.pushFresh, intact.captures.pushFresh, intact.uncaptured⟩

theorem push (intact : arena.Intact known stack) {id : Nat} (live : arena.isLive id = true)
    (member : id ∈ known) : (Arena.push id arena).Intact known (id :: stack) where
  sound := intact.sound.push live fun same => intact.uncaptured (same ▸ member)
  captures := intact.captures
  uncaptured := intact.uncaptured

theorem withScope (intact : arena.Intact known stack) {id : Nat} {bindings : Bindings}
    (found : Table.get? id arena.scopes = some bindings) (name : String) {value : Value}
    (held : value.CapturesIn known) :
    (arena.withScope id (Table.put name value bindings)).Intact known stack :=
  ⟨intact.sound.withScope id _, intact.captures.withScope found held, intact.uncaptured⟩

theorem pop_ok (upkeep : Upkeep) {id : Nat} (intact : arena.Intact known (id :: stack)) :
    ∃ after, pop upkeep arena = .ok () after ∧ after.Intact known stack := by
  obtain ⟨after, result, sound, shrinks⟩ := intact.sound.pop_ok upkeep
  exact ⟨after, result, sound, shrinks.capturesIn intact.captures, intact.uncaptured⟩

theorem capture {id : Nat} (intact : arena.Intact known (id :: stack)) :
    (arena.pin id).Intact (insert id known) (id :: stack) where
  sound := intact.sound.pin (intact.sound.entered_live id List.mem_cons_self)
  captures := by
    intro other bindings found
    rw [pin_scopes] at found
    exact intact.captures.mono (Set.subset_insert id known) other bindings found
  uncaptured := by
    rintro (same | member)
    · exact intact.sound.entered_local (same ▸ List.mem_cons_self)
    · exact intact.uncaptured member

end Arena.Intact

namespace Bond

open Evaluation

/-- Two runs over the same intact arena, on whose primitives they agree. They may end with failures
of some kinds together, and where the left run alone stops with one of others they part. -/
def intact (shared stops : Failure → Prop) : Bond where
  joined known stack left right := right = left ∧ left.arena.Intact known stack
  shared := shared
  parted stack failure? machine :=
    (∃ failure, failure? = some failure ∧ stops failure) ∧ ∃ known, machine.arena.Intact known stack

section

variable {shared stops : Failure → Prop}

theorem intact_agree {α : Type} [Capturing α] {known : Set Nat} {stack : List Nat}
    {left right : Run α}
    (meets : ∀ machine, machine.arena.Intact known stack →
      (intact shared stops).Parted stack (left machine) ∨
        (intact shared stops).Meets known stack (left machine) (right machine)) :
    (intact shared stops).Agree known stack left right where
  meets machine _ joined := by
    obtain ⟨rfl, intact⟩ := joined
    exact meets _ intact
  parts _ parted := nomatch parted.1.choose_spec.1

/-- What a primitive does, done alike on both sides. -/
theorem intact_step {α : Type} [Capturing α] {known : Set Nat} {stack : List Nat} {body : Run α}
    (step : ∀ machine, machine.arena.Intact known stack →
      ∃ value after more, body machine = .ok value after ∧ known ⊆ more ∧
        after.arena.Intact more stack ∧ Held more value) :
    (intact shared stops).Agree known stack body body := by
  refine intact_agree fun machine intact => Or.inr ?_
  obtain ⟨value, after, more, result, grows, kept, held⟩ := step machine intact
  rw [result]
  exact ⟨rfl, more, grows, ⟨rfl, kept⟩, held⟩

theorem intact_note {known : Set Nat} {stack : List Nat} (event : Event) :
    (intact shared stops).Agree known stack (Run.note event) (Run.note event) :=
  intact_step fun _ kept => ⟨(), _, known, rfl, subset_rfl, kept, List.forall_mem_nil _⟩

theorem intact_resolve (known : Set Nat) (stack : List Nat) (name : String) :
    (intact shared stops).Agree known stack (Run.resolve name) (Run.resolve name) :=
  intact_step fun machine kept => by
    obtain ⟨found, answer⟩ := kept.sound.resolve_ok name
    refine ⟨found, machine, known, by simp [Run.resolve, answer], subset_rfl, kept, ?_⟩
    intro id member
    cases found with
    | none => cases member
    | some value =>
        exact kept.captures.resolve answer id (by simpa [Capturing.captured] using member)

theorem intact_inScope (upkeep : Arena.Upkeep) {enter : Arena → Arena} {id : Nat}
    {known : Set Nat} {stack : List Nat} {α : Type} [Capturing α] {body body' : Run α}
    (agree : (intact shared stops).Agree known (id :: stack) body body') {machine : Machine}
    (entered : (enter machine.arena).Intact known (id :: stack)) :
    (intact shared stops).Parted stack (Run.inScope upkeep enter body machine) ∨
      (intact shared stops).Meets known stack (Run.inScope upkeep enter body machine)
        (Run.inScope upkeep enter body' machine) := by
  rcases agree.meets { machine with arena := enter machine.arena } _ ⟨rfl, entered⟩ with
    parted | meets
  -- whatever the body came to, the scope that was entered is left again
  · left
    cases result : body { machine with arena := enter machine.arena } with
    | ok value after => rw [result] at parted; exact nomatch parted.1.choose_spec.1
    | error failure after =>
        rw [result] at parted
        obtain ⟨unbounded, more, intact⟩ := parted
        obtain ⟨arena, left, kept⟩ := intact.pop_ok upkeep
        rw [Run.inScope_error result left]
        exact ⟨unbounded, more, kept⟩
  · right
    cases result : body { machine with arena := enter machine.arena } with
    | ok value after =>
        cases result' : body' { machine with arena := enter machine.arena } with
        | error _ _ => rw [result, result'] at meets; exact meets.elim
        | ok value' after' =>
            rw [result, result'] at meets
            obtain ⟨rfl, more, grows, ⟨rfl, intact⟩, held⟩ := meets
            obtain ⟨arena, left, kept⟩ := intact.pop_ok upkeep
            rw [Run.inScope_ok result left, Run.inScope_ok result' left]
            exact ⟨rfl, more, grows, ⟨rfl, kept⟩, held⟩
    | error failure after =>
        cases result' : body' { machine with arena := enter machine.arena } with
        | ok _ _ => rw [result, result'] at meets; exact meets.elim
        | error failure' after' =>
            rw [result, result'] at meets
            obtain ⟨rfl, shared, more, grows, rfl, intact⟩ := meets
            obtain ⟨arena, left, kept⟩ := intact.pop_ok upkeep
            rw [Run.inScope_error result left, Run.inScope_error result' left]
            exact ⟨rfl, shared, more, grows, rfl, kept⟩

theorem intact_visit {budget : Option Nat}
    (limits : ∀ limit location, budget = some limit → shared ⟨.stepLimit limit, location⟩)
    (known : Set Nat) (stack : List Nat) (kind : Node.Kind) (place : Place) :
    (intact shared stops).Agree known stack (Run.visit budget kind place)
      (Run.visit budget kind place) := by
  refine intact_agree fun machine kept => Or.inr ?_
  have goes : (intact shared stops).Meets known stack
      (Run.note (.visited kind place) { machine with steps := machine.steps + 1 })
      (Run.note (.visited kind place) { machine with steps := machine.steps + 1 }) :=
    ⟨rfl, known, subset_rfl, ⟨rfl, kept⟩, List.forall_mem_nil _⟩
  cases budget with
  | none => exact goes
  | some limit =>
      simp only [Run.visit]
      split
      · exact ⟨rfl, limits limit _ rfl, known, subset_rfl, rfl, kept⟩
      · exact goes

end

section

variable {shared stops : Failure → Prop} {around around' : Surroundings}

theorem intact_inCaptured (known : Set Nat) (stack : List Nat) (closure : Closure)
    (body body' : Run Value) (held : Held known (Value.function closure))
    (agree : ∀ inner, (intact shared stops).Agree known inner body body')
    (upkeep : around'.upkeep = around.upkeep) :
    (intact shared stops).Agree known stack (inCaptured around closure body)
      (inCaptured around' closure body') := by
  refine intact_agree fun machine intact => ?_
  cases scope : closure.scope with
  | none =>
      rw [inCaptured_none scope, inCaptured_none scope]
      exact (agree stack).meets machine machine ⟨rfl, intact⟩
  | some id =>
      have member : id ∈ known := held id (by simp [Capturing.captured, Value.captured, scope])
      -- both runs see the same arena, so they miss the scope together
      by_cases live : machine.arena.isLive id = true
      · rw [inCaptured_entered scope live, inCaptured_entered scope live, upkeep]
        exact intact_inScope around.upkeep (agree (id :: stack))
          ((intact.push live member).carry (.function closure))
      · rw [inCaptured_missed scope live, inCaptured_missed scope live]
        exact (agree stack).meets _ _ ⟨rfl, intact⟩

/-- Evaluators that differ in their rounds alone agree if they do so where strict settings fail
and where a handler is asked. -/
theorem intact_links
    (limits : ∀ limit location, around.budget = some limit → shared ⟨.stepLimit limit, location⟩)
    (rounds : Nat)
    (lapse : ∀ known stack cause place (value : Value), Held known value → cause.Lapse →
      (intact shared stops).Agree known stack
        (if around.settings.strict = true then failAt around cause place else pure value)
        (if around.settings.strict = true then failAt around cause place else pure value))
    (dispatch : ∀ inner inner', (intact shared stops).comparison.Pairs inner inner' →
      ∀ known stack request, around.modules.has request.module = true →
        Held known request.arguments → (intact shared stops).Agree known stack
          (dispatch around inner request) (dispatch { around with rounds } inner' request)) :
    (intact shared stops).comparison.Links around { around with rounds } where
  settings := rfl
  hosts _ := rfl
  visit := intact_visit limits
  emit _ _ line := intact_note (.emitted line)
  resolve := intact_resolve
  declare known stack name value held := intact_step fun machine intact => by
    obtain ⟨bindings, found, result⟩ := intact.sound.declare_ok name value
    exact ⟨(), _, known, Run.onArena_ok result, subset_rfl, intact.withScope found name held,
      List.forall_mem_nil _⟩
  assign known stack name value held := intact_step fun machine intact => by
    obtain ⟨holder, bindings, _, found, result⟩ := intact.sound.assign_ok name value
    exact ⟨(), _, known, Run.onArena_ok result, subset_rfl, intact.withScope found name held,
      List.forall_mem_nil _⟩
  -- the innermost scope joins the set, since a function is about to capture it
  capture known stack := intact_step fun machine intact => by
    have entered := intact.sound.stack_eq
    cases stack with
    | nil =>
        refine ⟨none, machine, known, ?_, subset_rfl, intact, List.forall_mem_nil _⟩
        simp [Run.capture, Arena.innermost?, entered]
    | cons id rest =>
        refine ⟨some id, { machine with arena := machine.arena.pin id }, insert id known, ?_,
          Set.subset_insert id known, intact.capture, ?_⟩
        · simp [Run.capture, Arena.innermost?, entered]
        · intro other member
          exact Or.inl (by simpa [Capturing.captured] using member)
  lapse := lapse
  dispatch := dispatch
  inFresh known stack body body' agree := intact_agree fun machine intact => by
    refine intact_inScope around.upkeep (agree_bind (agree machine.arena.nextId) ?_)
      intact.pushFresh
    intro more _ outcome held
    refine agree_bind (intact_step (α := Unit) fun machine intact =>
      ⟨(), _, more, rfl, subset_rfl, intact.carry outcome.value, List.forall_mem_nil _⟩) ?_
    intro further wider _ _
    exact agree_pure (held.mono wider)
  inCaptured known stack closure body body' held agree :=
    intact_inCaptured known stack closure body body' held agree rfl
  tidy known value held := intact_step fun machine intact => by
    obtain ⟨count, after, result, sound, shrinks, _⟩ :=
      intact.sound.collect_ok around.upkeep [value]
    exact ⟨(), _, known, tidy_ok result, subset_rfl,
      ⟨sound, shrinks.capturesIn intact.captures, intact.uncaptured⟩,
      List.forall_mem_nil _⟩

end

/-! ### Lenient runs -/

/-- A bounded run, on the left, goes with the run of the same program that has further bounds. -/
abbrev bounded (budget : Option Nat) : Bond :=
  intact (fun failure => ∃ limit, budget = some limit ∧ failure.cause = .stepLimit limit)
    (· = .of .unbounded)

theorem bounded_yields {budget : Option Nat} : (bounded budget).comparison.Yields := by
  intro α _ known stack right
  exact intact_agree fun machine intact => Or.inl ⟨⟨_, rfl, rfl⟩, known, intact⟩

theorem bounded_bounds {budget : Option Nat} {bound bound' : Nat} (lesser : bound ≤ bound') :
    (bounded budget).comparison.Bounds bound bound' :=
  Or.inr ⟨lesser, bounded_yields⟩

/-- Two lenient evaluators that differ in their rounds alone. -/
theorem bounded_links {around : Surroundings} (lenient : around.settings.strict = false)
    (unhosted : ∀ name, around.modules.has name = false) (rounds : Nat) :
    (bounded around.budget).comparison.Links around { around with rounds } := by
  refine intact_links (fun limit _ limited => ⟨limit, limited, rfl⟩) rounds ?_ ?_
  · intro known stack cause place value held _
    simp only [lenient, Bool.false_eq_true, ↓reduceIte]
    exact agree_pure held
  · intro inner inner' parts known stack request hosted
    simp [unhosted] at hosted

end Bond

end Parlance
