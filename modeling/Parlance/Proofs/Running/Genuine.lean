import Parlance.Proofs.Running.Dispatch
import Parlance.Proofs.Running.Intact

/-!
Handlers that make up no scope. A function that is defined outside of every scope captures none, so
no program makes one that captures the global scope. Where handlers do not make one either, the
global scope is never entered, and so it is never left and given up.
-/

namespace Parlance

def Arena.locals : Set Nat := { id | id ≠ globalId }

theorem Arena.Intact.known_locals {known : Set Nat} {stack : List Nat} {arena : Arena}
    (intact : arena.Intact known stack) : known ⊆ Arena.locals := by
  rintro id member rfl
  exact intact.uncaptured member

theorem Arena.Intact.locals {known : Set Nat} {stack : List Nat} {arena : Arena}
    (intact : arena.Intact known stack) : arena.Intact Arena.locals stack where
  sound := intact.sound
  captures := intact.captures.mono intact.known_locals
  uncaptured member := member rfl

/-- A handler that hands on no function that captured the global scope, if it is handed none. -/
def Handler.Genuine (handler : Handler) : Prop :=
  ∀ request : Request, Held Arena.locals request.arguments →
    (handler request).Within Arena.locals

theorem Handler.echo_genuine : Handler.echo.Genuine := by
  intro request held
  have values : ∀ arguments : List Value,
      Host.toValues (arguments.map .value) = .ok arguments := by
    intro arguments
    induction arguments with
    | nil => simp [Host.toValues]
    | cons value rest ih => simp [Host.toValues, Host.toValue, ih, bind, Except.bind, pure,
        Except.pure]
  have answer : (Host.list (request.arguments.map .value)).toValue =
      .ok (.list request.arguments) := by
    simp [Host.toValue, values, Except.map]
  intro id member
  simp only [Capturing.captured, answer, Value.captured] at member
  exact held id member

def Registry.Genuine (registry : Registry) : Prop :=
  ∀ entry ∈ registry.handlers, entry.2.handler.Genuine

theorem Registry.genuine_empty : Registry.empty.Genuine := List.forall_mem_nil _

theorem Registry.Genuine.register {registry after : Registry} (genuine : registry.Genuine)
    {name : String} {handler : Option Handler} (new : ∀ given ∈ handler, given.Genuine)
    (result : registry.register name handler = .ok after) : after.Genuine := by
  simp only [Registry.register] at result
  split at result
  · cases result
  · cases handler with
    | none => cases result
    | some given =>
        cases result
        intro entry member
        rcases Table.mem_put member with rfl | old
        · exact new given rfl
        · exact genuine entry old

theorem Registry.Genuine.unregister {registry : Registry} (genuine : registry.Genuine)
    (name : String) : (registry.unregister name).Genuine :=
  fun entry member => genuine entry (Table.mem_of_mem_erase member)

namespace Bond

open Evaluation

/-- A run of an evaluator goes with itself; the arena stays intact, however the run ends. -/
abbrev kept : Bond := intact (fun _ => True) (fun _ => False)

section

variable {α : Type} [Capturing α] {known : Set Nat} {stack : List Nat}

/-- Where no failure ends the comparison, it goes on. -/
theorem intact_meets {shared : Failure → Prop} {left right : Run α}
    (agree : (intact shared fun _ => False).Agree known stack left right) {machine : Machine}
    (intact : machine.arena.Intact known stack) :
    (Bond.intact shared fun _ => False).Meets known stack (left machine) (right machine) := by
  rcases agree.meets machine machine ⟨rfl, intact⟩ with parted | meets
  · cases result : left machine with
    | ok _ _ =>
        rw [result] at parted
        exact nomatch parted.1.choose_spec.1
    | error _ _ =>
        rw [result] at parted
        exact parted.1.choose_spec.2.elim
  · exact meets

theorem kept_meets {left right : Run α} (agree : kept.Agree known stack left right)
    {machine : Machine} (intact : machine.arena.Intact known stack) :
    kept.Meets known stack (left machine) (right machine) :=
  intact_meets agree intact

/-- There is no intact arena whose functions may capture the global scope. -/
theorem kept_vacuous (captured : Arena.globalId ∈ known) (left right : Run α) :
    kept.Agree known stack left right :=
  intact_agree fun _ intact => absurd captured intact.uncaptured

/-- No more is known of an intact arena than that its functions capture no global scope. -/
theorem kept_of_locals {left right : Run α} (agree : kept.Agree Arena.locals stack left right) :
    kept.Agree known stack left right :=
  intact_agree fun _ intact =>
    Or.inr ((kept_meets agree intact.locals).mono intact.known_locals)

theorem intact_bounds {shared : Failure → Prop} (unbounded : shared (.of .unbounded))
    (bound : Nat) : (intact shared fun _ => False).comparison.Bounds bound bound := by
  refine Or.inl ⟨rfl, fun α _ known stack => intact_agree fun machine intact => Or.inr ?_⟩
  exact ⟨rfl, unbounded, known, subset_rfl, rfl, intact⟩

theorem kept_bounds (bound : Nat) : kept.comparison.Bounds bound bound :=
  intact_bounds trivial bound

end

/-- A run goes on with itself behind a failure that is caught. -/
theorem kept_rescues (known : Set Nat) (stack : List Nat) :
    kept.comparison.Rescues known stack := by
  intro left right rest rest' spare spare' first later otherwise
  refine intact_agree fun machine intact => Or.inr ?_
  -- both sides run alike, so they fail alike, and what is caught is the same
  have meets := kept_meets first intact
  cases result : left machine with
  | ok value after =>
      cases result' : right machine with
      | error _ _ =>
          rw [result, result'] at meets
          exact meets.elim
      | ok value' after' =>
          rw [result, result'] at meets
          obtain ⟨rfl, more, grows, ⟨rfl, kept⟩, held⟩ := meets
          rw [Script.rescue_ok result, Script.rescue_ok result']
          exact (kept_meets (later more grows value held) kept).mono grows
  | error failure after =>
      cases result' : right machine with
      | ok _ _ =>
          rw [result, result'] at meets
          exact meets.elim
      | error failure' after' =>
          rw [result, result'] at meets
          obtain ⟨rfl, shared, more, grows, rfl, kept⟩ := meets
          cases caught : failure.caught? with
          | none =>
              rw [Script.rescue_uncaught result caught, Script.rescue_uncaught result' caught]
              exact ⟨rfl, shared, more, grows, rfl, kept⟩
          | some message =>
              rw [Script.rescue_caught result caught, Script.rescue_caught result' caught]
              exact (kept_meets (otherwise more grows message) kept).mono grows

/-- What is made of the end of a handler captures what its answer does. -/
theorem Meets.answer {known : Set Nat} {stack : List Nat} (request : Request)
    {left right : EStateM.Result Failure Machine (Except String Host)}
    (meets : kept.Meets known stack left right) :
    kept.Meets known stack (answer request left) (answer request right) := by
  cases left with
  | error failure machine =>
      cases right with
      | ok _ _ => exact meets.elim
      | error other machine' =>
          obtain ⟨rfl, _, more⟩ := meets
          exact ⟨rfl, trivial, more⟩
  | ok result machine =>
      cases right with
      | error _ _ => exact meets.elim
      | ok result' machine' =>
          obtain ⟨rfl, more, grows, joined, held⟩ := meets
          cases result with
          | error reason => exact ⟨rfl, trivial, more, grows, joined⟩
          | ok host =>
              cases made : host.toValue with
              | error _ =>
                  simp only [Evaluation.answer, made]
                  exact ⟨rfl, trivial, more, grows, joined⟩
              | ok value =>
                  simp only [Evaluation.answer, made]
                  refine ⟨rfl, more, grows, joined, fun id member => held id ?_⟩
                  simpa only [Capturing.captured, made] using member

variable {around : Surroundings}

theorem kept_dispatch (genuine : around.modules.Genuine) {inner inner' : Runner}
    (parts : kept.comparison.Pairs inner inner') (known : Set Nat) (stack : List Nat)
    (request : Request) (held : Held known request.arguments) :
    kept.Agree known stack (dispatch around inner request) (dispatch around inner' request) := by
  refine intact_agree fun machine intact => Or.inr ?_
  cases found : around.modules.find? request.module with
  | none =>
      rw [dispatch_unknown found, dispatch_unknown found]
      exact ⟨rfl, trivial, known, subset_rfl, rfl, intact⟩
  | some entry =>
      -- nothing but the local scopes is ever captured, so no larger set need be looked at
      have largest : ∀ more, Arena.locals ⊆ more → more = Arena.locals ∨
          ∀ {α : Type} [Capturing α] (left right : Run α), kept.Agree more stack left right := by
        intro more grows
        by_cases captured : Arena.globalId ∈ more
        · exact Or.inr (kept_vacuous captured)
        · left
          apply Set.Subset.antisymm _ grows
          rintro id member rfl
          exact captured member
      have within := genuine _ (Table.mem_of_get? found) request (held.mono intact.known_locals)
      have script := kept.comparison.script_agree_within inner inner' stack largest
        (fun line => intact_note (.emitted line)) (intact_resolve Arena.locals stack)
        (parts.call Arena.locals stack) (entry.handler request) within
        (Or.inr (kept_rescues Arena.locals stack))
      have served : kept.Agree Arena.locals stack (serve inner entry request)
          (serve inner' entry request) := by
        refine agree_bind (intact_note _) fun more grows _ _ => ?_
        rcases largest more grows with rfl | any
        · exact script
        · exact any _ _
      rw [dispatch_found found, dispatch_found found]
      exact (kept_meets (kept_of_locals served) intact).answer request

/-- The arena stays intact if the handlers make up no function of the global scope. -/
theorem kept_links (genuine : around.modules.Genuine) : kept.comparison.Links around around := by
  refine intact_links (fun _ _ _ => trivial) around.rounds ?_ ?_
  · intro known stack cause place value held _
    split
    · exact intact_agree fun machine intact =>
        Or.inr ⟨rfl, trivial, known, subset_rfl, rfl, intact⟩
    · exact agree_pure held
  · intro inner inner' parts known stack request _ held
    exact kept_dispatch genuine parts known stack request held

end Bond

end Parlance
