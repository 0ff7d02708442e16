import Parlance.Proofs.Running.Completion
import Parlance.Proofs.Running.Dispatch

/-!
Runs that go on from others. Without a limit of steps nothing in a run depends on what happened
before: it does the same with an earlier journal beneath its own. So a program that is run behind
another does what it would do behind it in one program.
-/

namespace Parlance

/-- What happened to a machine, on top of what happened to an earlier one. -/
def Machine.behind (prior machine : Machine) : Machine where
  arena := machine.arena
  steps := prior.steps + machine.steps
  journal := machine.journal ++ prior.journal
  strays := machine.strays ++ prior.strays

/-- A machine goes on from its own arena. -/
theorem Machine.behind_ofArena (prior : Machine) :
    prior.behind (.ofArena prior.arena) = prior := rfl

namespace Run

variable {α β : Type} {prior : Machine}

/-- The end of a run on top of what happened to an earlier machine. -/
def resumed (prior : Machine) :
    EStateM.Result Failure Machine α → EStateM.Result Failure Machine α
  | .ok a machine => .ok a (prior.behind machine)
  | .error failure machine => .error failure (prior.behind machine)

/-- The right run does on top of an earlier machine what the left one does from its start. -/
def Resumes (prior : Machine) (left right : Run α) : Prop :=
  ∀ machine, right (prior.behind machine) = resumed prior (left machine)

theorem resumes_bind {left right : Run α} {rest rest' : α → Run β}
    (first : Resumes prior left right) (later : ∀ a, Resumes prior (rest a) (rest' a)) :
    Resumes prior (left >>= rest) (right >>= rest') := by
  intro machine
  simp only [bind, EStateM.bind, first machine]
  cases left machine with
  | ok a after => exact later a after
  | error failure after => rfl

theorem resumes_rescue {left right : Run α} {rest rest' : α → Run β}
    {spare spare' : String → Run β}
    (first : Resumes prior left right) (later : ∀ a, Resumes prior (rest a) (rest' a))
    (otherwise : ∀ message, Resumes prior (spare message) (spare' message)) :
    Resumes prior (Script.rescue Failure.caught? left rest spare)
      (Script.rescue Failure.caught? right rest' spare') := by
  intro machine
  have goesOn := first machine
  cases result : left machine with
  | ok a after =>
      rw [result] at goesOn
      rw [Script.rescue_ok result, Script.rescue_ok goesOn]
      exact later a after
  | error failure after =>
      rw [result] at goesOn
      cases caught : failure.caught? with
      | none =>
          rw [Script.rescue_uncaught result caught, Script.rescue_uncaught goesOn caught]
          rfl
      | some message =>
          rw [Script.rescue_caught result caught, Script.rescue_caught goesOn caught]
          exact otherwise message after

theorem resumes_onArena (action : Arena.Action α) :
    Resumes prior (onArena action) (onArena action) := by
  intro machine
  simp only [onArena, Machine.behind]
  cases action machine.arena <;> rfl

theorem resumes_resolve (name : String) : Resumes prior (resolve name) (resolve name) := by
  intro machine
  simp only [resolve, Machine.behind]
  cases machine.arena.resolve name <;> rfl

theorem resumes_capture : Resumes prior capture capture := by
  intro machine
  simp only [capture, Machine.behind]
  cases machine.arena.innermost? <;> rfl

theorem resumes_inScope {upkeep : Arena.Upkeep} {enter : Arena → Arena} {left right : Run α}
    (body : Resumes prior left right) :
    Resumes prior (inScope upkeep enter left) (inScope upkeep enter right) := by
  have leave : Resumes prior (onArena (Arena.pop upkeep)) (onArena (Arena.pop upkeep)) :=
    resumes_onArena _
  intro machine
  have inside :
      right { prior.behind machine with arena := enter (prior.behind machine).arena } =
        resumed prior (left { machine with arena := enter machine.arena }) :=
    body { machine with arena := enter machine.arena }
  simp only [inScope, inside]
  cases left { machine with arena := enter machine.arena } with
  | ok value after =>
      simp only [resumed, leave after]
      cases onArena (Arena.pop upkeep) after <;> rfl
  | error failure after =>
      simp only [resumed, leave after]
      cases onArena (Arena.pop upkeep) after <;> rfl

/-- Going on from an earlier machine as a comparison; it does not ask what values capture. -/
abbrev resumption (prior : Machine) : Comparison where
  Agree _ _ left right := Resumes prior left right
  value _ _ := rfl
  andThen first later :=
    resumes_bind first fun a => later Set.univ (Set.subset_univ _) a (held_univ a)

end Run

namespace Evaluation

open Run

variable {prior : Machine} {around : Surroundings}

theorem resumes_inFresh {left right : Run Outcome} (body : Resumes prior left right) :
    Resumes prior (inFresh around left) (inFresh around right) := by
  apply resumes_inScope
  apply resumes_bind body
  intro outcome
  exact resumes_bind (fun _ => rfl) fun _ _ => rfl

theorem resumes_inCaptured {closure : Closure} {left right : Run Value}
    (body : Resumes prior left right) :
    Resumes prior (inCaptured around closure left) (inCaptured around closure right) := by
  cases scope : closure.scope with
  | none =>
      rw [inCaptured_none scope, inCaptured_none scope]
      exact body
  | some id =>
      intro machine
      by_cases live : machine.arena.isLive id = true
      · have same : (prior.behind machine).arena.isLive id = true := live
        rw [inCaptured_entered scope live, inCaptured_entered scope same]
        exact resumes_inScope body machine
      · have same : ¬ (prior.behind machine).arena.isLive id = true := live
        rw [inCaptured_missed scope live, inCaptured_missed scope same]
        exact body { machine with strays := closure.name :: machine.strays }

theorem resumes_dispatch {inner inner' : Runner}
    (call : ∀ function arguments,
      Resumes prior (inner.call function arguments) (inner'.call function arguments))
    (request : Request) :
    Resumes prior (dispatch around inner request) (dispatch around inner' request) := by
  cases found : around.modules.find? request.module with
  | none =>
      rw [dispatch_unknown found, dispatch_unknown found]
      exact fun _ => rfl
  | some entry =>
      have script := (resumption prior).script_agree inner inner' [] (fun _ _ => rfl)
        resumes_resolve call (entry.handler request)
        (Or.inr fun _ _ _ _ _ _ first later otherwise => resumes_rescue first
          (fun value => later _ subset_rfl value (held_univ value))
          fun message => otherwise _ subset_rfl message)
      have served : Resumes prior (serve inner entry request) (serve inner' entry request) :=
        resumes_bind (fun _ => rfl) fun _ => script
      intro machine
      rw [dispatch_found found, dispatch_found found, served machine]
      -- an answer becomes a value before and behind the lines that were there
      match serve inner entry request machine with
      | .error _ _ => rfl
      | .ok (.error _) _ => rfl
      | .ok (.ok host) _ =>
          simp only [resumed, answer]
          cases host.toValue <;> rfl

theorem resumption_links (prior : Machine) (around : Surroundings)
    (unlimited : around.budget = none) : (resumption prior).Links around around where
  settings := rfl
  hosts _ := rfl
  visit _ _ kind place := by
    intro machine
    simp only [visit, Run.visit, unlimited, resumed, note, Machine.behind]
    rfl
  emit _ _ _ _ := rfl
  resolve _ _ := resumes_resolve
  declare _ _ _ _ _ := resumes_onArena _
  assign _ _ _ _ _ := resumes_onArena _
  capture _ _ := resumes_capture
  lapse _ _ _ _ _ _ _ := by
    split
    · exact fun _ => rfl
    · exact fun _ => rfl
  dispatch _ _ parts _ _ request _ _ :=
    resumes_dispatch (fun function arguments =>
      parts.call Set.univ [] function arguments (held_univ _) (held_univ _)) request
  inFresh _ _ _ _ agree := resumes_inFresh (agree 0)
  inCaptured _ _ _ _ _ _ agree := resumes_inCaptured (agree [])
  tidy _ _ _ := resumes_bind (resumes_onArena _) fun _ _ => rfl

end Evaluation

namespace Program

open Run Evaluation

variable {around : Surroundings} {runner : Runner}

/-- A program does on top of what happened before what it does from a start. -/
theorem run_behind (unlimited : around.budget = none) (prior : Machine) (program : Program)
    (depth : Nat) (machine : Machine) :
    program.run around depth (prior.behind machine) =
      resumed prior (program.run around depth machine) := by
  have bounds : ∀ bound, (resumption prior).Bounds bound bound := fun bound =>
    Or.inl ⟨rfl, fun _ _ _ _ _ => rfl⟩
  exact Comparison.run_agree (resumption_links prior around unlimited) (bounds around.rounds)
    program depth depth (bounds depth) Set.univ machine

/-- Where no statement of a program returns, what is run behind it goes on from where it ends. -/
theorem runFrom_append {first second : Program} {last value : Value} {before after : Machine}
    (through : ∀ outcome machine, Comes around runner before first outcome machine →
      outcome.returned = false)
    (result : runFrom around runner last first before = .ok value after) :
    runFrom around runner last (first ++ second) before =
      runFrom around runner value second after := by
  induction first generalizing last before with
  | nil =>
      cases result
      rfl
  | cons stmt rest ih =>
      rw [List.cons_append, runFrom_cons]
      rw [runFrom_cons] at result
      simp only [bind, EStateM.bind] at result ⊢
      cases completed : complete around runner stmt before with
      | error failure middle => simp [completed] at result
      | ok outcome middle =>
          have goesOn : outcome.returned = false := through outcome middle (.first completed)
          simp only [completed, goesOn, Bool.false_eq_true, ↓reduceIte] at result ⊢
          exact ih (fun last machine comes => through last machine (.later completed goesOn comes))
            result

theorem runFrom_last {program : Program} (some : program ≠ []) (last other : Value) :
    runFrom around runner last program = runFrom around runner other program := by
  cases program with
  | nil => exact absurd rfl some
  | cons stmt rest => rw [runFrom_cons, runFrom_cons]

end Program

end Parlance
