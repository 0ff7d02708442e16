import Parlance.Proofs.Running.Frame
import Parlance.Proofs.Running.Restriction

/-!
Runs under a limit of steps beside runs without one. As long as no node too many is visited the two
do the same. Where the limited run stops, it leaves every scope it is in and notes nothing more,
while the other notes the node and goes on.
-/

namespace Parlance

def Event.isVisit : Event → Bool
  | .visited .. => true
  | _ => false

def Machine.visits (machine : Machine) : Nat := machine.journal.countP Event.isVisit

@[simp] theorem Machine.visits_visit (kind : Node.Kind) (place : Place) (machine : Machine) :
    (machine.visit kind place).visits = machine.visits + 1 := by
  simp [visit, visits, List.countP_cons, Event.isVisit]

/-- Every step so far is in the journal, and there are no more of them than the limit allows. -/
structure Machine.Counted (limit : Nat) (machine : Machine) : Prop where
  steps_eq : machine.steps = machine.visits
  within : machine.steps ≤ limit

def Surroundings.unlimited (around : Surroundings) : Surroundings :=
  { around with
    settings := { around.settings with maxSteps := 0 }
    budget := none }

namespace Run

variable {α β : Type}

/-- A run has stopped at its limit, where the machine of the other run goes on. -/
def Stopped (limit : Nat) (free : Machine) : EStateM.Result Failure Machine α → Prop
  | .ok _ _ => False
  | .error failure after => ∃ kind place, failure = overstep limit place ∧ after.visits = limit ∧
      .visited kind place :: after.journal <:+ free.journal

/-- A limited run does what the other does, or it stops at its limit. -/
structure Cuts (limit : Nat) (limited free : Run α) : Prop where
  balanced : Frame.balance.Keeps limited
  grows : Frame.journal.Keeps free
  meets : ∀ machine, machine.arena.Accounted → machine.Counted limit →
    limited machine = free machine ∧ (left (limited machine)).Counted limit ∨
      Stopped limit (left (free machine)) (limited machine)

section

variable {limit : Nat} {limited free : Run α}

theorem cuts_self {run : Run α} (balanced : Frame.balance.Keeps run)
    (grows : Frame.journal.Keeps run)
    (counts : ∀ machine, machine.Counted limit → (left (run machine)).Counted limit) :
    Cuts limit run run :=
  ⟨balanced, grows, fun machine _ counted => Or.inl ⟨rfl, counts machine counted⟩⟩

theorem cuts_bind {rest rest' : α → Run β} (first : Cuts limit limited free)
    (later : ∀ a, Cuts limit (rest a) (rest' a)) :
    Cuts limit (limited >>= rest) (free >>= rest') where
  balanced := Frame.keeps_bind first.balanced fun a => (later a).balanced
  grows := Frame.keeps_bind first.grows fun a => (later a).grows
  meets machine accounted counted := by
    have balanced := first.balanced machine
    simp only [bind, EStateM.bind]
    rcases first.meets machine accounted counted with ⟨same, within⟩ | stopped
    · rw [← same]
      cases result : limited machine with
      | ok a after =>
          rw [result] at within balanced
          exact (later a).meets after (balanced.accounted accounted) within
      | error failure after =>
          rw [result] at within
          exact Or.inl ⟨rfl, within⟩
    -- the other run goes on, and its journal only grows
    · right
      cases result : limited machine with
      | ok a after => rw [result] at stopped; exact stopped.elim
      | error failure after =>
          rw [result] at stopped
          obtain ⟨kind, place, same, visits, noted⟩ := stopped
          refine ⟨kind, place, same, visits, ?_⟩
          cases result' : free machine with
          | ok a more =>
              rw [result'] at noted
              exact noted.trans ((later a).grows more)
          | error failure' more =>
              rw [result'] at noted
              exact noted

theorem cuts_visit (kind : Node.Kind) (place : Place) :
    Cuts limit (visit (some limit) kind place) (visit none kind place) where
  balanced := Frame.balance_visit (some limit) kind place
  grows := Frame.journal_visit none kind place
  meets machine _ counted := by
    have free : visit none kind place machine = .ok () (machine.visit kind place) := rfl
    rcases visit_cases (some limit) kind place machine with ⟨_, limited, exceeds, result⟩ |
      ⟨within, result⟩
    · obtain rfl := Option.some.inj limited
      rw [result, free]
      have last : machine.visits = limit := by
        have counts := counted.steps_eq
        have bound := counted.within
        omega
      exact Or.inr ⟨kind, place, rfl, last, List.suffix_refl _⟩
    · rw [result, free]
      refine Or.inl ⟨rfl, ?_, within limit rfl⟩
      change machine.steps + 1 = (machine.visit kind place).visits
      rw [Machine.visits_visit, counted.steps_eq]

theorem cuts_inScope {upkeep : Arena.Upkeep} {enter : Arena → Arena} {body body' : Run α}
    (cuts : Cuts limit body body') {machine : Machine} {id : Nat}
    (accounted : (enter machine.arena).Accounted)
    (entered : (enter machine.arena).stack = id :: machine.arena.stack)
    (counted : machine.Counted limit) :
    let inner := inScope upkeep enter body machine
    let inner' := inScope upkeep enter body' machine
    inner = inner' ∧ (left inner).Counted limit ∨ Stopped limit (left inner') inner := by
  have balanced := cuts.balanced { machine with arena := enter machine.arena }
  rcases cuts.meets { machine with arena := enter machine.arena } accounted
    ⟨counted.steps_eq, counted.within⟩ with ⟨same, within⟩ | stopped
  · left
    constructor
    · simp only [inScope, same]
    · rw [left_inScope]
      exact ⟨within.steps_eq, within.within⟩
  · right
    cases result : body { machine with arena := enter machine.arena } with
    | ok a after => rw [result] at stopped; exact stopped.elim
    | error failure after =>
        rw [result] at stopped balanced
        -- the scope that was entered is left without another failure
        obtain ⟨arena, popped, _⟩ := (balanced.accounted accounted).pop_ok upkeep
          (balanced.stack_eq.trans entered)
        rw [inScope_error result popped, left_inScope]
        exact stopped

end

/-- The comparison of limited runs with unlimited ones; it does not ask what values capture. -/
abbrev cutoff (limit : Nat) : Comparison where
  Agree _ _ limited free := Cuts limit limited free
  value _ := cuts_self (Frame.keeps_pure _) (Frame.keeps_pure _) fun _ counted => counted
  andThen first later :=
    cuts_bind first fun a => later Set.univ (Set.subset_univ _) a (held_univ a)

end Run

namespace Evaluation

open Run

variable {limit : Nat} {around : Surroundings}

theorem cuts_onArena {α : Type} {action : Arena.Action α}
    (balanced : Frame.balance.Keeps (onArena action)) :
    Cuts limit (onArena action) (onArena action) := by
  refine cuts_self balanced (Frame.journal_onArena action) fun machine counted => ?_
  rw [left_onArena]
  exact ⟨counted.steps_eq, counted.within⟩

theorem cuts_still {α : Type} {run : Run α} (still : ∀ machine, left (run machine) = machine) :
    Cuts limit run run := by
  refine cuts_self (Frame.keeps_still still) (Frame.keeps_still still) fun machine counted => ?_
  rw [still]
  exact counted

theorem cuts_capture : Cuts limit capture capture := by
  refine cuts_self Frame.balance_capture Frame.journal_capture fun machine counted => ?_
  simp only [capture]
  cases machine.arena.innermost? with
  | none => exact counted
  | some id => exact ⟨counted.steps_eq, counted.within⟩

theorem cuts_inFresh {body body' : Run Outcome} (cuts : Cuts limit body body') :
    Cuts limit (inFresh around body) (inFresh around.unlimited body') where
  balanced := (Frame.balance_primitives around).keeps_inFresh cuts.balanced
  grows := (Frame.journal_primitives around.unlimited).keeps_inFresh cuts.grows
  meets machine accounted counted := by
    refine cuts_inScope (cuts_bind cuts fun outcome => ?_) accounted.pushFresh rfl counted
    have carries : Cuts limit (carry outcome.value) (carry outcome.value) := by
      refine cuts_self ((Frame.balance_primitives around).carry outcome.value)
        ((Frame.journal_primitives around).carry outcome.value) fun machine counted => ?_
      exact ⟨counted.steps_eq, counted.within⟩
    exact cuts_bind carries fun _ => cuts_still fun _ => rfl

theorem cuts_inCaptured {closure : Closure} {body body' : Run Value}
    (cuts : Cuts limit body body') :
    Cuts limit (inCaptured around closure body) (inCaptured around.unlimited closure body') where
  balanced := (Frame.balance_primitives around).keeps_inCaptured cuts.balanced
  grows := (Frame.journal_primitives around.unlimited).keeps_inCaptured cuts.grows
  meets machine accounted counted := by
    cases scope : closure.scope with
    | none =>
        rw [inCaptured_none scope, inCaptured_none scope]
        exact cuts.meets machine accounted counted
    | some id =>
        by_cases live : machine.arena.isLive id = true
        · rw [inCaptured_entered scope live, inCaptured_entered scope live]
          have carried : Arena.Balanced (Arena.push id machine.arena)
              (Arena.carry (.function closure) (Arena.push id machine.arena)) :=
            Arena.carry_balanced (.function closure)
          exact cuts_inScope cuts (carried.accounted (accounted.push live)) carried.stack_eq counted
        · rw [inCaptured_missed scope live, inCaptured_missed scope live]
          exact cuts.meets _ accounted ⟨counted.steps_eq, counted.within⟩

theorem cutoff_links (limited : around.budget = some limit)
    (unhosted : ∀ name, around.modules.has name = false) :
    (cutoff limit).Links around around.unlimited where
  settings := rfl
  hosts _ := rfl
  visit _ _ kind place := by
    simp only [visit, limited]
    exact cuts_visit kind place
  resolve _ _ name := cuts_still (left_resolve name)
  declare _ _ name value _ := cuts_onArena ((Frame.balance_primitives around).declare name value)
  assign _ _ name value _ := cuts_onArena ((Frame.balance_primitives around).assign name value)
  capture _ _ := cuts_capture
  lapse _ _ cause place value _ _ := by
    refine cuts_still fun machine => ?_
    split <;> rfl
  dispatch _ _ _ _ _ request hosted := by simp [unhosted] at hosted
  inFresh _ _ _ _ cuts := cuts_inFresh (cuts 0)
  inCaptured _ _ _ _ _ _ cuts := cuts_inCaptured (cuts [])
  tidy _ value _ := by
    refine cuts_bind (cuts_onArena ((Frame.balance_primitives around).collect [value])) fun _ => ?_
    exact cuts_still fun _ => rfl
  emit _ _ line := by
    refine cuts_self ((Frame.balance_primitives around).note _) (Frame.journal_note _) ?_
    -- a line that is given out is no visit, so it takes no step
    intro machine counted
    refine ⟨?_, counted.within⟩
    simpa [emit, note, left, Machine.visits, List.countP_cons, Event.isVisit]
      using counted.steps_eq

/-- A run under a limit of steps does what the run without one does, or it stops at the limit. -/
theorem cuts_run (limited : around.budget = some limit)
    (unhosted : ∀ name, around.modules.has name = false) (program : Program) (depth : Nat) :
    Cuts limit (program.run around depth) (program.run around.unlimited depth) := by
  have bounds : ∀ bound, (cutoff limit).Bounds bound bound := fun bound =>
    Or.inl ⟨rfl, fun _ _ _ _ => cuts_still fun _ => rfl⟩
  exact Comparison.run_agree (cutoff_links limited unhosted) (bounds around.rounds) program depth
    depth (bounds depth) Set.univ

end Evaluation

end Parlance
