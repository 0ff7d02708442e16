import Parlance.Proofs.Running.Charge
import Parlance.Proofs.Running.Ending
import Parlance.Proofs.Session.Balance
import Parlance.Proofs.Session.Restriction

/-!
Sessions under a limit of steps. A limit cuts a run off and changes nothing else of it, and every
run that has one ends.
-/

namespace Parlance.Session

def withLimit (limit : Nat) (session : Session) : Session :=
  { session with settings := { session.settings with maxSteps := limit } }

def Execution.visits (execution : Execution) : Nat := execution.events.countP Event.isVisit

/-- A limit cuts an execution off: the execution stays as it is if it visits no node too many, else
it fails at the first one too many, behind all that happened before that. -/
def Execution.CutOff (limit : Nat) (limited free : Execution) : Prop :=
  if free.visits ≤ limit then
    limited = { free with session := free.session.withLimit limit }
  else
    ∃ kind place later, limited.result = .error (Run.overstep limit place) ∧
      free.events = limited.events ++ .visited kind place :: later ∧ limited.visits = limit

section

variable {session : Session} {depth : Nat} {program : Program} {limit : Nat}

theorem visits_runIn (session : Session) (around : Surroundings) (depth : Nat)
    (program : Program) :
    (session.runIn around depth program).visits =
      (Run.left (program.run around depth (.ofArena session.arena))).visits := by
  simp only [Execution.visits, events_runIn, List.countP_reverse, Machine.visits]

theorem lines_runIn (session : Session) (around : Surroundings) (depth : Nat)
    (program : Program) :
    (session.runIn around depth program).lines.length =
      (Run.left (program.run around depth (.ofArena session.arena))).lines := by
  simp only [Execution.lines, events_runIn, List.length_filterMap_eq_countP, List.countP_reverse,
    Machine.lines]

theorem runIn_withLimit (session : Session) (around around' : Surroundings)
    (upkeep : around.upkeep = around'.upkeep)
    (same : program.run around depth (.ofArena session.arena) =
      program.run around' depth (.ofArena session.arena)) (limit other : Nat) :
    (session.withLimit limit).runIn around depth program =
      let execution := (session.withLimit other).runIn around' depth program
      { execution with session := execution.session.withLimit limit } := by
  simp only [runIn, withLimit, same, upkeep]
  cases program.run around' depth (.ofArena session.arena) with
  | ok value machine =>
      simp only
      cases Run.onArena (Arena.unwind around'.upkeep) machine <;> rfl
  | error failure machine =>
      simp only
      cases Run.onArena (Arena.unwind around'.upkeep) machine <;> rfl

theorem Outside.cutOff (outside : Outside session) {around : Surroundings}
    (limited : around.budget = some limit)
    (unhosted : ∀ name, around.modules.has name = false) (program : Program) (depth : Nat) :
    Execution.CutOff limit ((session.withLimit limit).runIn around depth program)
      ((session.withLimit 0).runIn around.unlimited depth program) := by
  have cuts := Evaluation.cuts_run limited unhosted program depth
  have balanced := cuts.balanced (.ofArena session.arena)
  have visits : ((session.withLimit 0).runIn around.unlimited depth program).visits =
      (Run.left (program.run around.unlimited depth (.ofArena session.arena))).visits :=
    visits_runIn (session.withLimit 0) around.unlimited depth program
  -- either the limit was not reached, or the run stopped at it
  rcases cuts.meets (.ofArena session.arena) outside.accounted ⟨rfl, Nat.zero_le limit⟩ with
    ⟨same, counted⟩ | stopped
  · have few : ((session.withLimit 0).runIn around.unlimited depth program).visits ≤ limit := by
      rw [visits, ← same, ← counted.steps_eq]
      exact counted.within
    rw [Execution.CutOff, if_pos few]
    exact runIn_withLimit session around around.unlimited rfl same limit 0
  · cases result : program.run around depth (.ofArena session.arena) with
    | ok value after => rw [result] at stopped; exact stopped.elim
    | error failure after =>
        rw [result] at stopped balanced
        obtain ⟨kind, place, rfl, last, further⟩ := stopped
        have stops : (session.withLimit limit).runIn around depth program =
            (session.withLimit limit).executed (.error (Run.overstep limit place))
              { after with arena := { after.arena with carried := [] } } :=
          runIn_error result (balanced.stack_eq.trans outside.stack_eq)
        -- the run without a limit visits one node more at least
        obtain ⟨later, journal⟩ := further
        have many : ¬ ((session.withLimit 0).runIn around.unlimited depth program).visits ≤
            limit := by
          rw [visits, Machine.visits, ← journal]
          have more : after.journal.countP Event.isVisit = limit := last
          simp only [List.countP_append, List.countP_cons, Event.isVisit, ↓reduceIte, more]
          omega
        rw [Execution.CutOff, if_neg many, stops]
        refine ⟨kind, place, later.reverse, rfl, ?_, ?_⟩
        · rw [events_runIn]
          change (Run.left (program.run around.unlimited depth
            (.ofArena session.arena))).journal.reverse = _
          rw [← journal]
          simp [executed, Machine.events]
        · simp only [Execution.visits, executed, Machine.events, List.countP_reverse]
          exact last

/-- Under a limit there are no more lines than steps, since each is charged to one of its own. -/
theorem lines_le_visits {around : Surroundings}
    (unhosted : ∀ name, around.modules.has name = false) (session : Session) (depth : Nat)
    (program : Program) :
    let execution := session.runIn around depth program
    execution.lines.length ≤ execution.visits := by
  intro execution
  have charged := Frame.charged_run unhosted program depth (.ofArena session.arena)
  rw [lines_runIn, visits_runIn]
  simpa [Frame.charged, Machine.lines, Machine.visits, Machine.ofArena] using charged

theorem Execution.CutOff.visits_le {limited free : Execution} (cutOff : limited.CutOff limit free) :
    limited.visits ≤ limit := by
  rw [Execution.CutOff] at cutOff
  split at cutOff
  · rename_i few
    rw [cutOff]
    exact few
  · obtain ⟨_, _, _, _, _, last⟩ := cutOff
    exact last.le

/-- In whatever depth and rounds beyond what its limit lets it use, a run comes to one end. -/
theorem Outside.ends (outside : Outside session) {around : Surroundings}
    (limited : around.budget = some limit)
    (unhosted : ∀ name, around.modules.has name = false) (program : Program) :
    ∃ execution : Execution, execution.result ≠ .error (.of .unbounded) ∧
      ∀ depth rounds, 3 * limit + 6 ≤ depth → limit < rounds →
        session.runIn { around with rounds } depth program = execution := by
  let start := { around with rounds := limit + 1 }
  have limited : start.budget = some limit := limited
  have unhosted : ∀ name, start.modules.has name = false := unhosted
  -- the least depth and rounds that suffice give the execution; any larger ones agree with them
  refine ⟨session.runIn start (3 * limit + 6) program, ?_, fun depth rounds deep wide => ?_⟩
  · have ends : Run.Settles (.ofArena session.arena)
        (program.run start (3 * limit + 6) (.ofArena session.arena))
        (program.run start (3 * limit + 6) (.ofArena session.arena)) :=
      Evaluation.run_settles limited unhosted le_rfl le_rfl le_rfl le_rfl program _
    have balanced := (Frame.balance_primitives start).keeps_run program (3 * limit + 6)
      (.ofArena session.arena)
    cases result : program.run start (3 * limit + 6) (.ofArena session.arena) with
    | ok value after =>
        rw [result] at balanced
        rw [runIn_ok result (balanced.stack_eq.trans outside.stack_eq)]
        exact nofun
    | error failure after =>
        rw [result] at balanced
        rw [runIn_error result (balanced.stack_eq.trans outside.stack_eq)]
        intro unbounded
        obtain rfl : failure = .of .unbounded := Except.error.inj unbounded
        exact ends.bounded after result
  · have ends : Run.Settles (.ofArena session.arena)
        (program.run start (3 * limit + 6) (.ofArena session.arena))
        (program.run { around with rounds } depth (.ofArena session.arena)) :=
      Evaluation.run_settles limited unhosted le_rfl deep le_rfl wide program _
    simp only [Session.runIn, ends.same]
    rfl

end

/-- The limit of steps is a pure cut-off, in every state of a session without modules. It changes
nothing for a program that visits no more nodes than the limit; any other fails at the first node
too many, behind just what happened before that without the limit, and with no more lines than
steps. And every program ends under a limit, whatever depth and rounds are granted beyond what the
limit lets it use. -/
theorem limit_cuts_off (settings : Settings) (deeds : List Deed)
    (unhosted : ∀ name, (afterAll settings deeds).modules.has name = false) (limit : Nat)
    (positive : 0 < limit) (program : Program) (source sourceName : Option String) :
    let run := fun limit depth rounds => ((afterAll settings deeds).withLimit limit).runWithin
      .reclaim depth rounds program source sourceName
    (∀ depth rounds, (run limit depth rounds).CutOff limit (run 0 depth rounds) ∧
      (run limit depth rounds).lines.length ≤ limit) ∧
    ∃ execution : Execution, execution.result ≠ .error (.of .unbounded) ∧
      ∀ depth rounds, 3 * limit + 6 ≤ depth → limit < rounds →
        run limit depth rounds = execution := by
  intro run
  let session := afterAll settings deeds
  have outside : Outside session := outside_afterAll settings deeds
  have limited : ∀ rounds, ((session.withLimit limit).surroundings .reclaim rounds source
      sourceName).budget = some limit := fun rounds => if_neg positive.ne'
  constructor
  · intro depth rounds
    have cutOff : (run limit depth rounds).CutOff limit (run 0 depth rounds) :=
      outside.cutOff (limited rounds) unhosted program depth
    exact ⟨cutOff, (lines_le_visits unhosted _ depth program).trans cutOff.visits_le⟩
  · have inside : Outside (session.withLimit limit) := ⟨outside.accounted, outside.stack_eq⟩
    exact inside.ends (limited 0) unhosted program

/-- A loop that says a line in every round, without end. -/
def chatter : Stmt :=
  .loop (.guard (.literal (.boolean true) .start)) [.output none .start] .start .start

theorem chatter_cut_off :
    let run := fun limit depth rounds => ((afterAll .standard []).withLimit limit).runWithin
      .reclaim depth rounds [chatter] none none
    (∀ name, (afterAll .standard []).modules.has name = false) ∧ 0 < 3 ∧
    (∀ depth rounds, (run 3 depth rounds).CutOff 3 (run 0 depth rounds) ∧
      (run 3 depth rounds).lines.length ≤ 3) ∧
    ∃ execution : Execution, execution.result ≠ .error (.of .unbounded) ∧
      ∀ depth rounds, 3 * 3 + 6 ≤ depth → 3 < rounds → run 3 depth rounds = execution :=
  ⟨fun _ => rfl, by decide,
    limit_cuts_off .standard [] (fun _ => rfl) 3 (by decide) [chatter] none none⟩

end Parlance.Session
