import Parlance.Proofs.Arena.Reachable
import Parlance.Proofs.Running.Resumption
import Parlance.Proofs.Session.Balance

/-!
Sessions compose. Between two top-level statements nothing is entered or carried, so a program
leaves all that the next one can see in the arena, and it makes no difference whether the two are
run one after the other or as one program.
-/

namespace Parlance.Session

section

variable {session : Session} {around : Surroundings} {depth : Nat}

theorem Outside.run_left (outside : Outside session) (around : Surroundings) (depth : Nat)
    (program : Program) :
    let after := Run.left (program.run around depth (.ofArena session.arena))
    after.arena.stack = [] ∧ after.arena.carried = [] := by
  have balanced := (Frame.balance_primitives around).keeps_run program depth
    (.ofArena session.arena)
  have left := balanced.stack_eq.trans outside.stack_eq
  exact ⟨left, ((balanced.accounted outside.accounted).settled left).carried_eq⟩

/-- The execution that a run makes which leaves nothing to unwind. -/
def concluded (session : Session) : EStateM.Result Failure Machine Value → Execution
  | .ok value machine => session.executed (.ok value) machine
  | .error failure machine => session.executed (.error failure) machine

theorem concluded_resumed (session : Session) (prior : Machine)
    (result : EStateM.Result Failure Machine Value) :
    session.concluded (Run.resumed prior result) =
      { session.concluded result with
        events := prior.events ++ (session.concluded result).events
        strays := prior.strays.reverse ++ (session.concluded result).strays } := by
  cases result <;> simp [Run.resumed, concluded, executed, Machine.behind, Machine.events]

theorem concluded_executed (session : Session) (earlier : Except Failure Value) (machine : Machine)
    (result : EStateM.Result Failure Machine Value) :
    (session.executed earlier machine).session.concluded result = session.concluded result := by
  cases result <;> rfl

/-- Outside of every scope the end of an execution is that of its run. -/
theorem Outside.runIn_eq (outside : Outside session) (around : Surroundings) (depth : Nat)
    (program : Program) :
    session.runIn around depth program =
      session.concluded (program.run around depth (.ofArena session.arena)) := by
  obtain ⟨left, carried⟩ := outside.run_left around depth program
  cases result : program.run around depth (.ofArena session.arena) with
  | ok value machine =>
      rw [result] at left carried
      change machine.arena.carried = [] at carried
      rw [runIn_ok result left, ← carried]
      rfl
  | error failure machine =>
      rw [result] at left carried
      change machine.arena.carried = [] at carried
      rw [runIn_error result left, ← carried]
      rfl

theorem settings_afterAll (settings : Settings) (deeds : List Deed) :
    (afterAll settings deeds).settings = settings := by
  refine afterAll_keeps (P := fun session => session.settings = settings) rfl ?_
  intro session same deed _
  apply after_keeps (P := fun session => session.settings = settings) same
  · intro name handler after _ result
    obtain ⟨modules, _, rfl⟩ := register_ok result
    exact same
  · intro name
    exact same
  · intro recoveries
    exact same
  · intro recoveries around depth program _
    obtain ⟨result, ended⟩ := runIn_left { session with recoveries } around depth program
    rw [ended]
    exact same
  · exact same

/-- What the second program does behind the first one, in one run of both. -/
theorem Outside.runIn_append (outside : Outside session) (unlimited : around.budget = none)
    {first : Program} {value : Value} {middle : Machine}
    (done : first.run around depth (.ofArena session.arena) = .ok value middle)
    (through : ∀ outcome machine, Program.Comes around (.ofDepth around depth)
      (.ofArena session.arena) first outcome machine → outcome.returned = false)
    (second : Program) :
    let before := session.runIn around depth first
    let after := before.session.runIn around depth second
    let whole := session.runIn around depth (first ++ second)
    whole.events = before.events ++ after.events ∧ whole.strays = before.strays ++ after.strays ∧
      whole.session = after.session ∧ (second ≠ [] → whole.result = after.result) := by
  have before_eq : session.runIn around depth first = session.executed (.ok value) middle := by
    rw [outside.runIn_eq, done, concluded]
  have between : Outside (session.executed (.ok value) middle).session := by
    rw [← before_eq]
    exact outside.runIn around depth first
  have whole_run : (first ++ second).run around depth (.ofArena session.arena) =
      Program.runFrom around (.ofDepth around depth) value second middle :=
    Program.runFrom_append through done
  simp only [before_eq]
  rw [outside.runIn_eq, between.runIn_eq, whole_run, concluded_executed]
  cases second with
  | nil => simp [Program.run, Program.runFrom, concluded, executed, Machine.events, pure,
      EStateM.pure, Machine.ofArena]
  | cons stmt rest =>
      -- the machine between is one that goes on from its own arena
      have second_run := Program.run_behind unlimited middle (stmt :: rest) depth
        (.ofArena middle.arena)
      rw [Machine.behind_ofArena] at second_run
      rw [Program.runFrom_last (List.cons_ne_nil _ _) value .void]
      change Program.runFrom _ _ .void _ middle = _ at second_run
      rw [second_run, concluded_resumed]
      exact ⟨rfl, rfl, rfl, fun _ => rfl⟩

end

/-- Sessions compose. Whatever a session was used for before, if a program runs without a limit of
steps, fails nowhere and returns nowhere, then a second program run behind it does what it does
behind it in one program: the same happens in the same order, the same session is left, and the
result is the same unless the second program has no statement to give one. -/
theorem programs_compose (settings : Settings) (deeds : List Deed) (depth rounds : Nat)
    (first second : Program) (source sourceName : Option String) {value : Value}
    (unlimited : settings.maxSteps = 0)
    (done : ((afterAll settings deeds).runWithin .reclaim depth rounds first source
      sourceName).result = .ok value)
    (through : ∀ outcome machine, Program.Comes
      ((afterAll settings deeds).surroundings .reclaim rounds source sourceName)
      (.ofDepth ((afterAll settings deeds).surroundings .reclaim rounds source sourceName) depth)
      (.ofArena (afterAll settings deeds).arena) first outcome machine →
        outcome.returned = false) :
    let session := afterAll settings deeds
    let before := session.runWithin .reclaim depth rounds first source sourceName
    let after := before.session.runWithin .reclaim depth rounds second source sourceName
    let whole := session.runWithin .reclaim depth rounds (first ++ second) source sourceName
    whole.events = before.events ++ after.events ∧ whole.strays = before.strays ++ after.strays ∧
      whole.session = after.session ∧ (second ≠ [] → whole.result = after.result) := by
  have outside := outside_afterAll settings deeds
  have same := settings_afterAll settings deeds
  generalize afterAll settings deeds = session at *
  have noBudget : (session.surroundings .reclaim rounds source sourceName).budget = none := by
    simp [surroundings, same, unlimited]
  simp only [runWithin] at done ⊢
  rw [outside.runIn_eq] at done
  cases result : first.run (session.surroundings .reclaim rounds source sourceName) depth
      (.ofArena session.arena) with
  | error failure machine => simp [result, concluded, executed] at done
  | ok given middle =>
      have composes := outside.runIn_append noBudget result through second
      simp only [outside.runIn_eq, result, concluded] at composes ⊢
      exact composes

/-- A block with a function in it that is the block's value. -/
def keeper : Stmt :=
  .block [.define (some "f") none [] [] .start .start, .expression (.ident "f" .start)] .start

def kept : Value := .function ⟨"f", [], [], .start, some 1⟩

def keeping : Machine where
  arena := ⟨[(Arena.globalId, []), (1, [("f", kept)])], [1], [], 2, []⟩
  steps := 3
  journal := [.visited .identifier .start, .visited .functionDefinition .start,
    .visited .block .start]
  strays := []

theorem keeper_completes :
    let session := afterAll .standard []
    let around := session.surroundings .reclaim 0 none none
    Evaluation.complete around (.ofDepth around 4) keeper (.ofArena session.arena) =
      .ok ⟨kept, false⟩ keeping := by
  intro session around
  have done : (Runner.ofDepth around 4).exec keeper (.ofArena session.arena) =
      .ok ⟨kept, false⟩ keeping := by rfl
  exact Evaluation.complete_of_idle done (Arena.collect_idle rfl rfl)

theorem keeper_run :
    let session := afterAll .standard []
    session.runWithin .reclaim 4 0 [keeper] none none = session.executed (.ok kept) keeping := by
  intro session
  have ran : Program.run (session.surroundings .reclaim 0 none none) 4 [keeper]
      (.ofArena session.arena) = .ok kept keeping := by
    rw [Program.run, Program.runFrom_cons]
    simp only [bind, EStateM.bind]
    rw [keeper_completes]
    rfl
  rw [runWithin, (outside_afterAll .standard []).runIn_eq, ran, concluded]

/-- A function that is the value of the last statement keeps its scope into the next program. -/
theorem keeper_composes :
    let session := afterAll .standard []
    let around := session.surroundings .reclaim 0 none none
    let before := session.runWithin .reclaim 4 0 [keeper] none none
    let after := before.session.runWithin .reclaim 4 0 [.output none .start] none none
    let whole := session.runWithin .reclaim 4 0 [keeper, .output none .start] none none
    Settings.standard.maxSteps = 0 ∧ before.result = .ok kept ∧
      before.session.arena = keeping.arena ∧
      (∀ outcome machine, Program.Comes around (.ofDepth around 4) (.ofArena session.arena) [keeper]
        outcome machine → outcome.returned = false) ∧
      whole.events = before.events ++ after.events ∧ whole.session = after.session ∧
      whole.result = after.result := by
  intro session around before after whole
  -- the block does not return, so the program comes through to its end
  have through : ∀ outcome machine, Program.Comes around (.ofDepth around 4)
      (.ofArena session.arena) [keeper] outcome machine → outcome.returned = false := by
    intro outcome machine comes
    cases comes with
    | first found =>
        rw [keeper_completes] at found
        cases found
        rfl
    | later _ _ later => cases later
  have run : before = session.executed (.ok kept) keeping := keeper_run
  have result : before.result = .ok kept := by
    rw [run]
    rfl
  have composes := programs_compose .standard [] 4 0 [keeper] [.output none .start] none none
    rfl result through
  exact ⟨rfl, result, by rw [run]; rfl, through, composes.1, composes.2.2.1,
    composes.2.2.2 (List.cons_ne_nil _ _)⟩

end Parlance.Session
