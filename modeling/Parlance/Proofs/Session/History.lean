import Parlance.Proofs.Running.Comparison
import Parlance.Session

/-!
Runs and histories of sessions. At the end of a run the scopes that are still entered are left,
which changes nothing but the arena; where the run has left every scope itself, only the carried
values are forgotten. A session may be asked to register and to forget modules, to read and to run
programs, and to start anew; what all of these keep holds of every session that has a history.
-/

namespace Parlance.Session

/-! ### The end of a run -/

section

variable {session : Session} {around : Surroundings} {depth : Nat} {program : Program}
  {machine : Machine}

/-- Whatever the result, what a run has done stands, and its arena is unwound. -/
theorem runIn_left (session : Session) (around : Surroundings) (depth : Nat) (program : Program) :
    let after := Run.left (program.run around depth (.ofArena session.arena))
    ∃ result, session.runIn around depth program = session.executed result
      { after with arena := Arena.left (Arena.unwind around.upkeep after.arena) } := by
  simp only [runIn]
  cases program.run around depth (.ofArena session.arena) with
  | ok value after =>
      simp only [Run.left, ← Run.left_onArena]
      cases Run.onArena (Arena.unwind around.upkeep) after <;> exact ⟨_, rfl⟩
  | error failure after =>
      simp only [Run.left, ← Run.left_onArena]
      cases Run.onArena (Arena.unwind around.upkeep) after <;> exact ⟨_, rfl⟩

theorem strays_runIn (session : Session) (around : Surroundings) (depth : Nat)
    (program : Program) :
    (session.runIn around depth program).strays =
      (Run.left (program.run around depth (.ofArena session.arena))).strays.reverse := by
  obtain ⟨result, same⟩ := runIn_left session around depth program
  rw [same]
  rfl

theorem events_runIn (session : Session) (around : Surroundings) (depth : Nat)
    (program : Program) :
    (session.runIn around depth program).events =
      (Run.left (program.run around depth (.ofArena session.arena))).journal.reverse := by
  obtain ⟨result, same⟩ := runIn_left session around depth program
  rw [same]
  rfl

def finish (session : Session) (upkeep : Arena.Upkeep) (value : Value) (machine : Machine) :
    Execution :=
  match Run.onArena (Arena.unwind upkeep) machine with
  | .ok _ machine => session.executed (.ok value) machine
  | .error failure machine => session.executed (.error failure) machine

theorem runIn_finish {value : Value}
    (result : program.run around depth (.ofArena session.arena) = .ok value machine) :
    session.runIn around depth program = session.finish around.upkeep value machine := by
  simp only [runIn, result]
  rfl

theorem runIn_fails {failure : Failure}
    (result : program.run around depth (.ofArena session.arena) = .error failure machine) :
    ∃ other, (session.runIn around depth program).result = .error other := by
  simp only [runIn, result]
  cases Run.onArena (Arena.unwind around.upkeep) machine with
  | ok _ last => exact ⟨failure, rfl⟩
  | error other last => exact ⟨other, rfl⟩

theorem runIn_ok {value : Value}
    (result : program.run around depth (.ofArena session.arena) = .ok value machine)
    (outside : machine.arena.stack = []) :
    session.runIn around depth program = session.executed (.ok value)
      { machine with arena := { machine.arena with carried := [] } } := by
  simp [runIn, result, Run.onArena, Arena.unwind_eq around.upkeep outside]

theorem runIn_error {failure : Failure}
    (result : program.run around depth (.ofArena session.arena) = .error failure machine)
    (outside : machine.arena.stack = []) :
    session.runIn around depth program = session.executed (.error failure)
      { machine with arena := { machine.arena with carried := [] } } := by
  simp [runIn, result, Run.onArena, Arena.unwind_eq around.upkeep outside]

end

/-! ### Histories -/

/-- What may be asked of a session. -/
inductive Deed where
  | register (name : String) (handler : Option Handler)
  | unregister (name : String)
  | parse (source : String) (sourceName : Option String)
  | run (depth rounds : Nat) (program : Program) (source sourceName : Option String)
  | execute (depth rounds : Nat) (source : String) (sourceName : Option String)
  | reset

/-- The session after a deed; a handler that is refused changes nothing. -/
def after (session : Session) : Deed → Session
  | .register name handler =>
      match session.register name handler with
      | .ok session => session
      | .error _ => session
  | .unregister name => session.unregister name
  | .parse source sourceName => (session.parse source sourceName).2
  | .run depth rounds program source sourceName =>
      (session.runWithin .reclaim depth rounds program source sourceName).session
  | .execute depth rounds source sourceName =>
      (session.executeWithin depth rounds source sourceName).session
  | .reset => session.reset

def afterAll (settings : Settings) (deeds : List Deed) : Session :=
  deeds.foldl after (.ofSettings settings)

section

variable {P : Session → Prop} {session : Session}

theorem register_ok {name : String} {handler : Option Handler} {after : Session}
    (result : session.register name handler = .ok after) :
    ∃ modules, session.modules.register name handler = .ok modules ∧
      after = { session with modules } := by
  simp only [register] at result
  cases registered : session.modules.register name handler with
  | error fault => simp [registered, Except.map] at result
  | ok modules =>
      simp only [registered, Except.map, Except.ok.injEq] at result
      exact ⟨modules, rfl, result.symm⟩

/-- What a deed comes to: other modules, other recoveries, a run, or a new start. -/
theorem after_keeps {deed : Deed} (start : P session)
    (registers : ∀ name handler after, deed = .register name handler →
      session.register name handler = .ok after → P after)
    (unregisters : ∀ name, P (session.unregister name))
    (reads : ∀ recoveries, P { session with recoveries })
    (runs : ∀ recoveries around depth program, around.modules = session.modules →
      P ({ session with recoveries }.runIn around depth program).session)
    (resets : P session.reset) : P (session.after deed) := by
  -- a deed that fails leaves the session as it was
  cases deed with
  | register name handler =>
      simp only [after]
      cases result : session.register name handler with
      | ok session => exact registers name handler session rfl result
      | error _ => exact start
  | unregister name => exact unregisters name
  | parse source sourceName =>
      simp only [after, parse]
      cases session.read source sourceName with
      | ok read => exact reads _
      | error failure => exact start
  | run depth rounds program source sourceName =>
      exact runs session.recoveries _ depth program rfl
  | execute depth rounds source sourceName =>
      simp only [after, executeWithin, parse]
      cases session.read source sourceName with
      | ok read => exact runs _ _ depth _ rfl
      | error failure => exact start
  | reset => exact resets

theorem afterAll_keeps {settings : Settings} {deeds : List Deed} (start : P (.ofSettings settings))
    (step : ∀ session, P session → ∀ deed ∈ deeds, P (session.after deed)) :
    P (afterAll settings deeds) := by
  unfold afterAll
  generalize ofSettings settings = session at start
  induction deeds generalizing session with
  | nil => exact start
  | cons deed rest ih =>
      apply ih
      · intro other holds later member
        exact step other holds later (List.mem_cons_of_mem deed member)
      · exact step session start deed List.mem_cons_self

end

end Parlance.Session
