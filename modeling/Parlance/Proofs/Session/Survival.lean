import Parlance.Proofs.Arena.Lifecycle
import Parlance.Proofs.Running.Numbering
import Parlance.Proofs.Session.Containment
import Parlance.Proofs.Session.Lenient

/-!
Sessions survive what is executed in them. Without modules an execution, strict or not and however
it ends, leaves a session at rest behind, where the next one can start; and if it fails, then for a
reason of its own or without bound, never because a scope was gone. A function that first of all
calls the name that it is bound to does run without bound, if there is no limit of steps: each call
enters a fresh scope, which binds nothing yet, and so finds the same function again. Main
statements: `Session.Resting.executeWithin` and `Session.Resting.endless_of_recurs`.
-/

namespace Parlance

/-! ### At rest -/

namespace Session

structure Resting (settings : Settings) (session : Session) : Prop where
  ready : Ready settings session
  outside : Outside session
  numbered : session.arena.Numbered

section

variable {settings : Settings} {session : Session}

theorem Resting.kept (resting : Resting settings session) : session.arena.Kept where
  sound := by
    obtain ⟨_, intact⟩ := resting.ready.intact
    exact resting.outside.stack_eq ▸ intact.sound
  accounted := resting.outside.accounted
  live_below := resting.numbered

theorem resting_start (settings : Settings) : Resting settings (.ofSettings settings) where
  ready := ready_start settings
  outside := outside_start settings
  numbered := Arena.empty_kept.live_below

/-- The recoveries of a program do not matter to what is executed. -/
theorem Resting.read (resting : Resting settings session) (recoveries : List Grammar.Recovery) :
    Resting settings { session with recoveries } where
  ready := ⟨resting.ready.settings_eq, resting.ready.unhosted, resting.ready.intact⟩
  outside := ⟨resting.outside.accounted, resting.outside.stack_eq⟩
  numbered := resting.numbered

theorem Outside.runIn_numbered (outside : Outside session) (numbered : session.arena.Numbered)
    (around : Surroundings) (depth : Nat) (program : Program) :
    (session.runIn around depth program).session.arena.Numbered := by
  have ran := (Frame.numbered_primitives around).keeps_run program depth
    (.ofArena session.arena) numbered
  rw [outside.runIn_eq]
  cases result : program.run around depth (.ofArena session.arena) with
  | ok value machine =>
      rw [result] at ran
      exact ran
  | error failure machine =>
      rw [result] at ran
      exact ran

theorem Resting.runIn (resting : Resting settings session) {around : Surroundings}
    (same : around.modules = session.modules) (depth : Nat) (program : Program) :
    Resting settings (session.runIn around depth program).session ∧
      ∀ failure, (session.runIn around depth program).result = .error failure →
        failure.Owned := by
  obtain ⟨known, intact⟩ := resting.ready.intact
  have unhosted : ∀ name, around.modules.has name = false := by
    intro name
    rw [same, resting.ready.unhosted]
    rfl
  obtain ⟨⟨more, left, kept⟩, fails⟩ :=
    runIn_intact intact (Bond.owned_links unhosted) (Or.inr rfl) depth program
  refine ⟨⟨?_, resting.outside.runIn around depth program,
    resting.outside.runIn_numbered resting.numbered around depth program⟩, fails⟩
  rw [left]
  exact ⟨resting.ready.settings_eq, resting.ready.unhosted, more, kept⟩

/-- An execution leaves a session at rest so, and fails for a reason of its own or without
bound. -/
theorem Resting.executeWithin (resting : Resting settings session) (depth rounds : Nat)
    (source : String) (sourceName : Option String) :
    let execution := session.executeWithin depth rounds source sourceName
    Resting settings execution.session ∧
      ∀ failure, execution.result = .error failure → failure.Owned := by
  simp only [Session.executeWithin, parse]
  cases result : session.read source sourceName with
  | error failure =>
      refine ⟨resting, ?_⟩
      rintro _ ⟨⟩
      exact Or.inl (own_of_read result)
  | ok read => exact (resting.read read.2).runIn rfl depth read.1

end

end Session

/-! ### Calls without end -/

/-- The call of a name without arguments, and the statement that gives it back. -/
def Expr.bareCall (name : String) (place : Place) : Expr := .call name none [] place

/-- A function that captured no scope and takes no argument, and that gives back, before all else,
what the call of a name comes to. -/
structure Closure.Recurs (closure : Closure) (name : String) : Prop where
  uncaptured : closure.scope = none
  bare : closure.params = []
  first : ∃ place outer rest,
    closure.body = .giveBack (some (.bareCall name place)) outer :: rest

structure Arena.Finds (name : String) (closure : Closure) (stack : List Nat) (arena : Arena) :
    Prop where
  sound : arena.Sound stack
  numbered : arena.Numbered
  resolves : arena.resolve name = .ok (some (.function closure))

namespace Arena.Finds

variable {name : String} {closure : Closure} {stack : List Nat} {arena : Arena}

theorem pushFresh (finds : arena.Finds name closure stack) :
    arena.pushFresh.Finds name closure (arena.nextId :: stack) where
  sound := finds.sound.pushFresh
  numbered := finds.numbered.pushFresh
  resolves := (finds.sound.resolve_pushFresh finds.numbered name).trans finds.resolves

end Arena.Finds

namespace Run

/-- The run comes to the end of its depth, with the same scopes entered as before. -/
def Sinks {α : Type} (stack : List Nat) (run : Run α) (machine : Machine) : Prop :=
  ∃ after, run machine = .error (.of .unbounded) after ∧ after.arena.Sound stack

section

variable {α β : Type} {stack : List Nat} {run : Run α} {machine : Machine}

theorem Sinks.bind (sinks : run.Sinks stack machine) (rest : α → Run β) :
    (run >>= rest).Sinks stack machine := by
  obtain ⟨after, failed, sound⟩ := sinks
  exact ⟨after, by simp only [Bind.bind, EStateM.bind, failed], sound⟩

theorem Sinks.visit {kind : Node.Kind} {place : Place} {rest : Run α}
    (sinks : rest.Sinks stack (machine.visit kind place)) :
    (Run.visit none kind place >>= fun _ => rest).Sinks stack machine := sinks

theorem Sinks.inScope {upkeep : Arena.Upkeep} {enter : Arena → Arena} {id : Nat}
    (sinks : run.Sinks (id :: stack) { machine with arena := enter machine.arena }) :
    (Run.inScope upkeep enter run).Sinks stack machine := by
  -- the scope that a body sinks in is left again
  obtain ⟨after, failed, sound⟩ := sinks
  obtain ⟨arena, left, kept, _⟩ := sound.pop_ok upkeep
  exact ⟨{ after with arena }, inScope_error failed left, kept⟩

end

end Run

/-- Where the name resolves to the function the runner sinks in its call, however it is spelt. -/
structure Runner.Recurs (runner : Runner) (name : String) (closure : Closure) : Prop where
  eval : ∀ place stack machine, machine.arena.Finds name closure stack →
    (runner.eval (.bareCall name place)).Sinks stack machine
  exec : ∀ place outer stack machine, machine.arena.Finds name closure stack →
    (runner.exec (.giveBack (some (.bareCall name place)) outer)).Sinks stack machine
  call : ∀ stack machine, machine.arena.Finds name closure stack →
    (runner.call (.function closure) []).Sinks stack machine

namespace Evaluation

variable {around : Surroundings} {inner : Runner} {name : String} {closure : Closure}

theorem callBound_found {stack : List Nat} {machine : Machine}
    (finds : machine.arena.Finds name closure stack) (arguments : List Value) (place : Place) :
    callBound around inner name arguments place machine =
      inner.call (.function closure) arguments machine := by
  simp only [callBound, bind, EStateM.bind, Run.resolve, finds.resolves]

theorem eval_recurs (unlimited : around.budget = none) (parts : inner.Recurs name closure)
    {place : Place} {stack : List Nat} {machine : Machine}
    (finds : machine.arena.Finds name closure stack) :
    (eval around inner (.bareCall name place)).Sinks stack machine := by
  have visited : (machine.visit .call place).arena.Finds name closure stack := finds
  have called : (callBound around inner name [] place).Sinks stack (machine.visit .call place) := by
    rw [Run.Sinks, callBound_found visited]
    exact parts.call stack _ visited
  simp only [eval, Expr.bareCall, Expr.kind, Expr.place, visit, unlimited, compute, evalCall,
    evalAll, pure_bind]
  exact called.visit

theorem exec_recurs (unlimited : around.budget = none) (parts : inner.Recurs name closure)
    {place outer : Place} {stack : List Nat} {machine : Machine}
    (finds : machine.arena.Finds name closure stack) :
    (exec around inner (.giveBack (some (.bareCall name place)) outer)).Sinks stack machine := by
  have evaluated := parts.eval place stack (machine.visit .giveBack outer) finds
  simp only [exec, Stmt.head?, visit, unlimited]
  exact (evaluated.bind _).visit

theorem call_recurs (recurs : closure.Recurs name) (parts : inner.Recurs name closure)
    {stack : List Nat} {machine : Machine} (finds : machine.arena.Finds name closure stack) :
    (call around inner (.function closure) []).Sinks stack machine := by
  obtain ⟨place, outer, rest, first⟩ := recurs.first
  have entered := parts.exec place outer _ { machine with arena := machine.arena.pushFresh }
    finds.pushFresh
  have body : (execBody inner closure.body).Sinks (machine.arena.nextId :: stack)
      { machine with arena := machine.arena.pushFresh } := by
    rw [first]
    exact entered.bind _
  simp only [call, inCaptured_none recurs.uncaptured, callBody, recurs.bare, bindParams]
  exact (Run.Sinks.inScope (body.bind _)).bind _

end Evaluation

namespace Runner

variable {around : Surroundings} {name : String} {closure : Closure}

/-- No depth is enough for a function that first of all calls itself. -/
theorem recurs_ofDepth (unlimited : around.budget = none) (recurs : closure.Recurs name)
    (depth : Nat) : (ofDepth around depth).Recurs name closure := by
  -- each of the three runs its part at the depth below
  induction depth with
  | zero =>
      exact
        { eval := fun _ _ machine finds => ⟨machine, rfl, finds.sound⟩
          exec := fun _ _ _ machine finds => ⟨machine, rfl, finds.sound⟩
          call := fun _ machine finds => ⟨machine, rfl, finds.sound⟩ }
  | succ depth ih =>
      exact
        { eval := fun _ _ _ finds => Evaluation.eval_recurs unlimited ih finds
          exec := fun _ _ _ _ finds => Evaluation.exec_recurs unlimited ih finds
          call := fun _ _ finds => Evaluation.call_recurs recurs ih finds }

end Runner

namespace Session

variable {settings : Settings} {session : Session} {name : String} {closure : Closure}
  {place : Place}

theorem Resting.runIn_recurs (resting : Resting settings session) {around : Surroundings}
    (unlimited : around.budget = none) (recurs : closure.Recurs name)
    (resolves : session.arena.resolve name = .ok (some (.function closure))) (depth : Nat) :
    (session.runIn around depth [.expression (.bareCall name place)]).result =
      .error (.of .unbounded) := by
  have finds : (Machine.ofArena session.arena).arena.Finds name closure [] :=
    ⟨resting.outside.stack_eq ▸ resting.kept.sound, resting.numbered, resolves⟩
  have sinks : ((Runner.ofDepth around depth).exec (.expression (.bareCall name place))).Sinks []
      (.ofArena session.arena) := by
    cases depth with
    | zero => exact ⟨.ofArena session.arena, rfl, finds.sound⟩
    | succ depth =>
        exact ((Runner.recurs_ofDepth unlimited recurs depth).eval place [] _ finds).bind _
  have ran : (Program.run around depth [.expression (.bareCall name place)]).Sinks []
      (.ofArena session.arena) := sinks.bind _
  obtain ⟨after, failed, sound⟩ := ran
  rw [runIn_error failed sound.stack_eq]
  rfl

/-- At rest, a program that calls such a function runs without bound. -/
theorem Resting.endless_of_recurs (resting : Resting settings session)
    (unlimited : settings.maxSteps = 0) (recurs : closure.Recurs name)
    (resolves : session.arena.resolve name = .ok (some (.function closure))) {source : String}
    {sourceName : Option String} {recoveries : List Grammar.Recovery}
    (reads : session.read source sourceName =
      .ok ([.expression (.bareCall name place)], recoveries)) :
    Endless session source sourceName := by
  intro depth rounds
  simp only [Session.executeWithin, parse, reads]
  refine (resting.read recoveries).runIn_recurs ?_ recurs resolves depth
  simp [surroundings, resting.ready.settings_eq, unlimited]

end Session

end Parlance
