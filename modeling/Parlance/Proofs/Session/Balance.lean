import Parlance.Proofs.Running.Frame
import Parlance.Proofs.Session.History

/-!
Sessions between executions. Nothing is entered or carried there, every live scope is the global one
or pinned, and every pinned one is live, whatever the session was used for and however that ended.
-/

namespace Parlance.Session

/-- The arena is accounted for, and nothing is entered. -/
structure Outside (session : Session) : Prop where
  accounted : session.arena.Accounted
  stack_eq : session.arena.stack = []

section

variable {session : Session}

theorem outside_start (settings : Settings) : Outside (.ofSettings settings) :=
  ⟨Arena.empty_accounted, rfl⟩

theorem Outside.settled (outside : Outside session) : session.arena.Settled :=
  outside.accounted.settled outside.stack_eq

/-- A run that starts outside of every scope ends there, so leaving what is left does nothing. -/
theorem Outside.runIn (outside : Outside session) (around : Surroundings) (depth : Nat)
    (program : Program) : Outside (session.runIn around depth program).session := by
  have balanced := (Frame.balance_primitives around).keeps_run program depth
    (.ofArena session.arena)
  have ends : ∀ machine : Machine, Arena.Balanced session.arena machine.arena →
      ∀ result, Outside (session.executed result
        { machine with arena := { machine.arena with carried := [] } }).session := by
    intro machine kept result
    have accounted := kept.accounted outside.accounted
    have left : machine.arena.stack = [] := kept.stack_eq.trans outside.stack_eq
    -- nothing was carried any more, so forgetting what is carried forgets nothing
    have carried := (accounted.settled left).carried_eq
    refine ⟨?_, left⟩
    simp only [executed, ← carried]
    exact accounted
  cases result : program.run around depth (.ofArena session.arena) with
  | ok value machine =>
      rw [result] at balanced
      rw [runIn_ok result (balanced.stack_eq.trans outside.stack_eq)]
      exact ends machine balanced _
  | error failure machine =>
      rw [result] at balanced
      rw [runIn_error result (balanced.stack_eq.trans outside.stack_eq)]
      exact ends machine balanced _

theorem Outside.after (outside : Outside session) (deed : Deed) :
    Outside (session.after deed) := by
  have read : ∀ recoveries, Outside { session with recoveries } :=
    fun _ => ⟨outside.accounted, outside.stack_eq⟩
  apply after_keeps outside
  · intro name handler after _ result
    obtain ⟨modules, _, rfl⟩ := register_ok result
    exact ⟨outside.accounted, outside.stack_eq⟩
  · intro name
    exact ⟨outside.accounted, outside.stack_eq⟩
  · exact read
  · intro recoveries around depth program _
    exact (read recoveries).runIn around depth program
  · exact ⟨Arena.reset_accounted session.arena, rfl⟩

theorem outside_afterAll (settings : Settings) (deeds : List Deed) :
    Outside (afterAll settings deeds) :=
  afterAll_keeps (outside_start settings) fun _ outside deed _ => outside.after deed

end

/-- The discipline of the stack. Evaluating an expression, executing a statement and calling a
function end with the same scopes entered, in the same order, in whatever way they end; so between
executions nothing is entered or carried, and what is live is so for a reason. -/
theorem stack_disciplined :
    (∀ (around : Surroundings) (depth : Nat) (machine : Machine),
      (∀ expr, (Run.left ((Runner.ofDepth around depth).eval expr machine)).arena.stack =
        machine.arena.stack) ∧
      (∀ stmt, (Run.left ((Runner.ofDepth around depth).exec stmt machine)).arena.stack =
        machine.arena.stack) ∧
      ∀ function arguments,
        (Run.left ((Runner.ofDepth around depth).call function arguments machine)).arena.stack =
          machine.arena.stack) ∧
    ∀ (settings : Settings) (deeds : List Deed) (depth rounds : Nat) (source : String)
      (sourceName : Option String),
      ((afterAll settings deeds).executeWithin depth rounds source
        sourceName).session.arena.Settled := by
  constructor
  · intro around depth machine
    have keeps := (Frame.balance_primitives around).keeps_parts depth
    refine ⟨fun expr => ?_, fun stmt => ?_, fun function arguments => ?_⟩
    · exact (keeps.eval Set.univ [] expr machine).stack_eq
    · exact (keeps.exec Set.univ [] stmt machine).stack_eq
    · exact (keeps.call Set.univ [] function arguments (held_univ _) (held_univ _)
        machine).stack_eq
  · intro settings deeds depth rounds source sourceName
    exact ((outside_afterAll settings deeds).after (.execute depth rounds source
      sourceName)).settled

end Parlance.Session
