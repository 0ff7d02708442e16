import Parlance.Proofs.Reading.Program
import Parlance.Proofs.Running.Intact
import Parlance.Proofs.Session.History
import Parlance.Proofs.Token.Number

/-!
Lenient executions. Without strict settings every source is read as a program, and in whatever
state earlier executions left the session, the program runs to a value, or to the limit of steps,
or beyond every bound.
-/

namespace Parlance.Session

/-- Sessions that executions lead to; how far each of them was let go does not matter. -/
inductive Reached (settings : Settings) : Session → Prop
  | start : Reached settings (.ofSettings settings)
  | execute {session : Session} (before : Reached settings session) (depth rounds : Nat)
      (source : String) (sourceName : Option String) :
      Reached settings (session.executeWithin depth rounds source sourceName).session

def Concluded (settings : Settings) (result : Except Failure Value) : Prop :=
  (∃ value, result = .ok value) ∨
    0 < settings.maxSteps ∧ ∃ failure, result = .error failure ∧
      failure.cause = .stepLimit settings.maxSteps

/-- Within bounds that are wide enough an execution always concludes in the same way; within
narrower ones it does so too, or comes to its bounds. -/
def Concludes (settings : Settings) (session : Session) (source : String)
    (sourceName : Option String) : Prop :=
  ∃ execution, Concluded settings execution.result ∧
    (∀ depth rounds, session.executeWithin depth rounds source sourceName = execution ∨
      (session.executeWithin depth rounds source sourceName).result = .error (.of .unbounded)) ∧
    ∃ depth rounds, ∀ depth' rounds', depth ≤ depth' → rounds ≤ rounds' →
      session.executeWithin depth' rounds' source sourceName = execution

/-- The program nests, calls or goes round more often than any bound allows. -/
def Endless (session : Session) (source : String) (sourceName : Option String) : Prop :=
  ∀ depth rounds, (session.executeWithin depth rounds source sourceName).result =
    .error (.of .unbounded)

structure Ready (settings : Settings) (session : Session) : Prop where
  settings_eq : session.settings = settings
  unhosted : session.modules = .empty
  intact : ∃ known, session.arena.Intact known []

section

variable {settings : Settings} {session : Session}

theorem ready_start (settings : Settings) : Ready settings (.ofSettings settings) :=
  ⟨rfl, rfl, ∅, .empty⟩

theorem Ready.executed (ready : Ready settings session) {known : Set Nat} {machine : Machine}
    (intact : machine.arena.Intact known []) (result : Except Failure Value) :
    Ready settings (session.executed result
      { machine with arena := { machine.arena with carried := [] } }).session :=
  ⟨ready.settings_eq, ready.unhosted, known, intact.of_same rfl rfl rfl rfl⟩

/-- The only failure that two bounded runs share is the limit of steps. -/
theorem Ready.concluded (ready : Ready settings session) {failure : Failure} {rounds : Nat}
    {source sourceName : Option String}
    (shared : (Bond.bounded (session.surroundings .reclaim rounds source sourceName).budget).shared
      failure) :
    Concluded settings (.error failure) := by
  obtain ⟨limit, limited, cause⟩ := shared
  simp only [surroundings, ready.settings_eq] at limited
  split at limited
  · cases limited
  · rename_i some
    obtain rfl := Option.some.inj limited
    exact Or.inr ⟨Nat.pos_of_ne_zero some, failure, rfl, cause⟩

theorem Ready.run (ready : Ready settings session) (lenient : settings.strict = false)
    {depth depth' rounds rounds' : Nat} (deeper : depth ≤ depth') (longer : rounds ≤ rounds')
    (program : Program) (source sourceName : Option String) :
    let before := session.runWithin .reclaim depth rounds program source sourceName
    let after := session.runWithin .reclaim depth' rounds' program source sourceName
    Ready settings before.session ∧
      (before.result = .error (.of .unbounded) ∨
        Concluded settings before.result ∧ after = before) := by
  obtain ⟨known, intact⟩ := ready.intact
  let around := session.surroundings .reclaim rounds source sourceName
  have links :
      (Bond.bounded around.budget).comparison.Links around { around with rounds := rounds' } :=
    Bond.bounded_links (by simpa only [around, surroundings, ready.settings_eq] using lenient)
      (fun name => by simp only [around, surroundings, ready.unhosted]; rfl) rounds'
  have agree : (Bond.bounded around.budget).Agree known [] (program.run around depth)
      (program.run { around with rounds := rounds' } depth') :=
    Comparison.run_agree links (Bond.bounded_bounds longer) program depth depth'
      (Bond.bounded_bounds deeper) known
  -- the bounded run either stopped at its bounds, or it came to the end of the wider one
  have met := agree.meets (.ofArena session.arena) (.ofArena session.arena) ⟨rfl, intact⟩
  simp only [runWithin]
  cases result : program.run around depth (.ofArena session.arena) with
  | ok value machine =>
      rw [result] at met
      rcases met with parted | meets
      · exact nomatch parted.1.choose_spec.1
      · cases result' : program.run { around with rounds := rounds' } depth'
            (.ofArena session.arena) with
        | error _ _ => rw [result'] at meets; exact meets.elim
        | ok value' machine' =>
            rw [result'] at meets
            obtain ⟨rfl, more, _, ⟨rfl, intact⟩, _⟩ := meets
            have before := runIn_ok result intact.sound.stack_eq
            have after := runIn_ok result' intact.sound.stack_eq
            rw [before]
            exact ⟨ready.executed intact _, Or.inr ⟨Or.inl ⟨value, rfl⟩, after⟩⟩
  | error failure machine =>
      rw [result] at met
      rcases met with ⟨⟨_, same, rfl⟩, more, intact⟩ | meets
      · obtain rfl := Option.some.inj same
        rw [runIn_error result intact.sound.stack_eq]
        exact ⟨ready.executed intact _, Or.inl rfl⟩
      · cases result' : program.run { around with rounds := rounds' } depth'
            (.ofArena session.arena) with
        | ok _ _ => rw [result'] at meets; exact meets.elim
        | error failure' machine' =>
            rw [result'] at meets
            obtain ⟨rfl, shared, more, _, rfl, intact⟩ := meets
            have before := runIn_error result intact.sound.stack_eq
            have after := runIn_error result' intact.sound.stack_eq
            rw [before]
            exact ⟨ready.executed intact _, Or.inr ⟨ready.concluded shared, after⟩⟩

/-- Without strict settings every source is read as a program. -/
theorem Ready.read_ok (ready : Ready settings session) (lenient : settings.strict = false)
    (source : String) (sourceName : Option String) :
    ∃ program recoveries, session.read source sourceName = .ok (program, recoveries) := by
  obtain ⟨program, recoveries, result⟩ :=
    Program.ofTokens_lenient session.capabilities (Token.scan source)
  refine ⟨program, recoveries, ?_⟩
  simp [read, tokens, ready.settings_eq, lenient, Session.program, result, bind, Except.bind]

theorem Ready.executeWithin (ready : Ready settings session) (lenient : settings.strict = false)
    {depth depth' rounds rounds' : Nat} (deeper : depth ≤ depth') (longer : rounds ≤ rounds')
    (source : String) (sourceName : Option String) :
    let before := session.executeWithin depth rounds source sourceName
    let after := session.executeWithin depth' rounds' source sourceName
    Ready settings before.session ∧
      (before.result = .error (.of .unbounded) ∨
        Concluded settings before.result ∧ after = before) := by
  obtain ⟨program, recoveries, result⟩ := ready.read_ok lenient source sourceName
  have later : Ready settings { session with recoveries } :=
    ⟨ready.settings_eq, ready.unhosted, ready.intact⟩
  simp only [Session.executeWithin, parse, result]
  exact later.run lenient deeper longer program (some source) sourceName

theorem Reached.ready (lenient : settings.strict = false) (reached : Reached settings session) :
    Ready settings session := by
  induction reached with
  | start => exact ready_start settings
  | execute _ depth rounds source sourceName ih =>
      exact (ih.executeWithin lenient le_rfl le_rfl source sourceName).1

theorem Ready.concludes_or_endless (ready : Ready settings session)
    (lenient : settings.strict = false) (source : String) (sourceName : Option String) :
    Concludes settings session source sourceName ∨ Endless session source sourceName := by
  have step : ∀ depth depth' rounds rounds', depth ≤ depth' → rounds ≤ rounds' →
      (session.executeWithin depth rounds source sourceName).result = .error (.of .unbounded) ∨
        Concluded settings (session.executeWithin depth rounds source sourceName).result ∧
          session.executeWithin depth' rounds' source sourceName =
            session.executeWithin depth rounds source sourceName :=
    fun _ _ _ _ deeper longer =>
      (ready.executeWithin lenient deeper longer source sourceName).2
  by_cases endless : Endless session source sourceName
  · exact Or.inr endless
  · left
    simp only [Endless, not_forall] at endless
    obtain ⟨depth, rounds, ends⟩ := endless
    -- bounds that were not exceeded fix the execution, so all others are compared with it
    -- through the greater of the two
    have stable := fun depth' rounds' deeper longer =>
      (step depth depth' rounds rounds' deeper longer).resolve_left ends
    refine ⟨session.executeWithin depth rounds source sourceName,
      (stable depth rounds le_rfl le_rfl).1, ?_, depth, rounds,
      fun depth' rounds' deeper longer => (stable depth' rounds' deeper longer).2⟩
    intro depth' rounds'
    have wide := stable (max depth depth') (max rounds rounds') (le_max_left _ _) (le_max_left _ _)
    rcases step depth' (max depth depth') rounds' (max rounds rounds') (le_max_right _ _)
      (le_max_right _ _) with exceeds | ⟨_, same⟩
    · exact Or.inr exceeds
    · exact Or.inl (same.symm.trans wide.2)

end

/-- An execution without strict settings never fails but at the limit of steps, or because the
program itself goes on without bound: its source is read as a program, whose numbers have values,
and the program concludes or is endless. -/
theorem lenient_execution_concludes {settings : Settings} (lenient : settings.strict = false)
    {session : Session} (reached : Reached settings session) (source : String)
    (sourceName : Option String) :
    (∀ token ∈ Token.scan source, token.kind = .number →
        (Decimal.numeralValue? token.lexeme.toList).isSome = true) ∧
      (∃ program recoveries, session.read source sourceName = .ok (program, recoveries)) ∧
      (Concludes settings session source sourceName ∨ Endless session source sourceName) := by
  have ready := reached.ready lenient
  refine ⟨?_, ready.read_ok lenient source sourceName,
    ready.concludes_or_endless lenient source sourceName⟩
  intro token member number
  exact Token.numeral_of_scan source member number

/-- A second execution, of a source that breaks the grammar. -/
theorem lenient_execution_concludes_again :
    let session := ((ofSettings .standard).executeWithin depth rounds "let x = 1" none).session
    Settings.standard.strict = false ∧ Reached .standard session ∧
      (∃ program recoveries, session.read "say x else )" none = .ok (program, recoveries)) ∧
      (Concludes .standard session "say x else )" none ∨ Endless session "say x else )" none) :=
  ⟨rfl, .execute .start depth rounds "let x = 1" none,
    (lenient_execution_concludes rfl (.execute .start depth rounds "let x = 1" none) "say x else )"
      none).2⟩

end Parlance.Session
