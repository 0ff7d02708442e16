import Parlance.Proofs.Reading.Program
import Parlance.Proofs.Running.Restriction
import Parlance.Proofs.Session.History

/-!
Strict sessions beside lenient ones. What a lenient reader drops from a text, and the recoveries it
makes on the tokens, say where a strict reader stops: at the first of them. What a strict session
does a lenient one does too, as far as the strict one goes.
-/

namespace Parlance.Session

/-! ### Readers -/

/-- The result is a failure with this cause, and its report shows this place. -/
def FailsAt {α : Type} (result : Except Failure α) (cause : Cause) (place : Place) : Prop :=
  ∃ location, result = .error ⟨cause, some location⟩ ∧
    location.line = place.line ∧ location.column = place.column

/-- The result is the program, unless recoveries are noted: then it is a failure at the first. -/
def RefusesFirst (result : Except Failure (Program × List Grammar.Recovery)) (program : Program) :
    List Grammar.Recovery → Prop
  | [] => result = .ok (program, [])
  | first :: _ => FailsAt result (.flaw first.flaw) first.place

theorem tokens_strict (source : String) :
    match Token.junk source with
    | [] => tokens true source = tokens false source
    | (c, place) :: _ => FailsAt (tokens true source) (.unexpectedCharacter c) place := by
  cases dropped : Token.junk source with
  | nil => simp [tokens, Token.scanStrict_eq, dropped]
  | cons first rest =>
      refine ⟨.ofPlace first.2 (some source) none, ?_, rfl, rfl⟩
      simp [tokens, Token.scanStrict_eq, dropped]

theorem program_strict {capabilities : Capabilities} {tokens : List Token} {program : Program}
    {noted : List Grammar.Recovery}
    (lenient : Program.ofTokens ⟨false, capabilities⟩ tokens = .ok (program, noted))
    (source sourceName : Option String) :
    RefusesFirst (Session.program ⟨true, capabilities⟩ source sourceName tokens) program noted := by
  have strict := Program.ofTokens_strict lenient
  cases noted with
  | nil => simp [RefusesFirst, Session.program, strict]
  | cons first rest =>
      refine ⟨.ofPlace first.place source sourceName, ?_, rfl, rfl⟩
      simp [Session.program, strict]

/-- A strict front end refuses a text at the first character that a lenient one drops, and its
tokens at the first recovery that a lenient one makes; where there is neither, the two read the
same tokens and the same program. -/
theorem front_ends_agree (capabilities : Capabilities) (source : String)
    (sourceName : Option String) :
    match Token.junk source with
    | (c, place) :: _ => FailsAt (tokens true source) (.unexpectedCharacter c) place
    | [] =>
        ∃ read program noted, tokens false source = .ok read ∧ tokens true source = .ok read ∧
          Session.program ⟨false, capabilities⟩ (some source) sourceName read =
            .ok (program, noted) ∧
          RefusesFirst (Session.program ⟨true, capabilities⟩ (some source) sourceName read)
            program noted := by
  have scanned := tokens_strict source
  cases dropped : Token.junk source with
  | cons first rest =>
      rw [dropped] at scanned
      exact scanned
  | nil =>
      rw [dropped] at scanned
      obtain ⟨program, noted, lenient⟩ :=
        Program.ofTokens_lenient capabilities (Token.scan source)
      refine ⟨Token.scan source, program, noted, rfl, scanned, ?_, program_strict lenient _ _⟩
      simp [Session.program, lenient]

/-! ### Executions -/

def withStrict (strict : Bool) (session : Session) : Session :=
  { session with settings := session.settings.withStrict strict }

def Execution.lines (execution : Execution) : List String :=
  execution.events.filterMap Event.line?

/-- What a strict execution shows, a lenient one shows too: the whole of it where it ends with a
value, and where it fails what it did up to there. -/
structure Execution.Restricts (strict lenient : Execution) : Prop where
  whole : ∀ value, strict.result = .ok value →
    lenient.result = .ok value ∧ lenient.events = strict.events ∧
      lenient.strays = strict.strays ∧ lenient.session = strict.session.withStrict false
  partway : ∀ failure, strict.result = .error failure →
    strict.events <+: lenient.events ∧ strict.lines <+: lenient.lines

theorem Execution.Restricts.lines_eq {strict lenient : Execution}
    (restricts : strict.Restricts lenient) {value : Value} (result : strict.result = .ok value) :
    lenient.lines = strict.lines :=
  congrArg (List.filterMap Event.line?) (restricts.whole value result).2.1

theorem restricts_of_prefix {strict lenient : Execution} {failure : Failure}
    (fails : strict.result = .error failure) (short : strict.events <+: lenient.events) :
    strict.Restricts lenient where
  whole value ended := by simp [fails] at ended
  partway _ _ := ⟨short, short.filterMap Event.line?⟩

theorem finish_restricts (session : Session) (upkeep : Arena.Upkeep) (value : Value)
    (machine : Machine) :
    ((session.withStrict true).finish upkeep value machine).Restricts
      ((session.withStrict false).finish upkeep value machine) := by
  simp only [finish]
  cases Run.onArena (Arena.unwind upkeep) machine with
  | ok _ last =>
      refine ⟨fun value ended => ⟨ended, rfl, rfl, rfl⟩, fun failure ended => ?_⟩
      cases ended
  | error failure last => exact restricts_of_prefix rfl (List.prefix_refl _)

theorem runIn_restricts (session : Session) {around : Surroundings}
    (relays : around.modules.Relays) (depth : Nat) (program : Program) :
    ((session.withStrict true).runIn (around.withStrict true) depth program).Restricts
      ((session.withStrict false).runIn (around.withStrict false) depth program) := by
  have within := (around.restricts_run relays program depth).within (.ofArena session.arena)
  cases result : program.run (around.withStrict true) depth (.ofArena session.arena) with
  | ok value after =>
      rw [result] at within
      have strict : (session.withStrict true).runIn (around.withStrict true) depth program =
          (session.withStrict true).finish around.upkeep value after := runIn_finish result
      have lenient : (session.withStrict false).runIn (around.withStrict false) depth program =
          (session.withStrict false).finish around.upkeep value after := runIn_finish within
      rw [strict, lenient]
      exact finish_restricts session around.upkeep value after
  | error failure after =>
      rw [result] at within
      obtain ⟨other, fails⟩ : ∃ other,
          ((session.withStrict true).runIn (around.withStrict true) depth program).result =
            .error other := runIn_fails result
      refine restricts_of_prefix fails ?_
      rw [events_runIn, events_runIn, List.reverse_prefix]
      exact (congrArg (fun last => (Run.left last).journal) result).symm ▸ within

/-- What a strict session reads, a lenient one reads without a recovery. -/
theorem read_lenient {session : Session} {source : String} {sourceName : Option String}
    {program : Program} {recoveries : List Grammar.Recovery}
    (strict : (session.withStrict true).read source sourceName = .ok (program, recoveries)) :
    recoveries = [] ∧
      (session.withStrict false).read source sourceName = .ok (program, []) := by
  have scanned := tokens_strict source
  change (tokens true source >>= fun read =>
    Session.program ⟨true, session.capabilities⟩ (some source) sourceName read) = _ at strict
  cases dropped : Token.junk source with
  | cons first rest =>
      rw [dropped] at scanned
      -- the strict session would have refused the text for this character
      obtain ⟨location, refused, _⟩ := scanned
      rw [refused] at strict
      cases strict
  | nil =>
      rw [dropped] at scanned
      rw [show tokens true source = .ok (Token.scan source) from scanned] at strict
      have read : Session.program ⟨true, session.capabilities⟩ (some source) sourceName
          (Token.scan source) = .ok (program, recoveries) := strict
      obtain ⟨other, noted, lenient⟩ :=
        Program.ofTokens_lenient session.capabilities (Token.scan source)
      have refuses := program_strict lenient (some source) sourceName
      cases noted with
      | cons first rest =>
          -- and its tokens for this recovery
          obtain ⟨location, refused, _⟩ := refuses
          rw [refused] at read
          cases read
      | nil =>
          rw [show Session.program _ _ _ _ = .ok (other, []) from refuses] at read
          cases read
          refine ⟨rfl, ?_⟩
          change (tokens false source >>= fun read =>
            Session.program ⟨false, session.capabilities⟩ (some source) sourceName read) = _
          simp [tokens, Session.program, lenient, bind, Except.bind]

theorem ok_of_isOk {ε α : Type} {result : Except ε α} (ok : result.isOk = true) :
    ∃ a, result = .ok a := by
  cases result with
  | error error => cases ok
  | ok a => exact ⟨a, rfl⟩

def handingLapse : String := "act f \x7b say 'on' give y \x7d say net.go(f)"

def lapsing (handler : Handler) : Session :=
  { ofSettings .standard with modules := ⟨[("net", ⟨0, handler⟩)], 1⟩ }

def lapsed (handler : Handler) (strict : Bool) : Execution :=
  ((lapsing handler).withStrict strict).executeWithin 8 0 handingLapse none

def catching : Handler := fun request =>
  match request.arguments with
  | [] => .give .null
  | function :: arguments =>
      .attempt function arguments (fun _ => .give (.text "fine")) fun _ => .give (.text "caught")

end Parlance.Session
