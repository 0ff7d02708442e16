import Parlance.Evaluation
import Parlance.Grammar.Statement
import Parlance.Token.Scan

/-!
Sessions. A session keeps what programs leave behind for those that follow: the arena with the
global scope, the registered modules, and the recoveries of the last program that was read.
-/

namespace Parlance

structure Session where
  settings : Settings
  modules : Registry
  arena : Arena
  recoveries : List Grammar.Recovery

instance : Inhabited Session := ⟨⟨.standard, .empty, .empty, []⟩⟩

namespace Session

def depth : Nat := 1000

def rounds : Nat := Decimal.tenTo 18

def ofSettings (settings : Settings) : Session := ⟨settings, .empty, .empty, []⟩

def register (name : String) (handler : Option Handler) (session : Session) :
    Except Registry.Error Session :=
  (session.modules.register name handler).map fun modules => { session with modules }

def unregister (name : String) (session : Session) : Session :=
  { session with modules := session.modules.unregister name }

/-- The names that programs may call implicitly: those of the settings and every module. -/
def capabilities (session : Session) : Capabilities :=
  session.settings.capabilities.withModules session.modules.names

/-- The tokens of a source; under strict settings the first junk refuses it. -/
def tokens (strict : Bool) (source : String) : Except Failure (List Token) :=
  if strict then
    match Token.scanStrict source with
    | .ok tokens => .ok tokens
    | .error (c, place) =>
        .error ⟨.unexpectedCharacter c, some (.ofPlace place (some source) none)⟩
  else .ok (Token.scan source)

/-- The program of a list of tokens; `source` is the text that a failure quotes. -/
def program (mode : Grammar.Mode) (source sourceName : Option String) (tokens : List Token) :
    Except Failure (Program × List Grammar.Recovery) :=
  match Program.ofTokens mode tokens with
  | .ok read => .ok read
  | .error flawed =>
      .error ⟨.flaw flawed.flaw, some (.ofPlace flawed.place source sourceName)⟩

def read (session : Session) (source : String) (sourceName : Option String) :
    Except Failure (Program × List Grammar.Recovery) := do
  let tokens ← tokens session.settings.strict source
  program ⟨session.settings.strict, session.capabilities⟩ (some source) sourceName tokens

/-- Reads a source; a program that was read leaves its recoveries in the session. -/
def parse (session : Session) (source : String) (sourceName : Option String) :
    Except Failure Program × Session :=
  match session.read source sourceName with
  | .ok (program, recoveries) => (.ok program, { session with recoveries })
  | .error failure => (.error failure, session)

/-- What came of an execution: its result, what happened in order, the calls that missed the scope
they captured, and the session after it. -/
structure Execution where
  result : Except Failure Value
  events : List Event
  strays : List String
  session : Session

def executed (session : Session) (result : Except Failure Value) (machine : Machine) : Execution :=
  ⟨result, machine.events, machine.strays.reverse, { session with arena := machine.arena }⟩

def surroundings (session : Session) (upkeep : Arena.Upkeep) (rounds : Nat)
    (source sourceName : Option String) : Surroundings where
  settings := session.settings
  modules := session.modules
  budget := if session.settings.maxSteps = 0 then none else some session.settings.maxSteps
  source
  sourceName
  upkeep
  rounds

/-- Runs a program in the surroundings given and leaves every scope that it is still in. -/
def runIn (session : Session) (around : Surroundings) (depth : Nat) (program : Program) :
    Execution :=
  let unwind := Run.onArena (Arena.unwind around.upkeep)
  match program.run around depth (.ofArena session.arena) with
  | .ok value machine =>
      match unwind machine with
      | .ok _ machine => session.executed (.ok value) machine
      | .error failure machine => session.executed (.error failure) machine
  | .error failure machine =>
      match unwind machine with
      | .ok _ machine => session.executed (.error failure) machine
      | .error failure machine => session.executed (.error failure) machine

/-- Runs a program that was read, within bounds on its depth and its rounds. -/
def runWithin (session : Session) (upkeep : Arena.Upkeep) (depth rounds : Nat) (program : Program)
    (source sourceName : Option String) : Execution :=
  session.runIn (session.surroundings upkeep rounds source sourceName) depth program

def run (session : Session) (program : Program) (source sourceName : Option String) :
    Execution :=
  session.runWithin .reclaim depth rounds program source sourceName

/-- Reads a source and runs it, within bounds on its depth and its rounds. -/
def executeWithin (session : Session) (depth rounds : Nat) (source : String)
    (sourceName : Option String) : Execution :=
  match session.parse source sourceName with
  | (.ok program, session) =>
      session.runWithin .reclaim depth rounds program (some source) sourceName
  | (.error failure, session) => ⟨.error failure, [], [], session⟩

def execute (session : Session) (source : String) (sourceName : Option String) : Execution :=
  session.executeWithin depth rounds source sourceName

/-- Forgets all bindings and recoveries; settings and modules stay. -/
def reset (session : Session) : Session :=
  { session with arena := session.arena.reset, recoveries := [] }

/-- Reads a source leniently and runs it under a limit of its own, without a text to quote. -/
def trace (session : Session) (source : String) (limit : Nat) : Execution :=
  match program ⟨false, session.capabilities⟩ none none (Token.scan source) with
  | .error failure => ⟨.error failure, [], [], session⟩
  | .ok (program, _) =>
      let around := { session.surroundings .reclaim rounds none none with budget := some limit }
      match program.run around depth (.ofArena session.arena) with
      | .ok value machine => session.executed (.ok value) machine
      | .error failure machine => session.executed (.error failure) machine

end Session

end Parlance
