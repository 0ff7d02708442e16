import Mathlib.Data.Nat.Pairing
import Parlance.Proofs.Session.Renewal

/-!
Executions of sources whose nodes are moved. Reading a source, moving the nodes of its program and
running it comes to what running the program in place does, up to the places; these show in events,
in functions and in the failures of nodes. Sources that are executed with their numbers marked at
all nodes of their programs do what they do otherwise, and tell besides which source a node is from.
-/

namespace Parlance

namespace Place

/-- The place with a mark, which its line holds besides. -/
def marked (mark : Nat) (place : Place) : Place := ⟨Nat.pair mark place.line, place.column⟩

def unmarked (place : Place) : Place := ⟨place.line.unpair.2, place.column⟩

theorem unmarked_marked (mark : Nat) : unmarked ∘ marked mark = id := by
  funext place
  simp [marked, unmarked]

theorem marked_injective {mark mark' : Nat} {place place' : Place}
    (same : place.marked mark = place'.marked mark') : mark = mark' ∧ place = place' := by
  obtain ⟨line, column⟩ := place
  obtain ⟨line', column'⟩ := place'
  simp only [marked, Place.mk.injEq, Nat.pair_eq_pair] at same
  obtain ⟨⟨rfl, rfl⟩, rfl⟩ := same
  exact ⟨rfl, rfl⟩

end Place

/-- A failure at a node of what is running, which quotes the source that is executed. -/
def Failure.quoting (source : Source) (cause : Cause) (place : Place) : Failure :=
  ⟨cause, some (.ofPlace place (some source.text) source.name)⟩

theorem Failure.quoting_injective {source : Source} {cause : Cause} {place place' : Place}
    (same : quoting source cause place = quoting source cause place') : place = place' := by
  simp only [quoting, Location.ofPlace, Location.find, Failure.mk.injEq, Option.some.injEq,
    Location.mk.injEq, Int.natCast_inj, true_and] at same
  obtain ⟨line, column⟩ := place
  obtain ⟨line', column'⟩ := place'
  exact (Place.mk.injEq ..).mpr ⟨same.1, same.2.1⟩

def Relabelling.ofPlaces (move : Place → Place) : Relabelling := ⟨id, move⟩

theorem Relabelling.ofPlaces_orderly (move : Place → Place) : (ofPlaces move).Orderly :=
  ⟨strictMono_id, rfl, fun _ _ => rfl⟩

theorem Registry.Blind.follows {registry : Registry} (blind : registry.Blind)
    (move : Place → Place) : registry.Follows (.ofPlaces move) :=
  fun entry member => blind entry member (.ofPlaces move) Function.injective_id

theorem Registry.Blind.genuine {registry : Registry} (blind : registry.Blind) : registry.Genuine :=
  Registry.ScopeBlind.genuine fun entry member => (blind entry member).scopeBlind

namespace Session

def executeMoved (depth rounds : Nat) (move : Place → Place) (session : Session)
    (source : Source) : Execution :=
  match session.parse source.text source.name with
  | (.ok program, session) =>
      session.runWithin .reclaim depth rounds (program.moved move) (some source.text) source.name
  | (.error failure, session) => ⟨.error failure, [], [], session⟩

/-- Executes sources one after another, each with its number marked at all nodes; they are numbered
from `mark` on. -/
def executeAllMarked (depth rounds mark : Nat) (session : Session) : List Source → List Execution
  | [] => []
  | source :: rest =>
      let execution := session.executeMoved depth rounds (Place.marked mark) source
      execution :: executeAllMarked depth rounds (mark + 1) execution.session rest

/-- The right one of two executions of a source is the left one with its nodes moved. -/
structure Execution.Moves (move : Place → Place) (source : Source) (left right : Execution) :
    Prop where
  events_eq : right.events = left.events.map (Event.relabel (.ofPlaces move))
  session_eq : right.session = left.session.relabel (.ofPlaces move)
  node : ∀ failure, right.result = .error failure → failure.cause.AtNode → ∃ place,
    left.result = .error (.quoting source failure.cause place) ∧
      failure = .quoting source failure.cause (move place)

section

variable {session : Session} {depth rounds : Nat} {source : Source}

theorem executeMoved_id :
    session.executeMoved depth rounds id source =
      session.executeWithin depth rounds source.text source.name := by
  unfold executeMoved executeWithin
  rcases session.parse source.text source.name with ⟨failure | program, read⟩
  · rfl
  · exact congrArg (read.runWithin .reclaim depth rounds · (some source.text) source.name)
      program.moved_id

theorem read_refused {text : String} {name : Option String} {failure : Failure}
    (refused : session.read text name = .error failure) :
    ∃ cause place named, failure = .quoting ⟨text, named⟩ cause place ∧
      ((∃ c, cause = .unexpectedCharacter c) ∨ ∃ flaw, cause = .flaw flaw) := by
  simp only [read, bind, Except.bind] at refused
  split at refused
  · rename_i scanned
    cases refused
    simp only [tokens] at scanned
    split at scanned
    · split at scanned <;> cases scanned
      exact ⟨_, _, none, rfl, Or.inl ⟨_, rfl⟩⟩
    · cases scanned
  · simp only [program] at refused
    split at refused <;> cases refused
    exact ⟨_, _, name, rfl, Or.inr ⟨_, rfl⟩⟩

theorem not_atNode_of_read {text : String} {name : Option String} {failure : Failure}
    (refused : session.read text name = .error failure) : ¬ failure.cause.AtNode := by
  obtain ⟨cause, place, named, rfl, ⟨c, rfl⟩ | ⟨flaw, rfl⟩⟩ := read_refused refused
  · exact id
  · exact id

theorem Preserved.executeMoved_moves (preserved : Preserved session) {move : Place → Place}
    (follows : session.modules.Follows (.ofPlaces move)) (depth rounds : Nat)
    (first : Place → Place) (source : Source) :
    (session.executeMoved depth rounds first source).Moves move source
      ((session.relabel (.ofPlaces move)).executeMoved depth rounds (move ∘ first) source) := by
  simp only [executeMoved, parse_relabel]
  simp only [parse]
  cases reads : session.read source.text source.name with
  | error failure =>
      -- a source that is refused is refused at the same place, but no node of it was ever run
      refine ⟨rfl, rfl, fun refused ended node => ?_⟩
      cases Except.error.inj ended
      exact absurd node (not_atNode_of_read reads)
  | ok read =>
      have reading : Preserved { session with recoveries := read.2 } :=
        ⟨preserved.genuine, preserved.intact⟩
      have mirrors := reading.runIn_mirrors (Relabelling.ofPlaces_orderly move)
        (({ session with recoveries := read.2 } : Session).surroundings .reclaim rounds
          (some source.text) source.name) rfl follows depth (read.1.moved first)
      rw [show (Relabelling.ofPlaces move).place = move from rfl, Program.moved_moved] at mirrors
      refine ⟨mirrors.events_eq, mirrors.session_eq, fun failure ended node => ?_⟩
      cases result : (({ session with recoveries := read.2 } : Session).runWithin .reclaim depth
          rounds (read.1.moved first) (some source.text) source.name).result with
      | ok value => cases (mirrors.values value result).symm.trans ended
      | error failed =>
          obtain ⟨failure', mirrored, ended'⟩ := mirrors.failures failed result
          cases Except.error.inj (ended'.symm.trans ended)
          obtain ⟨place, same, same'⟩ := mirrored.place_of_node node
          exact ⟨place, congrArg Except.error same, same'⟩

theorem executeMoved_left (session : Session) (depth rounds : Nat) (move : Place → Place)
    (source : Source) : ∃ recoveries arena,
      (session.executeMoved depth rounds move source).session =
        { session with recoveries, arena } := by
  simp only [executeMoved, parse]
  cases session.read source.text source.name with
  | error failure => exact ⟨session.recoveries, session.arena, rfl⟩
  | ok read =>
      obtain ⟨result, ended⟩ := runIn_left { session with recoveries := read.2 }
        (({ session with recoveries := read.2 } : Session).surroundings .reclaim rounds
          (some source.text) source.name) depth (read.1.moved move)
      simp only [runWithin, ended]
      exact ⟨read.2, _, rfl⟩

theorem Preserved.executeMoved (preserved : Preserved session) (move : Place → Place) :
    Preserved (session.executeMoved depth rounds move source).session := by
  simp only [Session.executeMoved, parse]
  cases session.read source.text source.name with
  | error failure => exact preserved
  | ok read =>
      have reading : Preserved { session with recoveries := read.2 } :=
        ⟨preserved.genuine, preserved.intact⟩
      exact reading.runIn rfl depth (read.1.moved move)

theorem executeMoved_congr {first second : Place → Place}
    (agree : ∀ program, (session.parse source.text source.name).1 = .ok program →
      program.moved first = program.moved second) :
    session.executeMoved depth rounds first source =
      session.executeMoved depth rounds second source := by
  simp only [executeMoved]
  simp only [parse] at agree ⊢
  cases reads : session.read source.text source.name with
  | error failure => rfl
  | ok read =>
      rw [reads] at agree
      simp only [agree read.1 rfl]

end

end Session

end Parlance
