import Parlance.Proofs.Running.Reclaiming
import Parlance.Proofs.Session.History

/-!
Giving up scopes and what can be seen of it. Programs run one after another in a session whose
arena reclaims scopes, and in one whose arena retains every scope once pinned. The second never
misses a scope, and the first is told from it by nothing, unless a call misses its scope.
-/

namespace Parlance.Session

/-- A program as it is handed to a session. -/
structure Submission where
  program : Program
  source : Option String
  sourceName : Option String

/-- What can be seen of an execution: how it ended, the lines it emitted, the calls that missed
the scope they captured, and the global bindings behind it. -/
structure Sight where
  result : Except Failure Value
  lines : List String
  strays : List String
  globals : Bindings

def Execution.sight (execution : Execution) : Sight :=
  ⟨execution.result, execution.events.filterMap Event.line?, execution.strays,
    execution.session.arena.globals⟩

def runAll (upkeep : Arena.Upkeep) (depth rounds : Nat) (session : Session) :
    List Submission → List Execution
  | [] => []
  | submission :: rest =>
      let execution := session.runWithin upkeep depth rounds submission.program submission.source
        submission.sourceName
      execution :: runAll upkeep depth rounds execution.session rest

/-- Two sessions without modules whose arenas belong together. -/
structure Alike (upkeep : Arena.Upkeep) (left right : Session) : Prop where
  settings : right.settings = left.settings
  modules : right.modules = left.modules
  unhosted : ∀ name, left.modules.has name = false
  covers : ∃ known, Arena.Covers upkeep known [] left.arena right.arena

section

variable {upkeep : Arena.Upkeep} {left right : Session}

theorem alike_start (upkeep : Arena.Upkeep) (settings : Settings) :
    Alike upkeep (ofSettings settings) (ofSettings settings) :=
  ⟨rfl, rfl, fun _ => rfl, ∅, .empty upkeep⟩

theorem Alike.executed (alike : Alike upkeep left right) {known : Set Nat}
    {machine machine' : Machine} (joined : (Bond.reclaimed upkeep).joined known [] machine machine')
    (result : Except Failure Value) :
    let before := left.executed result
      { machine with arena := { machine.arena with carried := [] } }
    let after := right.executed result
      { machine' with arena := { machine'.arena with carried := [] } }
    before.sight = after.sight ∧ before.strays = [] ∧
      Alike upkeep before.session after.session := by
  obtain ⟨_, journal, strays, strays', covers⟩ := joined
  refine ⟨?_, ?_, alike.settings, alike.modules, alike.unhosted, known, ?_⟩
  · simp [Session.executed, Execution.sight, Machine.events, journal, strays, strays',
      Arena.globals]
    exact covers.globals_eq
  · simp [Session.executed, strays]
  · exact covers.of_same (covers.left_sound.of_same rfl rfl rfl rfl)
      (covers.right_sound.of_same rfl rfl rfl rfl) rfl rfl rfl rfl rfl rfl

theorem Alike.run (alike : Alike upkeep left right) (depth rounds : Nat) (program : Program)
    (source sourceName : Option String) :
    let before := left.runWithin upkeep depth rounds program source sourceName
    let after := right.runWithin .retain depth rounds program source sourceName
    (upkeep = .reclaim ∧ before.strays ≠ []) ∨
      (before.sight = after.sight ∧ before.strays = [] ∧
        Alike upkeep before.session after.session) := by
  obtain ⟨known, covers⟩ := alike.covers
  let around := left.surroundings upkeep rounds source sourceName
  have retains : right.surroundings .retain rounds source sourceName =
      { around with upkeep := .retain } := by
    simp [around, surroundings, alike.settings, alike.modules]
  have links :
      (Bond.reclaimed around.upkeep).comparison.Links around { around with upkeep := .retain } :=
    Bond.reclaimed_links alike.unhosted
  have agrees : (Bond.reclaimed around.upkeep).Agree known [] (program.run around depth)
      (program.run { around with upkeep := .retain } depth) :=
    Comparison.run_agree links (Bond.reclaimed_bounds rounds) program depth depth
      (Bond.reclaimed_bounds depth) known
  simp only [runWithin, retains]
  -- the runs part only where a call misses its scope, and then there are strays
  rcases agrees.meets (.ofArena left.arena) (.ofArena right.arena) ⟨rfl, rfl, rfl, rfl, covers⟩ with
    parted | meets
  · left
    rw [Bond.reclaimed_parted] at parted
    rw [strays_runIn]
    exact ⟨parted.1, by simpa using parted.2⟩
  · right
    cases result : program.run around depth (.ofArena left.arena) with
    | ok value machine =>
        cases result' : program.run { around with upkeep := .retain } depth
            (.ofArena right.arena) with
        | error _ _ => rw [result, result'] at meets; exact meets.elim
        | ok value' machine' =>
            rw [result, result'] at meets
            obtain ⟨rfl, more, _, joined, _⟩ := meets
            have covers := joined.2.2.2.2
            rw [runIn_ok result covers.left_sound.stack_eq,
              runIn_ok result' covers.right_sound.stack_eq]
            exact alike.executed joined (.ok value)
    | error failure machine =>
        cases result' : program.run { around with upkeep := .retain } depth
            (.ofArena right.arena) with
        | ok _ _ => rw [result, result'] at meets; exact meets.elim
        | error failure' machine' =>
            rw [result, result'] at meets
            obtain ⟨rfl, _, more, _, joined⟩ := meets
            have covers := joined.2.2.2.2
            rw [runIn_error result covers.left_sound.stack_eq,
              runIn_error result' covers.right_sound.stack_eq]
            exact alike.executed joined (.error failure)

theorem Alike.runAll_iff (alike : Alike .reclaim left right) (retained : Alike .retain right right)
    (depth rounds : Nat) (submissions : List Submission) :
    (left.runAll .reclaim depth rounds submissions).map Execution.sight =
        (right.runAll .retain depth rounds submissions).map Execution.sight ↔
      ∀ execution ∈ left.runAll .reclaim depth rounds submissions, execution.strays = [] := by
  induction submissions generalizing left right with
  | nil => simp [runAll]
  | cons submission rest ih =>
      have never :=
        retained.run depth rounds submission.program submission.source submission.sourceName
      have kept := never.resolve_left fun reclaims => nomatch reclaims.1
      simp only [runAll, List.map_cons, List.cons.injEq, List.forall_mem_cons]
      -- a submission that misses a scope is told by its strays, and any other leaves alike sessions
      rcases alike.run depth rounds submission.program submission.source submission.sourceName with
        ⟨_, missed⟩ | ⟨same, found, later⟩
      · constructor
        · rintro ⟨same, _⟩
          exact absurd ((congrArg Sight.strays same).trans kept.2.1) missed
        · rintro ⟨found, _⟩
          exact absurd found missed
      · rw [ih later kept.2.2]
        exact ⟨fun both => ⟨found, both.2⟩, fun both => ⟨same, both.2⟩⟩

end

/-- Reclaiming scopes cannot be seen exactly when no call misses the scope it captured. -/
theorem reclaiming_unseen_iff (settings : Settings) (depth rounds : Nat)
    (submissions : List Submission) :
    ((ofSettings settings).runAll .reclaim depth rounds submissions).map Execution.sight =
        ((ofSettings settings).runAll .retain depth rounds submissions).map Execution.sight ↔
      ∀ execution ∈ (ofSettings settings).runAll .reclaim depth rounds submissions,
        execution.strays = [] :=
  (alike_start .reclaim settings).runAll_iff (alike_start .retain settings) depth rounds submissions

/-- A function that calls itself within the scope it captured, while it waits as an argument:

    function maker() { let n = "kept"; function getn(again) { if again { set f = void;
      call getn(false) }; return n }; return getn }
    let f = call maker()
    function ask(h, x) { return call h(false) }
    say call ask(f, call f(true))

The inner call takes away the note that keeps the scope for the outer one. -/
def reentering : Program :=
  [.define (some "maker") none []
      [.declare "n" (some (.literal (.text "kept") ⟨1, 28⟩)) ⟨1, 20⟩,
        .define (some "getn") none [⟨"again", ⟨1, 50⟩⟩]
          [.conditional (.ident "again" ⟨1, 62⟩)
              [.assign "f" (.literal .void ⟨1, 78⟩) ⟨1, 70⟩,
                .expression (.call "getn" none [.literal (.boolean false) ⟨2, 13⟩] ⟨2, 8⟩)]
              ⟨1, 68⟩ .absent ⟨1, 59⟩,
            .giveBack (some (.ident "n" ⟨2, 30⟩)) ⟨2, 23⟩]
          ⟨1, 57⟩ ⟨1, 36⟩,
        .giveBack (some (.ident "getn" ⟨2, 42⟩)) ⟨2, 35⟩]
      ⟨1, 18⟩ ⟨1, 1⟩,
    .declare "f" (some (.call "maker" none [] ⟨3, 14⟩)) ⟨3, 1⟩,
    .define (some "ask") none [⟨"h", ⟨4, 14⟩⟩, ⟨"x", ⟨4, 17⟩⟩]
      [.giveBack (some (.call "h" none [.literal (.boolean false) ⟨4, 36⟩] ⟨4, 34⟩)) ⟨4, 22⟩]
      ⟨4, 20⟩ ⟨4, 1⟩,
    .output (some (.call "ask" none [.ident "f" ⟨5, 14⟩,
      .call "f" none [.literal (.boolean true) ⟨5, 24⟩] ⟨5, 22⟩] ⟨5, 10⟩, none)) ⟨5, 1⟩]

/-- The waiting function finds its scope where scopes are retained, and not where they are
reclaimed. -/
theorem reentering_seen :
    ((ofSettings .standard).runAll .reclaim depth rounds [⟨reentering, none, none⟩]).map
        (fun execution => (execution.sight.lines, execution.sight.strays)) =
        [([""], ["getn"])] ∧
      ((ofSettings .standard).runAll .retain depth rounds [⟨reentering, none, none⟩]).map
        (fun execution => (execution.sight.lines, execution.sight.strays)) =
        [(["kept"], [])] := by
  decide +kernel

end Parlance.Session
