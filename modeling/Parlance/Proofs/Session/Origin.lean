import Parlance.Proofs.Session.Marking
import Parlance.Proofs.Text.Rows

/-!
Where failures point. A function may be called long after the source that defined it was executed,
by a program that was read from another; the nodes in its body know their places, but not the source
they are from. With the sources marked it turns out that a failure at a node names the place of the
node in the source that is running, so it points into the source of the node just if that has the
same name and the same line there.
-/

namespace Parlance

def Source.lineAt (source : Source) (place : Place) : String :=
  match place.line with
  | 0 => ""
  | line + 1 => (Text.lines source.text)[line]?.getD ""

/-- The row that a place lies in. -/
def Source.rowAt (source : Source) (place : Place) : String :=
  match place.line with
  | 0 => ""
  | line + 1 => (Text.rows source.text)[line]?.getD ""

theorem Source.lineAt_eq_rowAt {source : Source} (feeds : Text.feedsOnly source.text.toList = true)
    (place : Place) : source.lineAt place = source.rowAt place := by
  simp only [lineAt, rowAt]
  cases place.line with
  | zero => rfl
  | succ line => exact Text.line_eq_row feeds line

namespace Location

/-- The location names a source and a place in it, and shows the row of the place. -/
structure PointsInto (location : Location) (source : Source) (place : Place) : Prop where
  line_eq : location.line = place.line
  column_eq : location.column = place.column
  name_eq : location.sourceName = source.name
  row_eq : location.snippet.getD "" = source.rowAt place

theorem snippet_ofPlace (source : Source) (place : Place) :
    (ofPlace place (some source.text) source.name).snippet.getD "" = source.lineAt place := by
  obtain ⟨line, column⟩ := place
  cases line with
  | zero => rfl
  | succ line =>
      have index : (((line + 1 : Nat) : Int) - 1).toNat = line := by omega
      simp only [ofPlace, find, Source.lineAt, index, Option.bind_some]
      rw [if_pos (by omega)]

/-- A location in the running source points into another just if it is called the same there and
the line at the place is the same. -/
theorem ofPlace_pointsInto_iff (running origin : Source) (place : Place) :
    (ofPlace place (some running.text) running.name).PointsInto origin place ↔
      running.name = origin.name ∧ running.lineAt place = origin.rowAt place := by
  rw [← snippet_ofPlace]
  exact ⟨fun points => ⟨points.name_eq, points.row_eq⟩, fun same => ⟨rfl, rfl, same.1, same.2⟩⟩

end Location

namespace Session

/-! ### The sources of nodes -/

/-- A source of that number has a node at the place. -/
structure Origin (start : Session) (sources : List Source) (mark : Nat) (source : Source)
    (place : Place) : Prop where
  numbered : sources[mark]? = some source
  node : ∃ program, (start.parse source.text source.name).1 = .ok program ∧ place ∈ program.places

/-- A move leaves the marked nodes of sources where they are. -/
def Fixes (start : Session) (sources : List Source) (move : Place → Place) : Prop :=
  ∀ mark source place, Origin start sources mark source place →
    move (place.marked mark) = place.marked mark

/-- Nothing in the session but nodes of sources that were executed, with their marks. -/
structure Tracked (start : Session) (done : List Source) (session : Session) : Prop where
  settings_eq : session.settings = start.settings
  modules_eq : session.modules = start.modules
  preserved : Preserved session
  fixed : ∀ move, Fixes start done move → session.relabel (.ofPlaces move) = session

section

variable {start session : Session} {done : List Source} {depth rounds : Nat} {source : Source}

theorem Fixes.before {move : Place → Place} (fixes : Fixes start (done ++ [source]) move) :
    Fixes start done move := by
  intro mark other place origin
  have earlier : mark < done.length := (List.getElem?_eq_some_iff.mp origin.numbered).1
  exact fixes mark other place
    ⟨(List.getElem?_append_left earlier).trans origin.numbered, origin.node⟩

theorem Tracked.parse_eq (tracked : Tracked start done session) (text : String)
    (name : Option String) : (session.parse text name).1 = (start.parse text name).1 := by
  have same : session.read text name = start.read text name := by
    simp only [read, capabilities, tracked.settings_eq, tracked.modules_eq]
  simp only [parse, same]
  cases start.read text name <;> rfl

theorem Tracked.follows (tracked : Tracked start done session) (blind : start.modules.Blind)
    (move : Place → Place) : session.modules.Follows (.ofPlaces move) :=
  tracked.modules_eq ▸ blind.follows move

/-- An execution is its own mirror under a move that fixes all nodes there are. -/
theorem Tracked.moves_itself (tracked : Tracked start done session) (blind : start.modules.Blind)
    {move : Place → Place} (fixes : Fixes start (done ++ [source]) move) :
    let execution := session.executeMoved depth rounds (Place.marked done.length) source
    execution.Moves move source execution := by
  intro execution
  have moves := tracked.preserved.executeMoved_moves (tracked.follows blind move) depth rounds
    (Place.marked done.length) source
  -- the nodes of this program are marked with the number of the source, and so among those fixed
  have same : session.executeMoved depth rounds (move ∘ Place.marked done.length) source =
      execution := by
    refine executeMoved_congr fun program reads => ?_
    rw [← Program.moved_moved]
    refine Program.moved_of_fixed _ fun place member => ?_
    rw [Program.places_moved] at member
    obtain ⟨inner, here, rfl⟩ := List.mem_map.mp member
    exact fixes done.length source inner
      ⟨List.getElem?_concat_length, program, tracked.parse_eq _ _ ▸ reads, here⟩
  rwa [tracked.fixed move fixes.before, same] at moves

theorem Tracked.next (tracked : Tracked start done session) (blind : start.modules.Blind) :
    Tracked start (done ++ [source])
      (session.executeMoved depth rounds (Place.marked done.length) source).session := by
  obtain ⟨recoveries, arena, left⟩ :=
    executeMoved_left session depth rounds (Place.marked done.length) source
  exact {
    settings_eq := (congrArg Session.settings left).trans tracked.settings_eq
    modules_eq := (congrArg Session.modules left).trans tracked.modules_eq
    preserved := tracked.preserved.executeMoved _
    fixed := fun move fixes => (tracked.moves_itself blind fixes).session_eq.symm }

/-- A failing node is one of a source that was executed. Were it none, it could be moved, and the
failure would name another place of the same execution. -/
theorem Tracked.origin_of_node (tracked : Tracked start done session)
    (blind : start.modules.Blind) {cause : Cause} {place : Place} (node : cause.AtNode)
    (failed : (session.executeMoved depth rounds (Place.marked done.length) source).result =
      .error (.quoting source cause place)) :
    ∃ mark origin inner, Origin start (done ++ [source]) mark origin inner ∧
      place = inner.marked mark := by
  by_contra none
  let aside : Place := ⟨place.line, place.column + 1⟩
  let move : Place → Place := fun other => if other = place then aside else other
  have fixes : Fixes start (done ++ [source]) move := by
    intro mark origin inner here
    refine if_neg fun same => none ⟨mark, origin, inner, here, same.symm⟩
  -- the execution is its own mirror, so the place that it names is one that does not move
  obtain ⟨place', failed', same⟩ := (tracked.moves_itself blind fixes).node _ failed node
  have stays : place' = place :=
    Failure.quoting_injective (Except.error.inj (failed'.symm.trans failed))
  have moved : place = move place := Failure.quoting_injective (stays ▸ same)
  have column : place.column = place.column + 1 := by
    conv_lhs => rw [moved, show move place = aside from if_pos rfl]
  exact Nat.succ_ne_self _ column.symm

theorem tracked_unused (settings : Settings) {modules : Registry} (blind : modules.Blind) :
    Tracked (unused settings modules) [] (unused settings modules) where
  settings_eq := rfl
  modules_eq := rfl
  preserved := preserved_unused settings blind.genuine
  fixed move _ := by
    have empty := Arena.relabel_empty (Relabelling.ofPlaces_orderly move) 1
    exact congrArg (Session.mk settings modules · []) empty

/-- Each execution is the one with marks, once these are taken off. -/
theorem Tracked.at (tracked : Tracked start done session) (blind : start.modules.Blind)
    {sources : List Source} {index : Nat} {execution : Execution}
    (found :
      (executeAll depth rounds (session.relabel (.ofPlaces Place.unmarked)) sources)[index]? =
        some execution) :
    ∃ running before, sources[index]? = some running ∧
      Tracked start (done ++ sources.take index) before ∧
      let marked := before.executeMoved depth rounds
        (Place.marked (done ++ sources.take index).length) running
      (executeAllMarked depth rounds done.length session sources)[index]? = some marked ∧
        marked.Moves Place.unmarked running execution := by
  -- along the sources: the sessions with marks and without stay mirrors of each other
  induction sources generalizing done session index with
  | nil => cases found
  | cons source rest ih =>
      have moves := tracked.preserved.executeMoved_moves
        (tracked.follows blind Place.unmarked) depth rounds (Place.marked done.length) source
      rw [Place.unmarked_marked, executeMoved_id] at moves
      cases index with
      | zero =>
          cases Option.some.inj found
          rw [List.take_zero, List.append_nil]
          exact ⟨source, session, rfl, tracked, rfl, moves⟩
      | succ index =>
          simp only [executeAll, List.getElem?_cons_succ, moves.session_eq] at found
          obtain ⟨running, before, here, tracked', marked, moves'⟩ := ih (tracked.next blind) found
          rw [show done ++ (source :: rest).take (index + 1) =
            done ++ [source] ++ rest.take index by simp]
          refine ⟨running, before, here, tracked', ?_, moves'⟩
          simpa [executeAllMarked] using marked

end

/-- The failure of an execution is one of the node that a source of that number has at the place:
with the sources marked, it names the place with the number. -/
structure Stems (start : Session) (depth rounds : Nat) (sources : List Source) (index : Nat)
    (failure : Failure) (mark : Nat) (origin : Source) (place : Place) : Prop where
  origin : Origin start sources mark origin place
  marked : ∃ running execution, sources[index]? = some running ∧
    (executeAllMarked depth rounds 0 start sources)[index]? = some execution ∧
    execution.result = .error (.quoting running failure.cause (place.marked mark))

theorem Stems.unique {start : Session} {depth rounds index : Nat} {sources : List Source}
    {failure : Failure} {mark mark' : Nat} {origin origin' : Source} {place place' : Place}
    (one : Stems start depth rounds sources index failure mark origin place)
    (other : Stems start depth rounds sources index failure mark' origin' place') :
    mark = mark' ∧ origin = origin' ∧ place = place' := by
  obtain ⟨running, execution, here, found, failed⟩ := one.marked
  obtain ⟨running', execution', here', found', failed'⟩ := other.marked
  cases Option.some.inj (here.symm.trans here')
  cases Option.some.inj (found.symm.trans found')
  obtain ⟨rfl, rfl⟩ := Place.marked_injective
    (Failure.quoting_injective (Except.error.inj (failed.symm.trans failed')))
  exact ⟨rfl, Option.some.inj (one.origin.numbered.symm.trans other.origin.numbered), rfl⟩

/-- Failures at nodes point into the source that is running. Such a failure stems from a node of a
source executed by then, and it names the place of the node; so it points into the source of the
node just if the running one has the same name and the same line at the place. It does so if the
node is one of the running source, and only line feeds end the lines of that. -/
theorem failure_points_into_origin_iff (settings : Settings) {modules : Registry}
    (blind : modules.Blind) (depth rounds : Nat) (sources : List Source) {index : Nat}
    {execution : Execution} {failure : Failure}
    (found : (executeAll depth rounds (unused settings modules) sources)[index]? = some execution)
    (failed : execution.result = .error failure) (node : failure.cause.AtNode) :
    ∃ running mark origin place location,
      sources[index]? = some running ∧ mark ≤ index ∧
      Stems (unused settings modules) depth rounds sources index failure mark origin place ∧
      failure.location = some location ∧
      (location.PointsInto origin place ↔
        running.name = origin.name ∧ running.lineAt place = origin.rowAt place) ∧
      (mark = index → Text.feedsOnly running.text.toList = true →
        location.PointsInto origin place) := by
  have tracked := tracked_unused settings blind
  have start : (unused settings modules).relabel (.ofPlaces Place.unmarked) =
      unused settings modules :=
    tracked.fixed _ fun mark source place origin => by cases origin.numbered
  rw [← start] at found
  obtain ⟨running, before, here, tracked', marked, moves⟩ := tracked.at blind found
  obtain ⟨place', ended, same⟩ := moves.node failure failed node
  obtain ⟨mark, origin, place, stems, rfl⟩ := tracked'.origin_of_node blind node ended
  -- what was executed by then is the front of the sources, up to the one that is running
  have front : [] ++ sources.take index ++ [running] = sources.take (index + 1) := by
    rw [List.nil_append, List.take_add_one, here]
    rfl
  rw [front] at stems
  have within : mark < index + 1 :=
    (List.getElem?_eq_some_iff.mp stems.numbered).1.trans_le (List.length_take_le _ _)
  have numbered : sources[mark]? = some origin := by
    rw [← List.getElem?_take_of_lt within]
    exact stems.numbered
  have unmark : (place.marked mark).unmarked = place :=
    congrFun (Place.unmarked_marked mark) place
  have points := Location.ofPlace_pointsInto_iff running origin place
  refine ⟨running, mark, origin, place, .ofPlace place (some running.text) running.name, here,
    Nat.le_of_lt_succ within, ⟨⟨numbered, stems.node⟩, running, _, here, marked, ended⟩, ?_, points,
    ?_⟩
  · rw [same, unmark]
    rfl
  · rintro rfl feeds
    cases Option.some.inj (numbered.symm.trans here)
    exact points.mpr ⟨rfl, Source.lineAt_eq_rowAt feeds place⟩

def failing : Source := ⟨"function f() \x7b return y \x7d", some "first"⟩

def calling : Source := ⟨"call f()", some "second"⟩

def strictly : Settings := { Settings.standard with strict := true }

def Execution.failure? (execution : Execution) : Option Failure :=
  match execution.result with
  | .ok _ => none
  | .error failure => some failure

theorem result_of_failure? {execution : Execution} {failure : Failure}
    (failed : execution.failure? = some failure) : execution.result = .error failure := by
  unfold Execution.failure? at failed
  cases result : execution.result with
  | ok value =>
      rw [result] at failed
      cases failed
  | error failure =>
      rw [result] at failed
      rw [Option.some.inj failed]

theorem failed_of_failure? {found : Option Execution} {failure : Failure}
    (failed : found.bind Execution.failure? = some failure) :
    ∃ execution, found = some execution ∧ execution.result = .error failure := by
  obtain ⟨execution, here, ended⟩ := Option.bind_eq_some_iff.mp failed
  exact ⟨execution, here, result_of_failure? ended⟩

/-- The call of a function of an earlier source fails, where modules are registered besides. -/
theorem called_failure_points_into_origin_iff :
    let modules : Registry := ⟨[("count", ⟨0, .tally⟩), ("stop", ⟨1, .failing "stopped"⟩),
      ("back", ⟨2, .echo⟩), ("run", ⟨3, .apply⟩), ("all", ⟨4, .each⟩), ("get", ⟨5, .lookup⟩)], 6⟩
    let start := unused strictly modules
    let sources := [failing, calling]
    let failure : Failure := .quoting calling (.unresolvedName "y") ⟨1, 23⟩
    modules.Blind ∧ failure.cause.AtNode ∧
      (∃ execution, (start.executeAll depth rounds sources)[1]? = some execution ∧
        execution.result = .error failure) ∧
      ∃ running mark origin place location,
        sources[1]? = some running ∧ mark ≤ 1 ∧
        Stems start depth rounds sources 1 failure mark origin place ∧
        failure.location = some location ∧
        (location.PointsInto origin place ↔
          running.name = origin.name ∧ running.lineAt place = origin.rowAt place) ∧
        (mark = 1 → Text.feedsOnly running.text.toList = true →
          location.PointsInto origin place) := by
  intro modules start sources failure
  -- none of these handlers makes a node up
  have blind : modules.Blind := by
    simp only [modules, Registry.Blind, List.forall_mem_cons]
    exact ⟨Handler.tally_blind, Handler.failing_blind "stopped", Handler.echo_blind,
      Handler.apply_blind, Handler.each_blind, Handler.lookup_blind, List.forall_mem_nil _⟩
  have ran : (start.executeAll depth rounds sources)[1]?.bind Execution.failure? =
      some failure := by decide +kernel
  obtain ⟨execution, found, failed⟩ := failed_of_failure? ran
  exact ⟨blind, trivial, ⟨execution, found, failed⟩, failure_points_into_origin_iff strictly blind
    depth rounds sources found failed trivial⟩

theorem failing_origin :
    Origin (unused strictly .empty) [failing, calling] 0 failing ⟨1, 23⟩ := by
  have reads : ((unused strictly .empty).parse failing.text failing.name).1.toOption.map
      (fun program => decide (⟨1, 23⟩ ∈ program.places)) = some true := by decide +kernel
  obtain ⟨program, parsed, member⟩ := Option.map_eq_some_iff.mp reads
  refine ⟨rfl, program, ?_, of_decide_eq_true member⟩
  cases result : ((unused strictly .empty).parse failing.text failing.name).1 with
  | error failure =>
      rw [result] at parsed
      cases parsed
  | ok read =>
      rw [result] at parsed
      rw [Option.some.inj parsed]

/-- The name that is not bound stands in the first source, in the body of the function; the failure
names the second source and shows the line of the call. -/
theorem called_failure_points_elsewhere :
    let start := unused strictly .empty
    let sources := [failing, calling]
    let place : Place := ⟨1, 23⟩
    ∃ execution failure location,
      (start.executeAll depth rounds sources)[1]? = some execution ∧
      execution.result = .error failure ∧ failure.cause = .unresolvedName "y" ∧
      Stems start depth rounds sources 1 failure 0 failing place ∧
      failure.location = some location ∧ location.sourceName = some "second" ∧
      location.snippet = some "call f()" ∧ ¬ location.PointsInto failing place := by
  intro start sources place
  obtain ⟨plain, marked⟩ :
      (start.executeAll depth rounds sources)[1]?.bind Execution.failure? =
          some (.quoting calling (.unresolvedName "y") place) ∧
        (start.executeAllMarked depth rounds 0 sources)[1]?.bind Execution.failure? =
          some (.quoting calling (.unresolvedName "y") (place.marked 0)) := by decide +kernel
  obtain ⟨execution, found, failed⟩ := failed_of_failure? plain
  obtain ⟨execution', found', failed'⟩ := failed_of_failure? marked
  refine ⟨execution, .quoting calling (.unresolvedName "y") place,
    .ofPlace place (some calling.text) calling.name, found, failed, rfl,
    ⟨failing_origin, calling, execution', rfl, found', failed'⟩, rfl, rfl, by decide +kernel, ?_⟩
  intro points
  have named : some "second" = some "first" := points.name_eq
  exact absurd named (by decide)

end Session

end Parlance
