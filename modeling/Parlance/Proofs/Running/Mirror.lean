import Parlance.Proofs.Relabelling.Arena
import Parlance.Proofs.Running.Genuine

/-!
Runs that mirror others. The same evaluator is given a program with its nodes moved, on a machine
whose scopes are renumbered. What it does is what it does on the other machine, relabelled: the
lines are the same, the values and the requests to handlers are relabelled, and a failure differs
at most in the place that it names.
-/

namespace Parlance

def Event.relabel (r : Relabelling) : Event → Event
  | .visited kind place => .visited kind (r.place place)
  | .emitted line => .emitted line
  | .served serial request => .served serial (request.relabel r)

def Machine.relabel (r : Relabelling) (machine : Machine) : Machine where
  arena := machine.arena.relabel r
  steps := machine.steps
  journal := machine.journal.map (Event.relabel r)
  strays := machine.strays

/-- Causes that a node of a program has: a name that is not bound, or a division by zero. -/
def Cause.AtNode : Cause → Prop
  | .unresolvedName _ | .unresolvedCallee _ | .divisionByZero _ => True
  | _ => False

/-- A failure at a node, and the one that there is instead once the node is moved. The failure of
a handler quotes the one that it was met with. -/
inductive Failure.Mirrored (r : Relabelling) (around : Surroundings) : Failure → Failure → Prop
  | bare (cause : Cause) (other : ¬ cause.AtNode) : Mirrored r around (.of cause) (.of cause)
  | quoted (cause : Cause) (place : Place) : Mirrored r around
      ⟨cause, some (.ofPlace place around.source around.sourceName)⟩
      ⟨cause, some (.ofPlace (r.place place) around.source around.sourceName)⟩
  | overstep (limit : Nat) (place : Place) : Mirrored r around
      (Run.overstep limit place) (Run.overstep limit (r.place place))
  | explained (module method : String) {failure failure' : Failure}
      (inner : Mirrored r around failure failure') : Mirrored r around
        (.of (.dispatch (.failed module method failure.text)))
        (.of (.dispatch (.failed module method failure'.text)))

/-- Which failures can be caught, and with which message, does not go by the place. -/
theorem Failure.Mirrored.caught?_eq {r : Relabelling} {around : Surroundings}
    {failure failure' : Failure} (mirrored : failure.Mirrored r around failure') :
    failure'.caught? = failure.caught? := by
  cases mirrored <;> rfl

theorem Failure.Mirrored.eq {scope : Nat → Nat} {around : Surroundings} {failure failure' : Failure}
    (mirrored : failure.Mirrored ⟨scope, id⟩ around failure') : failure' = failure := by
  induction mirrored with
  | bare cause other | quoted cause place | overstep limit place => rfl
  | explained module method _ same => rw [same]

/-- A failure that a node has names the place of that node, in what is running. -/
theorem Failure.Mirrored.place_of_node {r : Relabelling} {around : Surroundings}
    {failure failure' : Failure} (mirrored : failure.Mirrored r around failure')
    (node : failure'.cause.AtNode) : ∃ place,
      failure = ⟨failure'.cause, some (.ofPlace place around.source around.sourceName)⟩ ∧
        failure' =
          ⟨failure'.cause, some (.ofPlace (r.place place) around.source around.sourceName)⟩ := by
  cases mirrored with
  | bare cause other => exact absurd node other
  | quoted cause place => exact ⟨place, rfl, rfl⟩
  | overstep limit place | explained module method inner => exact node.elim

namespace Run

variable {r : Relabelling} {around : Surroundings}

/-- The right end of a run is the left one relabelled. -/
def Mirrors {α : Type} [Labelled α] (r : Relabelling) (around : Surroundings) :
    EStateM.Result Failure Machine α → EStateM.Result Failure Machine α → Prop
  | .ok a machine, other => other = .ok (Labelled.relabel r a) (machine.relabel r)
  | .error failure machine, other => ∃ failure', failure.Mirrored r around failure' ∧
      other = .error failure' (machine.relabel r)

section

variable {α : Type} [Capturing α] [Labelled α] {known : Set Nat} {stack : List Nat}

theorem mirrors_onArena {action action' : Arena.Action Unit} {machine : Machine} {after : Arena}
    (done : action machine.arena = .ok () after)
    (same : action' (machine.arena.relabel r) = Arena.relabelled r (action machine.arena)) :
    Mirrors r around (onArena action machine) (onArena action' (machine.relabel r)) := by
  rw [done] at same
  have done' : action' (machine.relabel r).arena = .ok () (after.relabel r) := same
  rw [onArena_ok done, onArena_ok done']
  rfl

theorem mirrors_note (event : Event) (machine : Machine) :
    Mirrors r around (note event machine) (note (event.relabel r) (machine.relabel r)) := rfl

end

end Run

open Evaluation Run

/-- Mirroring as a likeness. The left run keeps its arena intact, so that no operation on it
fails. -/
abbrev mirror (r : Relabelling) (around : Surroundings) : Likeness where
  relabelling := r
  Agree known stack left right := Bond.kept.Agree known stack left left ∧
    ∀ machine, machine.arena.Intact known stack →
      Mirrors r around (left machine) (right (machine.relabel r))
  value held := ⟨Bond.agree_pure held, fun _ _ => rfl⟩
  andThen {α β _ _ _ _ known stack left right rest rest'} first later := by
    refine ⟨Bond.agree_bind first.1 fun more grows a held => (later more grows a held).1, ?_⟩
    intro machine intact
    have meets := Bond.kept_meets first.1 intact
    have mirrors := first.2 machine intact
    simp only [bind, EStateM.bind]
    cases result : left machine with
    | ok a after =>
        rw [result] at meets mirrors
        obtain ⟨_, more, grows, ⟨_, kept⟩, held⟩ := meets
        rw [show right (machine.relabel r) = _ from mirrors]
        exact (later more grows a held).2 after kept
    | error failure after =>
        rw [result] at mirrors
        obtain ⟨failure', mirrored, same⟩ := mirrors
        rw [same]
        exact ⟨failure', mirrored, rfl⟩

namespace Mirror

variable {r : Relabelling} {around : Surroundings}

section

variable {α : Type} [Capturing α] [Labelled α] {known : Set Nat} {stack : List Nat}

/-- There is no intact arena whose functions may capture the global scope. -/
theorem vacuous (captured : Arena.globalId ∈ known) (left right : Run α) :
    (mirror r around).Agree known stack left right :=
  ⟨Bond.kept_vacuous captured left left, fun _ intact => absurd captured intact.uncaptured⟩

theorem bounds (bound : Nat) : (mirror r around).Bounds bound bound := by
  refine Or.inl ⟨rfl, fun α _ _ known stack => ⟨Bond.intact_agree fun machine intact => Or.inr ?_,
    fun machine _ => ⟨_, .bare .unbounded id, rfl⟩⟩⟩
  exact ⟨rfl, trivial, known, subset_rfl, rfl, intact⟩

theorem inScope (orderly : r.Orderly) (upkeep : Arena.Upkeep) {enter enter' : Arena → Arena}
    {id : Nat} {body body' : Run α} (agree : (mirror r around).Agree known (id :: stack) body body')
    {machine : Machine} (entered : (enter machine.arena).Intact known (id :: stack))
    (same : enter' (machine.arena.relabel r) = (enter machine.arena).relabel r) :
    Mirrors r around (Run.inScope upkeep enter body machine)
      (Run.inScope upkeep enter' body' (machine.relabel r)) := by
  have entered : ({ machine with arena := enter machine.arena } : Machine).arena.Intact known
      (id :: stack) := entered
  have mirrors := agree.2 { machine with arena := enter machine.arena } entered
  have meets := Bond.kept_meets agree.1 entered
  have start : ({ machine with arena := enter machine.arena } : Machine).relabel r =
      { machine.relabel r with arena := enter' (machine.relabel r).arena } := by
    simp only [Machine.relabel, same]
  rw [start] at mirrors
  -- whatever the body came to, the scope is left by an operation that does not fail
  cases result : body { machine with arena := enter machine.arena } with
  | ok value after =>
      rw [result] at meets mirrors
      obtain ⟨_, more, _, ⟨_, kept⟩, _⟩ := meets
      obtain ⟨arena, left, _⟩ := kept.pop_ok upkeep
      have left' : Arena.pop upkeep (after.relabel r).arena = .ok () (arena.relabel r) := by
        rw [show (after.relabel r).arena = after.arena.relabel r from rfl,
          Arena.pop_relabel orderly, left]
        rfl
      rw [Run.inScope_ok result left, Run.inScope_ok mirrors left']
      rfl
  | error failure after =>
      rw [result] at meets mirrors
      obtain ⟨_, _, more, _, _, kept⟩ := meets
      obtain ⟨arena, left, _⟩ := kept.pop_ok upkeep
      obtain ⟨failure', mirrored, result'⟩ := mirrors
      have left' : Arena.pop upkeep (after.relabel r).arena = .ok () (arena.relabel r) := by
        rw [show (after.relabel r).arena = after.arena.relabel r from rfl,
          Arena.pop_relabel orderly, left]
        rfl
      rw [Run.inScope_error result left, Run.inScope_error result' left']
      exact ⟨failure', mirrored, rfl⟩

end

section

variable (known : Set Nat) (stack : List Nat)

theorem visit (kind : Node.Kind) (place : Place) (machine : Machine) :
    Mirrors r around (Evaluation.visit around kind place machine)
      (Evaluation.visit around kind (r.place place) (machine.relabel r)) := by
  rcases visit_cases around.budget kind place machine with
    ⟨limit, limited, exceeds, result⟩ | ⟨within, result⟩
  · have exceeds' : limit < (machine.relabel r).steps + 1 := exceeds
    have result' : Run.visit around.budget kind (r.place place) (machine.relabel r) =
        .error (overstep limit (r.place place))
          (({ machine with steps := machine.steps + 1 } : Machine).relabel r) := by
      simp only [Run.visit, limited, exceeds', ↓reduceIte]
      rfl
    simp only [Evaluation.visit, result, result']
    exact ⟨_, .overstep limit place, rfl⟩
  · rcases visit_cases around.budget kind (r.place place) (machine.relabel r) with
      ⟨limit, limited, exceeds, _⟩ | ⟨_, result'⟩
    · exact absurd (within limit limited) (Nat.not_le.mpr exceeds)
    · simp only [Evaluation.visit, result, result']
      rfl

theorem resolve (orderly : r.Orderly) (name : String) {machine : Machine}
    (intact : machine.arena.Intact known stack) :
    Mirrors r around (Run.resolve name machine) (Run.resolve name (machine.relabel r)) := by
  obtain ⟨found, answer⟩ := intact.sound.resolve_ok name
  have answer' : (machine.relabel r).arena.resolve name =
      .ok (found.map (Value.relabel r)) := by
    rw [show (machine.relabel r).arena = machine.arena.relabel r from rfl,
      Arena.resolve_relabel orderly, answer]
    rfl
  simp only [Run.resolve, answer, answer']
  rfl

theorem capture (orderly : r.Orderly) (machine : Machine) :
    Mirrors r around (Run.capture machine) (Run.capture (machine.relabel r)) := by
  have innermost : (machine.relabel r).arena.innermost? =
      machine.arena.innermost?.map r.scope := Arena.innermost?_relabel machine.arena
  simp only [Run.capture, innermost]
  cases machine.arena.innermost? with
  | none => rfl
  | some id =>
      have pinned := Arena.pin_relabel orderly id machine.arena
      simp only [Option.map_some, Machine.relabel, pinned]
      rfl

theorem carry (orderly : r.Orderly) (value : Value) (machine : Machine) :
    Mirrors r around (Evaluation.carry value machine)
      (Evaluation.carry (value.relabel r) (machine.relabel r)) := by
  have carried := Arena.carry_relabel orderly value machine.arena
  simp only [Evaluation.carry, Run.change, Mirrors, Machine.relabel, carried]

theorem inCaptured (orderly : r.Orderly) {closure : Closure} {body body' : Run Value}
    (held : Held known (Value.function closure))
    (agree : ∀ inner, (mirror r around).Agree known inner body body') {machine : Machine}
    (intact : machine.arena.Intact known stack) :
    Mirrors r around (Evaluation.inCaptured around closure body machine)
      (Evaluation.inCaptured around (closure.relabel r) body' (machine.relabel r)) := by
  cases scope : closure.scope with
  | none =>
      have scope' : (closure.relabel r).scope = none := by simp [Closure.relabel, scope]
      rw [inCaptured_none scope, inCaptured_none scope']
      exact (agree stack).2 machine intact
  | some id =>
      have scope' : (closure.relabel r).scope = some (r.scope id) := by
        simp [Closure.relabel, scope]
      have member : id ∈ known := held id (by simp [Capturing.captured, Value.captured, scope])
      have same : (machine.relabel r).arena.isLive (r.scope id) = machine.arena.isLive id :=
        Arena.isLive_relabel orderly machine.arena id
      by_cases live : machine.arena.isLive id = true
      · rw [inCaptured_entered scope live, inCaptured_entered scope' (same.trans live)]
        refine inScope orderly around.upkeep (agree (id :: stack))
          ((intact.push live member).carry (.function closure)) ?_
        exact Arena.carry_relabel orderly (.function closure) (Arena.push id machine.arena)
      · rw [inCaptured_missed scope live, inCaptured_missed scope' (same ▸ live)]
        exact (agree stack).2 { machine with strays := closure.name :: machine.strays } intact

theorem tidy (orderly : r.Orderly) (value : Value) {machine : Machine}
    (intact : machine.arena.Intact known stack) :
    Mirrors r around (Evaluation.tidy around value machine)
      (Evaluation.tidy around (value.relabel r) (machine.relabel r)) := by
  obtain ⟨count, after, result, _⟩ := intact.sound.collect_ok around.upkeep [value]
  have result' : Arena.collect around.upkeep [value.relabel r] (machine.relabel r).arena =
      .ok count (after.relabel r) := by
    have same := Arena.collect_relabel orderly around.upkeep [value] machine.arena
    rw [result] at same
    exact same
  rw [tidy_ok result, tidy_ok result']
  rfl

theorem rescues : (mirror r around).Rescues known stack := by
  intro left right rest rest' spare spare' first later otherwise
  refine ⟨Bond.kept_rescues known stack left left rest rest spare spare first.1
    (fun more grows value held => (later more grows value held).1)
    fun more grows message => (otherwise more grows message).1, fun machine intact => ?_⟩
  have meets := Bond.kept_meets first.1 intact
  have mirrors := first.2 machine intact
  cases result : left machine with
  | ok value after =>
      rw [result] at meets mirrors
      obtain ⟨_, more, grows, ⟨_, kept⟩, held⟩ := meets
      rw [Script.rescue_ok result, Script.rescue_ok mirrors]
      exact (later more grows value held).2 after kept
  | error failure after =>
      rw [result] at meets mirrors
      obtain ⟨_, _, more, grows, _, kept⟩ := meets
      obtain ⟨failure', mirrored, result'⟩ := mirrors
      -- what is caught of a failure is its message, and that tells no scope
      have same := mirrored.caught?_eq
      cases caught : failure.caught? with
      | none =>
          rw [Script.rescue_uncaught result caught,
            Script.rescue_uncaught result' (same.trans caught)]
          exact ⟨failure', mirrored, rfl⟩
      | some message =>
          rw [Script.rescue_caught result caught,
            Script.rescue_caught result' (same.trans caught)]
          exact (otherwise more grows message).2 after kept

theorem answer (request : Request)
    {left right : EStateM.Result Failure Machine (Except String Host)}
    (mirrors : Mirrors r around left right) :
    Mirrors r around (Evaluation.answer request left)
      (Evaluation.answer (request.relabel r) right) := by
  match left with
  | .error failure machine =>
      obtain ⟨failure', mirrored, rfl⟩ := mirrors
      exact ⟨_, .explained request.module request.method mirrored, rfl⟩
  | .ok (.error reason) machine =>
      obtain rfl := mirrors
      exact ⟨_, .bare (.dispatch (.failed request.module request.method reason)) id, rfl⟩
  | .ok (.ok host) machine =>
      obtain rfl := mirrors
      have made := host.toValue_relabel r
      simp only [Labelled.relabel, Except.map, Evaluation.answer, made]
      cases host.toValue with
      | ok value => rfl
      | error _ => exact ⟨_, .bare (.dispatch .answerTooLarge) id, rfl⟩

theorem dispatch (orderly : r.Orderly) (genuine : around.modules.Genuine)
    (follows : around.modules.Follows r) {inner inner' : Runner}
    (parts : (mirror r around).Pairs inner inner') (request : Request)
    (held : Held known request.arguments) {machine : Machine}
    (intact : machine.arena.Intact known stack) :
    Mirrors r around (Evaluation.dispatch around inner request machine)
      (Evaluation.dispatch around inner' (request.relabel r) (machine.relabel r)) := by
  cases found : around.modules.find? request.module with
  | none =>
      have found' : around.modules.find? (request.relabel r).module = none := found
      rw [dispatch_unknown found, dispatch_unknown found']
      exact ⟨_, .bare (.dispatch (.unknownModule request.module)) id, rfl⟩
  | some entry =>
      have found' : around.modules.find? (request.relabel r).module = some entry := found
      -- nothing but the local scopes is ever captured, so no larger set need be looked at
      have largest : ∀ more, Arena.locals ⊆ more → more = Arena.locals ∨
          ∀ {α : Type} [Capturing α] [Labelled α] (left right : Run α),
            (mirror r around).Agree more stack left right := by
        intro more grows
        by_cases captured : Arena.globalId ∈ more
        · exact Or.inr (vacuous captured)
        · left
          apply Set.Subset.antisymm _ grows
          rintro id member rfl
          exact captured member
      have emit : ∀ line, (mirror r around).Agree Arena.locals stack (Run.emit line)
          (Run.emit line) := fun line =>
        ⟨Bond.intact_note (.emitted line), fun _ _ => mirrors_note (.emitted line) _⟩
      have resolves : ∀ name, (mirror r around).Agree Arena.locals stack (Run.resolve name)
          (Run.resolve name) := fun name =>
        ⟨Bond.intact_resolve Arena.locals stack name, fun _ kept => resolve _ _ orderly name kept⟩
      have member := Table.mem_of_get? found
      have script := (mirror r around).script_agree_within inner inner' stack largest emit resolves
        (parts.call Arena.locals stack) (entry.handler request)
        (entry.handler (request.relabel r)) (follows _ member request)
        (genuine _ member request (held.mono intact.known_locals))
        (Or.inr (rescues Arena.locals stack))
      have served : (mirror r around).Agree Arena.locals stack (serve inner entry request)
          (serve inner' entry (request.relabel r)) := by
        refine (mirror r around).andThen
          ⟨Bond.intact_note _, fun _ _ => mirrors_note (.served entry.serial request) _⟩
          fun more grows _ _ => ?_
        rcases largest more grows with rfl | any
        · exact script
        · exact any _ _
      rw [dispatch_found found, dispatch_found found']
      exact answer request (served.2 machine intact.locals)

end

/-- What an evaluator does it does relabelled for relabelled programs, if the handlers follow the
relabelling. -/
theorem links (orderly : r.Orderly) (genuine : around.modules.Genuine)
    (follows : around.modules.Follows r) : (mirror r around).Links around around := by
  -- that the left run keeps its arena intact is known; what is left is that the right one mirrors
  -- it
  have kept : Bond.kept.comparison.Links around around := Bond.kept_links genuine
  exact
    { settings := rfl
      hosts := fun _ => rfl
      visit := fun known stack kind place =>
        ⟨kept.visit known stack kind place, fun machine _ => visit kind place machine⟩
      emit := fun known stack line =>
        ⟨kept.emit known stack line, fun _ _ => mirrors_note (.emitted line) _⟩
      resolve := fun known stack name =>
        ⟨kept.resolve known stack name, fun _ intact => resolve known stack orderly name intact⟩
      declare := fun known stack name value held =>
        ⟨kept.declare known stack name value held, fun machine intact => by
          obtain ⟨_, _, result⟩ := intact.sound.declare_ok name value
          exact mirrors_onArena result (Arena.declare_relabel orderly name value machine.arena)⟩
      assign := fun known stack name value held =>
        ⟨kept.assign known stack name value held, fun machine intact => by
          obtain ⟨_, _, _, _, result⟩ := intact.sound.assign_ok name value
          exact mirrors_onArena result (Arena.assign_relabel orderly name value machine.arena)⟩
      capture := fun known stack =>
        ⟨kept.capture known stack, fun machine _ => capture orderly machine⟩
      lapse := fun known stack cause place value held lapse =>
        ⟨kept.lapse known stack cause place value held lapse, fun machine _ => by
          split
          · exact ⟨_, .quoted cause place, rfl⟩
          · rfl⟩
      dispatch := fun inner inner' parts known stack request hosted held =>
        ⟨kept.dispatch inner inner
            ⟨fun known stack expr => (parts.eval known stack expr).1,
              fun known stack stmt => (parts.exec known stack stmt).1,
              fun known stack function arguments held helds =>
                (parts.call known stack function arguments held helds).1⟩
            known stack request hosted held,
          fun _ intact =>
            dispatch known stack orderly genuine follows parts request held intact⟩
      inFresh := fun known stack body body' agree =>
        ⟨kept.inFresh known stack body body fun id => (agree id).1, fun machine intact => by
          refine inScope orderly around.upkeep ((mirror r around).andThen
            (agree machine.arena.nextId) ?_) intact.pushFresh
              (Arena.pushFresh_relabel orderly intact.sound.fresh_local)
          intro more _ outcome held
          refine (mirror r around).andThen (α := Unit)
            ⟨Bond.intact_step fun machine intact => ⟨(), _, more, rfl, subset_rfl,
              intact.carry outcome.value, List.forall_mem_nil _⟩, fun machine _ => ?_⟩ ?_
          · exact carry orderly outcome.value machine
          · intro further wider _ _
            exact (mirror r around).value (held.mono wider)⟩
      inCaptured := fun known stack closure body body' held agree =>
        ⟨kept.inCaptured known stack closure body body held fun inner => (agree inner).1,
          fun _ intact => inCaptured known stack orderly held agree intact⟩
      tidy := fun known value held =>
        ⟨kept.tidy known value held, fun _ intact => tidy known [] orderly value intact⟩ }

/-- A program with its nodes moved does on a relabelled machine what it does otherwise,
relabelled. -/
theorem run_agree (orderly : r.Orderly) (genuine : around.modules.Genuine)
    (follows : around.modules.Follows r) (program : Program) (depth : Nat) (known : Set Nat) :
    (mirror r around).Agree known [] (program.run around depth)
      ((program.moved r.place).run around depth) :=
  Likeness.run_agree (links orderly genuine follows) (bounds around.rounds) program depth depth
    (bounds depth) known

end Mirror

end Parlance
