import Parlance.Proofs.Running.Traversal
import Parlance.Session

/-!
The visits of an expression. An expression without calls does what visiting its nodes one after the
other does, up to a node that is a step too many; the order is that of the tree exactly where no
value in a map is written out. Main statement: `Evaluation.visited_in_preorder_iff`.
-/

namespace Parlance

open Node

def Event.ofSight (sight : Sight) : Event := .visited sight.1 sight.2

theorem Event.ofSight_injective : Function.Injective Event.ofSight := by
  rintro ⟨kind, place⟩ ⟨kind', place'⟩ same
  obtain ⟨rfl, rfl⟩ := Event.visited.inj same
  rfl

/-- The scopes that names are looked up in are all there. -/
def Arena.Standing (arena : Arena) : Prop := ∀ id ∈ globalId :: arena.stack, arena.isLive id = true

theorem Arena.Sound.standing {arena : Arena} {stack : List Nat} (sound : arena.Sound stack) :
    arena.Standing :=
  List.forall_mem_cons.mpr ⟨sound.global_live, sound.stack_eq ▸ sound.entered_live⟩

theorem Arena.Standing.resolve_ok {arena : Arena} (standing : arena.Standing) (name : String) :
    ∃ found, arena.resolve name = .ok found := by
  obtain ⟨global, entered⟩ := List.forall_mem_cons.mp standing
  obtain ⟨holder, answer, _⟩ := holder?_ok name arena.stack global entered
  simp [resolve, answer, Except.map]

namespace Run

/-! ### Visits one after the other -/

def tour (budget : Option Nat) : List Sight → Run Unit
  | [] => pure ()
  | sight :: rest => do
      visit budget sight.1 sight.2
      tour budget rest

theorem tour_append (budget : Option Nat) (first later : List Sight) :
    tour budget (first ++ later) = (do tour budget first; tour budget later) := by
  induction first with
  | nil => rfl
  | cons sight rest ih => simp only [List.cons_append, tour, ih, bind_assoc]

def seen (budget : Option Nat) (steps : Nat) (sights : List Sight) : List Sight :=
  match budget with
  | none => sights
  | some limit => sights.take (limit - steps)

/-- How the visits end before their time, if they do. -/
def cutOff (budget : Option Nat) (steps : Nat) (sights : List Sight) : Option Failure :=
  budget.bind fun limit => sights[limit - steps]?.map fun next => overstep limit next.2

variable {α β : Type}

def failure? : EStateM.Result Failure Machine α → Option Failure
  | .ok _ _ => none
  | .error failure _ => some failure

/-- What an observer is told of nodes that are visited in an order. -/
structure Reports (budget : Option Nat) (machine : Machine) (sights : List Sight)
    (result : EStateM.Result Failure Machine α) : Prop where
  events_eq : (left result).events =
    machine.events ++ (seen budget machine.steps sights).map .ofSight
  failure_eq : failure? result = cutOff budget machine.steps sights
  arena_eq : (left result).arena = machine.arena

theorem tour_reports (budget : Option Nat) (sights : List Sight) (machine : Machine) :
    Reports budget machine sights (tour budget sights machine) := by
  induction sights generalizing machine with
  | nil =>
      cases budget with
      | none => exact ⟨(List.append_nil _).symm, rfl, rfl⟩
      | some limit => exact ⟨by simp [tour, left, seen, pure, EStateM.pure], rfl, rfl⟩
  | cons sight rest ih =>
      simp only [tour, Bind.bind, EStateM.bind]
      rcases visit_cases budget sight.1 sight.2 machine with
        ⟨limit, rfl, exceeds, stopped⟩ | ⟨within, went⟩
      · have spent : limit - machine.steps = 0 := by omega
        simp only [stopped]
        exact ⟨by simp [left, seen, spent, Machine.events], by simp [failure?, cutOff, spent], rfl⟩
      · simp only [went]
        obtain ⟨events, failure, arena⟩ := ih (machine.visit sight.1 sight.2)
        have noted : (machine.visit sight.1 sight.2).events =
            machine.events ++ [.ofSight sight] := by
          simp [Machine.visit, Machine.events, Event.ofSight]
        have counted : (machine.visit sight.1 sight.2).steps = machine.steps + 1 := rfl
        rw [counted] at events failure
        -- the step is spent from what the limit leaves
        cases budget with
        | none => exact ⟨by simp [events, noted, seen], failure, arena⟩
        | some limit =>
            have less : limit - machine.steps = limit - (machine.steps + 1) + 1 := by
              have := within limit rfl
              omega
            exact ⟨by simp [events, noted, seen, less], by simp [failure, cutOff, less], arena⟩

/-! ### Runs that visit nodes and compute a value -/

def silence : EStateM.Result Failure Machine α → EStateM.Result Failure Machine Unit
  | .ok _ machine => .ok () machine
  | .error failure machine => .error failure machine

theorem Reports.of_silence {budget : Option Nat} {machine : Machine} {sights : List Sight}
    {result : EStateM.Result Failure Machine α}
    (reports : Reports budget machine sights (silence result)) :
    Reports budget machine sights result := by
  cases result <;> exact ⟨reports.events_eq, reports.failure_eq, reports.arena_eq⟩

/-- Runs, one for each depth, that settle and do what visiting nodes in some order does. -/
def Tours (budget : Option Nat) (sights : List Sight) (runs : Nat → Run α) : Prop :=
  ∀ machine : Machine, machine.arena.Standing → ∃ result,
    SettlesOn runs machine result ∧ silence result = tour budget sights machine

namespace Tours

variable {budget : Option Nat} {sights more : List Sight}

theorem pure (a : α) : Tours budget [] fun _ => Pure.pure a :=
  fun machine _ => ⟨_, .const _ machine, rfl⟩

theorem bind {runs : Nat → Run α} {rests : α → Nat → Run β} (first : Tours budget sights runs)
    (later : ∀ a, Tours budget more (rests a)) :
    Tours budget (sights ++ more) fun depth => runs depth >>= fun a => rests a depth := by
  intro machine standing
  obtain ⟨result, settles, silent⟩ := first machine standing
  have kept := (tour_reports budget sights machine).arena_eq
  simp only [tour_append, Bind.bind, EStateM.bind, ← silent] at kept ⊢
  cases result with
  | ok a after =>
      obtain ⟨result', settles', silent'⟩ := later a after (kept ▸ standing)
      exact ⟨result', settles.bind_ok settles', silent'⟩
  | error failure after => exact ⟨.error failure after, settles.bind_error, rfl⟩

/-- What follows visits nothing. -/
theorem map {runs : Nat → Run α} (first : Tours budget sights runs) (f : α → β) :
    Tours budget sights fun depth => runs depth >>= fun a => Pure.pure (f a) :=
  List.append_nil sights ▸ first.bind fun a => .pure (f a)

theorem visit (kind : Kind) (place : Place) :
    Tours budget [(kind, place)] fun _ => Run.visit budget kind place := by
  intro machine _
  refine ⟨_, .const _ machine, ?_⟩
  simp only [tour, Bind.bind, EStateM.bind]
  cases Run.visit budget kind place machine <;> rfl

theorem resolve (name : String) : Tours budget [] fun _ => Run.resolve name := by
  intro machine standing
  obtain ⟨found, answer⟩ := standing.resolve_ok name
  refine ⟨.ok found machine, ?_, rfl⟩
  have result : Run.resolve name machine = .ok found machine := by simp only [Run.resolve, answer]
  exact result ▸ .const (Run.resolve name) machine

end Tours

end Run

/-- Neither strict settings nor operands that are passed over. -/
structure Surroundings.Thorough (around : Surroundings) : Prop where
  lenient : around.settings.strict = false
  eager : around.settings.shortCircuit = false

namespace Evaluation

variable {around : Surroundings}

/-- The node of an expression is visited before what is computed on the depth below. -/
theorem eval_tours {expr : Expr} {below : List Sight}
    (computes : Run.Tours around.budget below fun depth =>
      compute around (.ofDepth around depth) expr) :
    Run.Tours around.budget (expr.sight :: below) fun depth =>
      (Runner.ofDepth around depth).eval expr := by
  intro machine standing
  have visits : Run.Tours around.budget [expr.sight] fun _ =>
    visit around expr.kind expr.place := .visit expr.kind expr.place
  obtain ⟨result, settles, silent⟩ := visits.bind (fun _ => computes) machine standing
  exact ⟨result, settles.deepen fun depth => rfl, silent⟩

theorem evalName_tours (lenient : around.settings.strict = false) (name : String) (place : Place) :
    Run.Tours around.budget [] fun _ => evalName around name place := by
  refine (Run.Tours.resolve name).bind fun found => ?_
  cases found with
  | some value => exact .pure value
  | none =>
      simp only [lenient, Bool.false_eq_true, ↓reduceIte]
      exact .pure Value.void

theorem evalBinary_tours (thorough : around.Thorough) {op : BinaryOp} {left right : Expr}
    {place : Place} {first second : List Sight}
    (lefts : Run.Tours around.budget first fun depth => (Runner.ofDepth around depth).eval left)
    (rights : Run.Tours around.budget second fun depth =>
      (Runner.ofDepth around depth).eval right) :
    Run.Tours around.budget (first ++ second) fun depth =>
      evalBinary around (.ofDepth around depth) op left right place := by
  simp only [evalBinary, thorough.lenient, thorough.eager, Bool.and_false, Bool.false_eq_true,
    ↓reduceIte]
  exact lefts.bind fun value => rights.map fun other => op.apply value other

mutual

theorem eval_tours_of_silent (thorough : around.Thorough) (expr : Expr)
    (silent : expr.callees = []) :
    Run.Tours around.budget expr.tour fun depth => (Runner.ofDepth around depth).eval expr := by
  cases expr with
  | literal value place => exact eval_tours (.pure _)
  | ident name place => exact eval_tours (evalName_tours thorough.lenient name place)
  | call callee method arguments place => exact absurd silent (List.cons_ne_nil _ _)
  | binary op left right place =>
      obtain ⟨first, second⟩ := List.append_eq_nil_iff.mp silent
      exact eval_tours (evalBinary_tours thorough (eval_tours_of_silent thorough left first)
        (eval_tours_of_silent thorough right second))
  | unary op operand place =>
      exact eval_tours ((eval_tours_of_silent thorough operand silent).map op.apply)
  | list items place =>
      exact eval_tours ((evalAll_tours_of_silent thorough items silent).map Value.list)
  | map entries place =>
      exact eval_tours ((evalEntries_tours_of_silent thorough entries silent []).map Value.map)
  | index target position place =>
      obtain ⟨first, second⟩ := List.append_eq_nil_iff.mp silent
      exact eval_tours ((eval_tours_of_silent thorough target first).bind fun value =>
        (eval_tours_of_silent thorough position second).map value.item)

theorem evalAll_tours_of_silent (thorough : around.Thorough) (exprs : List Expr)
    (silent : Expr.allCallees exprs = []) :
    Run.Tours around.budget (Expr.allTours exprs) fun depth =>
      evalAll (.ofDepth around depth) exprs := by
  cases exprs with
  | nil => exact .pure []
  | cons expr rest =>
      obtain ⟨first, later⟩ := List.append_eq_nil_iff.mp silent
      exact (eval_tours_of_silent thorough expr first).bind fun value =>
        (evalAll_tours_of_silent thorough rest later).map (value :: ·)

theorem evalEntries_tours_of_silent (thorough : around.Thorough) (pairs : List (MapKey × Expr))
    (silent : Expr.entryCallees pairs = []) (entries : List (String × Value)) :
    Run.Tours around.budget (Expr.entryTours pairs) fun depth =>
      evalEntries around (.ofDepth around depth) entries pairs := by
  match pairs with
  | [] => exact .pure entries
  | (key, expr) :: rest =>
      obtain ⟨first, later⟩ := List.append_eq_nil_iff.mp silent
      have visits : Run.Tours around.budget [key.sight] fun _ =>
        visit around .literal key.place := .visit .literal key.place
      exact (eval_tours_of_silent thorough expr first).bind fun value =>
        visits.bind fun _ => evalEntries_tours_of_silent thorough rest later _

end

/-- An observer is told of each node of an expression without calls once, and in the order of the
tree exactly if all values in maps are left out. -/
theorem visited_in_preorder_iff (thorough : around.Thorough) (expr : Expr)
    (silent : expr.callees = []) :
    expr.tour.Perm expr.toNode.preorder ∧
    (expr.tour = expr.toNode.preorder ↔ ∀ entry ∈ expr.entries, LeftOut entry) ∧
    ∀ machine : Machine, machine.arena.Standing → ∃ result,
      Run.SettlesOn (fun depth => (Runner.ofDepth around depth).eval expr) machine result ∧
        Run.Reports around.budget machine expr.tour result ∧
        (around.budget = none →
          ((Run.left result).events = machine.events ++ expr.toNode.preorder.map .ofSight ↔
            ∀ entry ∈ expr.entries, LeftOut entry)) := by
  refine ⟨expr.tour_perm, expr.tour_eq_preorder_iff, fun machine standing => ?_⟩
  obtain ⟨result, settles, same⟩ := eval_tours_of_silent thorough expr silent machine standing
  have reports : Run.Reports around.budget machine expr.tour result :=
    .of_silence (same ▸ Run.tour_reports _ _ machine)
  refine ⟨result, settles, reports, fun unlimited => ?_⟩
  have all : (Run.left result).events = machine.events ++ expr.tour.map .ofSight := by
    rw [reports.events_eq, unlimited]
    rfl
  rw [all, List.append_cancel_left_eq, Event.ofSight_injective.list_map.eq_iff,
    expr.tour_eq_preorder_iff]

def standardly : Surroundings :=
  (Session.ofSettings .standard).surroundings .reclaim Session.rounds none none

/-- One value that is written out, and one that is left out. -/
def mapped : Expr :=
  .map [(⟨"a", ⟨1, 10⟩⟩, .ident "b" ⟨1, 13⟩), (⟨"c", ⟨1, 16⟩⟩, .literal .void ⟨1, 16⟩)] ⟨1, 9⟩

theorem mapped_visited :
    standardly.Thorough ∧ mapped.callees = [] ∧ Arena.empty.Standing ∧
      mapped.tour.Perm mapped.toNode.preorder ∧
      (mapped.tour = mapped.toNode.preorder ↔ ∀ entry ∈ mapped.entries, LeftOut entry) ∧
      ∃ result, Run.SettlesOn (fun depth => (Runner.ofDepth standardly depth).eval mapped)
          (.ofArena .empty) result ∧
        Run.Reports standardly.budget (.ofArena .empty) mapped.tour result ∧
        (standardly.budget = none →
          ((Run.left result).events = (Machine.ofArena .empty).events ++
              mapped.toNode.preorder.map .ofSight ↔
            ∀ entry ∈ mapped.entries, LeftOut entry)) := by
  have thorough : standardly.Thorough := ⟨rfl, rfl⟩
  have standing : Arena.empty.Standing := Arena.empty_sound.standing
  obtain ⟨perm, order, runs⟩ := visited_in_preorder_iff thorough mapped rfl
  exact ⟨thorough, rfl, standing, perm, order, runs (.ofArena .empty) standing⟩

def mappedVisits : Machine where
  arena := .empty
  steps := 5
  journal := [.visited .literal ⟨1, 16⟩, .visited .literal ⟨1, 16⟩, .visited .literal ⟨1, 10⟩,
    .visited .identifier ⟨1, 13⟩, .visited .mapLiteral ⟨1, 9⟩]
  strays := []

theorem mapped_evaluates (depth : Nat) :
    (Runner.ofDepth standardly (depth + 2)).eval mapped (.ofArena .empty) =
      .ok (.map [("a", .void), ("c", .void)]) mappedVisits := by
  let began : Machine := (Machine.ofArena .empty).visit .mapLiteral ⟨1, 9⟩
  have visited : visit standardly .mapLiteral ⟨1, 9⟩ (.ofArena .empty) = .ok () began := rfl
  have found : evalEntries standardly (.ofDepth standardly (depth + 1)) [] mapped.entries began =
      .ok [("a", .void), ("c", .void)] mappedVisits := rfl
  have unfolds : (Runner.ofDepth standardly (depth + 2)).eval mapped = (do
      visit standardly .mapLiteral ⟨1, 9⟩
      let values ← evalEntries standardly (.ofDepth standardly (depth + 1)) [] mapped.entries
      pure (.map values)) := rfl
  rw [unfolds]
  simp only [Bind.bind, EStateM.bind, visited, found]
  rfl

/-- As programs spell it, and on the fresh arena, the visits are not in the order of the tree. -/
theorem written_value_visited_first :
    Program.ofTokens ⟨false, .standard⟩ (Token.scan "let x = {a: b, c:}") =
      .ok ([.declare "x" (some mapped) ⟨1, 1⟩], []) ∧
    mapped.callees = [] ∧ standardly.Thorough ∧ standardly.budget = none ∧
    ∀ depth, ∃ value after,
      (Runner.ofDepth standardly (depth + 2)).eval mapped (.ofArena .empty) = .ok value after ∧
        after.events ≠ mapped.toNode.preorder.map .ofSight := by
  refine ⟨rfl, rfl, ⟨rfl, rfl⟩, rfl, fun depth => ⟨_, _, mapped_evaluates depth, fun same => ?_⟩⟩
  have second : Event.visited .identifier ⟨1, 13⟩ = .visited .literal ⟨1, 10⟩ :=
    (List.cons.inj (List.cons.inj same).2).1
  exact nomatch second

end Evaluation

end Parlance
