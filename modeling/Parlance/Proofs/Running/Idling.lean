import Parlance.Proofs.Module.Answer
import Parlance.Proofs.Reading.Callee
import Parlance.Proofs.Running.Comparison

/-!
Expressions without calls. An evaluator of some depth is one of a family, and as the depth grows a
run of the family settles; where the depth runs out, a node has been visited on every third level
at the least. A run of an expression that contains no call settles on a value, without strict
settings and without a limit of steps, and does nothing but visit nodes.
-/

namespace Parlance

/-- An event that is seen from outside: a line or a request. -/
def Event.isOutward : Event → Bool
  | .visited .. => false
  | .emitted _ | .served .. => true

def Machine.outward (machine : Machine) : List Event := machine.journal.filter Event.isOutward

/-- The machine before and after some visits of nodes. -/
structure Machine.Idled (machine after : Machine) : Prop where
  arena_eq : after.arena = machine.arena
  strays_eq : after.strays = machine.strays
  outward_eq : after.outward = machine.outward
  grows : machine.journal.length ≤ after.journal.length

namespace Machine.Idled

variable {machine between after : Machine}

theorem refl (machine : Machine) : machine.Idled machine := ⟨rfl, rfl, rfl, le_rfl⟩

theorem trans (first : machine.Idled between) (later : between.Idled after) :
    machine.Idled after where
  arena_eq := later.arena_eq.trans first.arena_eq
  strays_eq := later.strays_eq.trans first.strays_eq
  outward_eq := later.outward_eq.trans first.outward_eq
  grows := first.grows.trans later.grows

theorem visit (kind : Node.Kind) (place : Place) (machine : Machine) :
    machine.Idled (machine.visit kind place) :=
  ⟨rfl, rfl, rfl, Nat.le_succ _⟩

end Machine.Idled

namespace Run

section

variable {α β : Type}

/-- A run whose depth ran out: it failed so that no handler catches it, and noted an event on every
third level at the least. -/
def Sunk (depth : Nat) (machine : Machine) : EStateM.Result Failure Machine α → Prop
  | .ok _ _ => False
  | .error failure after =>
      failure.caught? = none ∧ 3 * machine.journal.length + depth ≤ 3 * after.journal.length

namespace Sunk

variable {depth : Nat} {machine : Machine} {result : EStateM.Result Failure Machine α}

theorem mono {less : Nat} (lesser : less ≤ depth) (sunk : Sunk depth machine result) :
    Sunk less machine result := by
  cases result with
  | ok a after => exact sunk
  | error failure after =>
      obtain ⟨uncaught, noted⟩ := sunk
      exact ⟨uncaught, by omega⟩

theorem behind {before : Machine} (count : Nat)
    (grows : before.journal.length + count ≤ machine.journal.length)
    (sunk : Sunk depth machine result) : Sunk (depth + 3 * count) before result := by
  cases result with
  | ok a after => exact sunk
  | error failure after =>
      obtain ⟨uncaught, noted⟩ := sunk
      exact ⟨uncaught, by omega⟩

theorem bind {run : Run α} {rest : α → Run β} (sunk : Sunk depth machine (run machine)) :
    Sunk depth machine ((run >>= rest) machine) := by
  -- nothing follows a run whose depth ran out
  simp only [Bind.bind, EStateM.bind]
  cases result : run machine with
  | ok a after =>
      rw [result] at sunk
      exact sunk.elim
  | error failure after =>
      rw [result] at sunk
      exact sunk

theorem rescue {run : Run α} {rest : α → Run β} {spare : String → Run β}
    (sunk : Sunk depth machine (run machine)) :
    Sunk depth machine (Script.rescue Failure.caught? run rest spare machine) := by
  -- nor does a handler go on behind it
  cases result : run machine with
  | ok a after =>
      rw [result] at sunk
      exact sunk.elim
  | error failure after =>
      rw [result] at sunk
      rw [Script.rescue_uncaught result sunk.1]
      exact sunk

theorem inScope {upkeep : Arena.Upkeep} {enter : Arena → Arena} {body : Run α}
    (sunk : Sunk depth { machine with arena := enter machine.arena }
      (body { machine with arena := enter machine.arena })) :
    Sunk depth machine (Run.inScope upkeep enter body machine) := by
  -- the scope that a run was in is left, and nothing is noted of that
  simp only [Run.inScope]
  cases result : body { machine with arena := enter machine.arena } with
  | ok a after =>
      rw [result] at sunk
      exact sunk.elim
  | error failure after =>
      rw [result] at sunk
      simp only [onArena]
      -- a fault of the arena cannot be caught either
      cases Arena.pop upkeep after.arena with
      | ok _ arena => exact sunk
      | error fault arena => exact ⟨rfl, sunk.2⟩

theorem exhausted (machine : Machine) :
    Sunk 0 machine (fail (.of .unbounded) machine : EStateM.Result Failure Machine α) :=
  ⟨rfl, le_rfl (a := 3 * machine.journal.length)⟩

end Sunk

/-- Runs, one for each depth, that all come to the same end from some depth on. -/
def SettlesOn (runs : Nat → Run α) (machine : Machine)
    (result : EStateM.Result Failure Machine α) : Prop :=
  ∃ enough, ∀ depth, enough ≤ depth → runs depth machine = result

namespace SettlesOn

variable {runs : Nat → Run α} {machine after : Machine}

theorem const (run : Run α) (machine : Machine) :
    SettlesOn (fun _ => run) machine (run machine) := ⟨0, fun _ _ => rfl⟩

/-- What is made of the end of a run settles with it. -/
theorem map {other : Nat → Run β} {start : Machine}
    {f : EStateM.Result Failure Machine α → EStateM.Result Failure Machine β}
    (made : ∀ depth, other depth start = f (runs depth machine))
    {result : EStateM.Result Failure Machine α} (settles : SettlesOn runs machine result) :
    SettlesOn other start (f result) := by
  obtain ⟨enough, same⟩ := settles
  exact ⟨enough, fun depth deep => by rw [made, same depth deep]⟩

/-- A run of some depth may use the runs of the depth below. -/
theorem deepen {other : Nat → Run α} {start : Machine}
    (made : ∀ depth, other (depth + 1) start = runs depth machine)
    {result : EStateM.Result Failure Machine α} (settles : SettlesOn runs machine result) :
    SettlesOn other start result := by
  obtain ⟨enough, same⟩ := settles
  refine ⟨enough + 1, fun depth deep => ?_⟩
  obtain ⟨less, rfl⟩ := Nat.exists_eq_add_of_le' (Nat.le_of_add_left_le deep)
  rw [made, same less (by omega)]

theorem bind_ok {a : α} {rests : α → Nat → Run β} {result : EStateM.Result Failure Machine β}
    (first : SettlesOn runs machine (.ok a after)) (later : SettlesOn (rests a) after result) :
    SettlesOn (fun depth => runs depth >>= fun a => rests a depth) machine result := by
  obtain ⟨enough, same⟩ := first
  obtain ⟨enough', same'⟩ := later
  refine ⟨max enough enough', fun depth deep => ?_⟩
  simp only [Bind.bind, EStateM.bind, same depth (le_trans (le_max_left _ _) deep)]
  exact same' depth (le_trans (le_max_right _ _) deep)

theorem bind_error {failure : Failure} {rests : α → Nat → Run β}
    (first : SettlesOn runs machine (.error failure after)) :
    SettlesOn (fun depth => runs depth >>= fun a => rests a depth) machine
      (.error failure after) := by
  obtain ⟨enough, same⟩ := first
  refine ⟨enough, fun depth deep => ?_⟩
  simp only [Bind.bind, EStateM.bind, same depth deep]

end SettlesOn

/-- Runs, one for each depth, that settle on a value and do nothing but visit nodes; before they
settle, their depth runs out. -/
def Idles (runs : Nat → Run α) : Prop :=
  ∀ machine stack, machine.arena.Sound stack → ∃ a after, machine.Idled after ∧
    SettlesOn runs machine (.ok a after) ∧
      ∀ depth, Sunk depth machine (runs depth machine) ∨ runs depth machine = .ok a after

/-- A run that does nothing but visit nodes, unless its depth runs out. -/
def Still (depth : Nat) (run : Run α) : Prop :=
  ∀ machine stack, machine.arena.Sound stack →
    Sunk depth machine (run machine) ∨ ∃ a after, machine.Idled after ∧ run machine = .ok a after

namespace Idles

theorem still {runs : Nat → Run α} (idles : Idles runs) (depth : Nat) :
    Still depth (runs depth) := by
  intro machine stack sound
  obtain ⟨a, after, idled, _, ends⟩ := idles machine stack sound
  exact (ends depth).imp_right fun result => ⟨a, after, idled, result⟩

theorem of_const {run : Run α} (idles : ∀ machine stack, machine.arena.Sound stack →
    ∃ a after, machine.Idled after ∧ run machine = .ok a after) : Idles fun _ => run := by
  intro machine stack sound
  obtain ⟨a, after, idled, result⟩ := idles machine stack sound
  exact ⟨a, after, idled, result ▸ .const run machine, fun _ => Or.inr result⟩

theorem pure (a : α) : Idles fun _ => Pure.pure a :=
  of_const fun machine _ _ => ⟨a, machine, .refl machine, rfl⟩

theorem bind {runs : Nat → Run α} {rests : α → Nat → Run β} (first : Idles runs)
    (later : ∀ a, Idles (rests a)) : Idles fun depth => runs depth >>= fun a => rests a depth := by
  intro machine stack sound
  obtain ⟨a, between, idled, settles, ends⟩ := first machine stack sound
  obtain ⟨b, after, idled', settles', ends'⟩ := later a between stack (idled.arena_eq ▸ sound)
  refine ⟨b, after, idled.trans idled', settles.bind_ok settles', fun depth => ?_⟩
  rcases ends depth with sunk | same
  · exact Or.inl sunk.bind
  · simp only [Bind.bind, EStateM.bind, same]
    exact (ends' depth).imp_left fun sunk => sunk.behind 0 idled.grows

theorem resolve (name : String) : Idles fun _ => Run.resolve name := by
  refine of_const fun machine stack sound => ?_
  obtain ⟨found, answer⟩ := sound.resolve_ok name
  exact ⟨found, machine, .refl machine, by simp only [Run.resolve, answer]⟩

theorem visit (kind : Node.Kind) (place : Place) : Idles fun _ => Run.visit none kind place :=
  of_const fun machine _ _ => ⟨(), machine.visit kind place, .visit kind place machine, rfl⟩

end Idles

end

end Run

/-- Neither strict settings nor a limit of steps. -/
structure Surroundings.Easygoing (around : Surroundings) : Prop where
  lenient : around.settings.strict = false
  unlimited : around.budget = none

namespace Evaluation

variable {around : Surroundings}

theorem visit_unlimited (easy : around.Easygoing) (kind : Node.Kind) (place : Place) :
    visit around kind place = Run.visit none kind place := by
  rw [visit, easy.unlimited]

/-- An expression comes to what is computed on the depth below, behind the visit of its node. -/
theorem eval_idles (easy : around.Easygoing) {expr : Expr}
    (computes : Run.Idles fun depth => compute around (.ofDepth around depth) expr) :
    Run.Idles fun depth => (Runner.ofDepth around depth).eval expr := by
  intro machine stack sound
  obtain ⟨value, after, idled, settles, ends⟩ :=
    computes (machine.visit expr.kind expr.place) stack sound
  have below : ∀ depth, (Runner.ofDepth around (depth + 1)).eval expr machine =
      compute around (.ofDepth around depth) expr (machine.visit expr.kind expr.place) := by
    intro depth
    change eval around (.ofDepth around depth) expr machine = _
    rw [eval, visit_unlimited easy]
    rfl
  refine ⟨value, after, (Machine.Idled.visit _ _ machine).trans idled, settles.deepen below, ?_⟩
  intro depth
  cases depth with
  | zero => exact Or.inl (Run.Sunk.exhausted machine)
  | succ depth =>
      simp only [below depth]
      refine (ends depth).imp_left fun sunk => ?_
      -- the visit counts for three levels, and the expression takes one of them
      have noted : machine.journal.length + 1 ≤
          (machine.visit expr.kind expr.place).journal.length := le_rfl
      exact (sunk.behind 1 noted).mono (by omega)

theorem evalName_idles (easy : around.Easygoing) (name : String) (place : Place) :
    Run.Idles fun _ => evalName around name place := by
  refine .bind (.resolve name) fun found => ?_
  cases found with
  | some value => exact .pure value
  | none =>
      simp only [easy.lenient, Bool.false_eq_true, ↓reduceIte]
      exact .pure Value.void

theorem evalBinary_idles (easy : around.Easygoing) {op : BinaryOp} {left right : Expr}
    {place : Place} (lefts : Run.Idles fun depth => (Runner.ofDepth around depth).eval left)
    (rights : Run.Idles fun depth => (Runner.ofDepth around depth).eval right) :
    Run.Idles fun depth => evalBinary around (.ofDepth around depth) op left right place := by
  refine .bind lefts fun first => ?_
  cases if around.settings.shortCircuit = true then op.decided? first else none with
  | some value => exact .pure value
  | none =>
      refine .bind rights fun second => ?_
      simp only [easy.lenient, Bool.and_false, Bool.false_eq_true, ↓reduceIte]
      exact .pure (op.apply first second)

mutual

/-- What contains no call does nothing but visit nodes. -/
theorem eval_idles_of_silent (easy : around.Easygoing) (expr : Expr)
    (silent : expr.callees = []) :
    Run.Idles fun depth => (Runner.ofDepth around depth).eval expr := by
  refine eval_idles easy ?_
  -- the callees of an expression are those of its parts, so none of these calls either
  cases expr with
  | literal value place => exact .pure _
  | ident name place => exact evalName_idles easy name place
  | call callee method arguments place => exact absurd silent (List.cons_ne_nil _ _)
  | binary op left right place =>
      obtain ⟨first, second⟩ := List.append_eq_nil_iff.mp silent
      exact evalBinary_idles easy (eval_idles_of_silent easy left first)
        (eval_idles_of_silent easy right second)
  | unary op operand place =>
      exact .bind (eval_idles_of_silent easy operand silent) fun value => .pure (op.apply value)
  | list items place =>
      exact .bind (evalAll_idles_of_silent easy items silent) fun values =>
        .pure (Value.list values)
  | map entries place =>
      exact .bind (evalEntries_idles_of_silent easy entries silent []) fun values =>
        .pure (Value.map values)
  | index target position place =>
      obtain ⟨first, second⟩ := List.append_eq_nil_iff.mp silent
      refine .bind (eval_idles_of_silent easy target first) fun value => ?_
      exact .bind (eval_idles_of_silent easy position second) fun index =>
        .pure (value.item index)

theorem evalAll_idles_of_silent (easy : around.Easygoing) (exprs : List Expr)
    (silent : Expr.allCallees exprs = []) :
    Run.Idles fun depth => evalAll (.ofDepth around depth) exprs := by
  cases exprs with
  | nil => exact .pure []
  | cons expr rest =>
      obtain ⟨first, later⟩ := List.append_eq_nil_iff.mp silent
      refine .bind (eval_idles_of_silent easy expr first) fun value => ?_
      exact .bind (evalAll_idles_of_silent easy rest later) fun values => .pure (value :: values)

theorem evalEntries_idles_of_silent (easy : around.Easygoing) (pairs : List (MapKey × Expr))
    (silent : Expr.entryCallees pairs = []) (entries : List (String × Value)) :
    Run.Idles fun depth => evalEntries around (.ofDepth around depth) entries pairs := by
  match pairs with
  | [] => exact .pure entries
  | (key, expr) :: rest =>
      obtain ⟨first, later⟩ := List.append_eq_nil_iff.mp silent
      refine .bind (eval_idles_of_silent easy expr first) fun value => ?_
      have visits : Run.Idles fun _ => visit around .literal key.place := by
        rw [visit_unlimited easy]
        exact .visit .literal key.place
      exact .bind visits fun _ => evalEntries_idles_of_silent easy rest later _

end

end Evaluation

end Parlance
