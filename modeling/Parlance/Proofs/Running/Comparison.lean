import Parlance.Evaluation
import Parlance.Proofs.Arena.Accounted

/-!
Two runs side by side. A comparison is a way for two runs to agree that goes on from one run to what
follows it. What two evaluators have to do alike for all their runs to agree is listed in `Links`.
-/

namespace Parlance

/-- Strict settings fail for these reasons where others go on with a value. -/
def Cause.Lapse : Cause → Prop
  | .unresolvedName _ | .unresolvedCallee _ | .divisionByZero _ => True
  | _ => False

def Machine.visit (kind : Node.Kind) (place : Place) (machine : Machine) : Machine :=
  { machine with
    steps := machine.steps + 1
    journal := .visited kind place :: machine.journal }

namespace Run

/-- The failure of a run that visits one node too many. -/
def overstep (limit : Nat) (place : Place) : Failure :=
  ⟨.stepLimit limit, some (.ofPlace place none none)⟩

theorem visit_cases (budget : Option Nat) (kind : Node.Kind) (place : Place) (machine : Machine) :
    (∃ limit, budget = some limit ∧ limit < machine.steps + 1 ∧
      visit budget kind place machine =
        .error (overstep limit place) { machine with steps := machine.steps + 1 }) ∨
    (∀ limit, budget = some limit → machine.steps + 1 ≤ limit) ∧
      visit budget kind place machine = .ok () (machine.visit kind place) := by
  cases budget with
  | none => exact Or.inr ⟨nofun, rfl⟩
  | some limit =>
      by_cases exceeds : limit < machine.steps + 1
      · exact Or.inl ⟨limit, rfl, exceeds, by simp [visit, exceeds, overstep]⟩
      · refine Or.inr ⟨?_, by simp [visit, exceeds, note, Machine.visit]⟩
        rintro _ ⟨⟩
        exact Nat.not_lt.mp exceeds

variable {α : Type} {upkeep : Arena.Upkeep} {enter : Arena → Arena} {body : Run α}

def left : EStateM.Result Failure Machine α → Machine
  | .ok _ machine => machine
  | .error _ machine => machine

theorem left_onArena (action : Arena.Action α) (machine : Machine) :
    left (onArena action machine) =
      { machine with arena := Arena.left (action machine.arena) } := by
  simp only [onArena]
  cases action machine.arena <;> rfl

theorem left_inScope (machine : Machine) :
    left (inScope upkeep enter body machine) =
      let after := left (body { machine with arena := enter machine.arena })
      { after with arena := Arena.left (Arena.pop upkeep after.arena) } := by
  simp only [inScope]
  cases body { machine with arena := enter machine.arena } with
  | ok value after =>
      simp only [left, ← left_onArena (Arena.pop upkeep) after]
      cases onArena (Arena.pop upkeep) after <;> rfl
  | error failure after =>
      simp only [left, ← left_onArena (Arena.pop upkeep) after]
      cases onArena (Arena.pop upkeep) after <;> rfl

theorem left_resolve (name : String) (machine : Machine) :
    left (resolve name machine) = machine := by
  simp only [resolve]
  cases machine.arena.resolve name <;> rfl

theorem onArena_ok {action : Arena.Action α} {machine : Machine} {value : α} {arena : Arena}
    (result : action machine.arena = .ok value arena) :
    onArena action machine = .ok value { machine with arena } := by
  simp [onArena, result]

theorem inScope_ok {before after : Machine} {value : α} {arena : Arena}
    (result : body { before with arena := enter before.arena } = .ok value after)
    (left : Arena.pop upkeep after.arena = .ok () arena) :
    inScope upkeep enter body before = .ok value { after with arena } := by
  simp [inScope, result, onArena, left]

theorem inScope_error {before after : Machine} {failure : Failure} {arena : Arena}
    (result : body { before with arena := enter before.arena } = .error failure after)
    (left : Arena.pop upkeep after.arena = .ok () arena) :
    inScope upkeep enter body before = .error failure { after with arena } := by
  simp [inScope, result, onArena, left]

end Run

namespace Evaluation

variable {around : Surroundings} {closure : Closure} {body : Run Value}

theorem inCaptured_none (scope : closure.scope = none) :
    inCaptured around closure body = body := by
  simp only [inCaptured, scope]

theorem inCaptured_entered {id : Nat} (scope : closure.scope = some id) {machine : Machine}
    (live : machine.arena.isLive id = true) :
    inCaptured around closure body machine = Run.inScope around.upkeep
      (fun arena => Arena.carry (.function closure) (Arena.push id arena)) body machine := by
  simp only [inCaptured, scope]
  change (if machine.arena.isLive id = true then _ else _ : Run Value) machine = _
  rw [if_pos live]
  rfl

theorem inCaptured_missed {id : Nat} (scope : closure.scope = some id) {machine : Machine}
    (gone : ¬ machine.arena.isLive id = true) :
    inCaptured around closure body machine =
      body { machine with strays := closure.name :: machine.strays } := by
  simp only [inCaptured, scope]
  change (if machine.arena.isLive id = true then _ else _ : Run Value) machine = _
  rw [if_neg gone]
  rfl

theorem left_tidy (value : Value) (machine : Machine) :
    Run.left (tidy around value machine) =
      Run.left (Run.onArena (Arena.collect around.upkeep [value]) machine) := by
  simp only [tidy, bind, EStateM.bind]
  cases Run.onArena (Arena.collect around.upkeep [value]) machine <;> rfl

theorem tidy_ok {value : Value} {machine : Machine} {count : Nat} {arena : Arena}
    (result : Arena.collect around.upkeep [value] machine.arena = .ok count arena) :
    tidy around value machine = .ok () { machine with arena := arena } := by
  simp [tidy, bind, EStateM.bind, Run.onArena_ok result, pure, EStateM.pure]

end Evaluation

/-- What may hold functions names the scopes that they captured. -/
class Capturing (α : Type) where
  captured : α → List Nat

instance : Capturing Unit := ⟨fun _ => []⟩

instance : Capturing Value := ⟨Value.captured⟩

instance : Capturing (Option Value) := ⟨fun value => value.toList.flatMap Value.captured⟩

instance : Capturing (List Value) := ⟨Value.itemsCaptured⟩

instance : Capturing (List (String × Value)) := ⟨Value.entriesCaptured⟩

instance : Capturing Outcome := ⟨fun outcome => outcome.value.captured⟩

/-- The scope that a function is about to capture. -/
instance : Capturing (Option Nat) := ⟨Option.toList⟩

/-- The scopes captured all belong to a set. -/
def Held {α : Type} [Capturing α] (known : Set Nat) (a : α) : Prop :=
  ∀ id ∈ Capturing.captured a, id ∈ known

theorem Held.mono {α : Type} [Capturing α] {known more : Set Nat} (grows : known ⊆ more) {a : α}
    (held : Held known a) : Held more a :=
  fun id member => grows (held id member)

theorem held_univ {α : Type} [Capturing α] (a : α) : Held Set.univ a := fun _ _ => trivial

/-- A comparison of the runs of two evaluators, while values capture scopes of a set, over a stack
of scopes. It goes on from one run to what follows it. -/
structure Comparison where
  Agree : {α : Type} → [Capturing α] → Set Nat → List Nat → Run α → Run α → Prop
  value : ∀ {α : Type} [Capturing α] {known : Set Nat} {stack : List Nat} {a : α},
    Held known a → Agree known stack (pure a) (pure a)
  andThen : ∀ {α β : Type} [Capturing α] [Capturing β] {known : Set Nat} {stack : List Nat}
    {left right : Run α} {rest rest' : α → Run β}, Agree known stack left right →
      (∀ more, known ⊆ more → ∀ a, Held more a → Agree more stack (rest a) (rest' a)) →
        Agree known stack (left >>= rest) (right >>= rest')

namespace Comparison

variable (comparison : Comparison)

structure Pairs (inner inner' : Runner) : Prop where
  eval : ∀ known stack expr, comparison.Agree known stack (inner.eval expr) (inner'.eval expr)
  exec : ∀ known stack stmt, comparison.Agree known stack (inner.exec stmt) (inner'.exec stmt)
  call : ∀ known stack function arguments, Held known function → Held known arguments →
    comparison.Agree known stack (inner.call function arguments) (inner'.call function arguments)

/-- The primitives of two evaluators agree, all but the one that emits lines. The evaluators have
modules of the same names, and their settings differ at most in how strict they are and in their
limit of steps. -/
structure Quiet (around around' : Surroundings) : Prop where
  settings : around'.settings = { around.settings with
    strict := around'.settings.strict
    maxSteps := around'.settings.maxSteps }
  hosts : ∀ name, around'.modules.has name = around.modules.has name
  visit : ∀ known stack kind place, comparison.Agree known stack
    (Evaluation.visit around kind place) (Evaluation.visit around' kind place)
  resolve : ∀ known stack name,
    comparison.Agree known stack (Run.resolve name) (Run.resolve name)
  declare : ∀ known stack name value, Held known value → comparison.Agree known stack
    (Evaluation.declare name value) (Evaluation.declare name value)
  assign : ∀ known stack name value, Held known value → comparison.Agree known stack
    (Run.onArena (Arena.assign name value)) (Run.onArena (Arena.assign name value))
  capture : ∀ known stack, comparison.Agree known stack Run.capture Run.capture
  /-- Where strict settings fail, others go on with a value. -/
  lapse : ∀ known stack cause place (value : Value), Held known value → cause.Lapse →
    comparison.Agree known stack
      (if around.settings.strict = true then Evaluation.failAt around cause place else pure value)
      (if around'.settings.strict = true then Evaluation.failAt around' cause place else pure value)
  dispatch : ∀ inner inner', comparison.Pairs inner inner' → ∀ known stack request,
    around.modules.has request.module = true → Held known request.arguments →
      comparison.Agree known stack (Evaluation.dispatch around inner request)
        (Evaluation.dispatch around' inner' request)
  inFresh : ∀ known stack (body body' : Run Outcome),
    (∀ id, comparison.Agree known (id :: stack) body body') → comparison.Agree known stack
      (Evaluation.inFresh around body) (Evaluation.inFresh around' body')
  inCaptured : ∀ known stack closure (body body' : Run Value),
    Held known (Value.function closure) → (∀ inner, comparison.Agree known inner body body') →
      comparison.Agree known stack (Evaluation.inCaptured around closure body)
        (Evaluation.inCaptured around' closure body')
  tidy : ∀ known value, Held known value → comparison.Agree known []
    (Evaluation.tidy around value) (Evaluation.tidy around' value)

structure Links (around around' : Surroundings) : Prop extends comparison.Quiet around around' where
  emit : ∀ known stack line, comparison.Agree known stack (Run.emit line) (Run.emit line)

/-- The end of a bounded search agrees with whatever the right run does. -/
def Yields : Prop :=
  ∀ (α : Type) [Capturing α] (known : Set Nat) (stack : List Nat) (right : Run α),
    comparison.Agree known stack (Run.fail (.of .unbounded)) right

/-- The left bound is the right one, or a lesser one whose end agrees with anything. -/
def Bounds (bound bound' : Nat) : Prop :=
  bound = bound' ∧
      (∀ (α : Type) [Capturing α] (known : Set Nat) (stack : List Nat), comparison.Agree known stack
        (Run.fail (.of .unbounded) : Run α) (Run.fail (.of .unbounded))) ∨
    bound ≤ bound' ∧ comparison.Yields

variable {comparison} {around around' : Surroundings}

theorem agree_pure {α : Type} [Capturing α] {known : Set Nat} {stack : List Nat} {a : α}
    (held : Held known a) : comparison.Agree known stack (pure a) (pure a) :=
  comparison.value held

theorem agree_bind {α β : Type} [Capturing α] [Capturing β] {known : Set Nat} {stack : List Nat}
    {left right : Run α} {rest rest' : α → Run β} (first : comparison.Agree known stack left right)
    (later : ∀ more, known ⊆ more → ∀ a, Held more a →
      comparison.Agree more stack (rest a) (rest' a)) :
    comparison.Agree known stack (left >>= rest) (right >>= rest') :=
  comparison.andThen first later

end Comparison

end Parlance
