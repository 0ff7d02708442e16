import Parlance.Proofs.Running.Arrival
import Parlance.Proofs.Running.Recital

/-!
Names that were just bound. A declaration, an assignment, a parameter and the item of a loop bind a
name to a literal; where nothing else in the arena assigns to the name it resolves to the literal
from there on, and a run that comes to a mention of it emits that.
-/

namespace Parlance

open Evaluation

/-- A run has just bound a name to the value of a literal. -/
inductive Binding (around : Surroundings) (name : String) (literal : Literal) :
    Machine → Machine → Prop
  | declaration {depth : Nat} {place place' : Place} {outcome : Outcome} {before after : Machine}
      (ran : (Runner.ofDepth around depth).exec
        (.declare name (some (.literal literal place)) place') before = .ok outcome after) :
      Binding around name literal before after
  | assignment {depth : Nat} {place place' : Place} {outcome : Outcome} {before after : Machine}
      (ran : (Runner.ofDepth around depth).exec
        (.assign name (.literal literal place) place') before = .ok outcome after) :
      Binding around name literal before after
  | parameter {front back : List String} {arguments : List Value} {before after : Machine}
      (once : name ∉ back) (handed : Harmless name arguments)
      (given : arguments[front.length]? = some (.ofLiteral literal))
      (bound : bindParams (front ++ name :: back) arguments before.fresh = .ok () after) :
      Binding around name literal before after
  | item {index : Nat} {before after : Machine}
      (bound : bindRound around index (some (name, .ofLiteral literal)) before.fresh =
        .ok () after) :
      Binding around name literal before after

namespace Run

variable {α β : Type} {machine after : Machine}

theorem of_bind_ok {run : Run α} {rest : α → Run β} {b : β}
    (ran : (run >>= rest) machine = .ok b after) :
    ∃ a between, run machine = .ok a between ∧ rest a between = .ok b after := by
  simp only [bind, EStateM.bind] at ran
  cases result : run machine with
  | ok a between => exact ⟨a, between, rfl, by simpa only [result] using ran⟩
  | error failure between => simp [result] at ran

theorem of_visit_ok {budget : Option Nat} {kind : Node.Kind} {place : Place}
    (ran : visit budget kind place machine = .ok () after) : after = machine.visit kind place := by
  rcases visit_cases budget kind place machine with ⟨_, _, _, result⟩ | ⟨_, result⟩
  · rw [result] at ran
    cases ran
  · rw [result] at ran
    cases ran
    rfl

end Run

section

variable {name : String} {stack : List Nat} {machine after : Machine} {value : Value}

theorem Arena.Clear.withScope {arena : Arena} (clear : arena.Clear name stack) {id : Nat}
    {bindings : Bindings} (found : Table.get? id arena.scopes = some bindings) (key : String)
    (harmless : Harmless name value) :
    (arena.withScope id (Table.put key value bindings)).Clear name stack := by
  refine ⟨clear.toBears.withScope found key (harmless_iff.mp harmless),
    clear.numbered.of_live (fun other live => ?_) rfl⟩
  simp only [Arena.withScope, isLive, Table.has_put, Bool.or_eq_true, decide_eq_true_eq] at live
  rcases live with rfl | live
  · exact (isLive_iff arena other).mpr ⟨bindings, found⟩
  · exact live

theorem Arena.Clear.declare (clear : machine.arena.Clear name stack)
    (harmless : Harmless name value) (ran : Evaluation.declare name value machine = .ok () after) :
    after.arena.Steady name value stack := by
  obtain ⟨bindings, found, result, resolves⟩ := clear.intact.sound.declare_resolves name value
  rw [Evaluation.declare, Run.onArena_ok result] at ran
  cases ran
  exact ⟨clear.withScope found name harmless, resolves⟩

theorem Arena.Clear.assign (clear : machine.arena.Clear name stack)
    (harmless : Harmless name value)
    (ran : Run.onArena (Arena.assign name value) machine = .ok () after) :
    after.arena.Steady name value stack := by
  obtain ⟨_, bindings, found, result, resolves⟩ := clear.intact.sound.assign_resolves name value
  rw [Run.onArena_ok result] at ran
  cases ran
  exact ⟨clear.withScope found name harmless, resolves⟩

theorem Harmless.drop {values : List Value} (harmless : Harmless name values) (count : Nat) :
    Harmless name (values.drop count) := by
  induction count generalizing values with
  | zero => exact harmless
  | succ count ih =>
      cases values with
      | nil => exact harmless
      | cons value rest => exact ih (harmless_cons.mp harmless).2

theorem Evaluation.bindParams_append (front params : List String) (arguments : List Value) :
    bindParams (front ++ params) arguments = (do
      bindParams front arguments
      bindParams params (arguments.drop front.length)) := by
  induction front generalizing arguments with
  | nil => rfl
  | cons param front ih =>
      cases arguments with
      | nil => simp [bindParams, ih]
      | cons value values => simp [bindParams, ih]

end

section

variable {around : Surroundings} {name : String} {literal : Literal} {stack : List Nat}
  {before after : Machine}

theorem Evaluation.of_literal_ok {depth : Nat} {place : Place} {value : Value}
    (ran : (Runner.ofDepth around depth).eval (.literal literal place) before = .ok value after) :
    value = .ofLiteral literal ∧ after = before.visit .literal place := by
  cases depth with
  | zero => cases ran
  | succ depth =>
      obtain ⟨_, visited, visits, computed⟩ := Run.of_bind_ok ran
      obtain rfl := Run.of_visit_ok visits
      cases computed
      exact ⟨rfl, rfl⟩

/-- A statement that evaluates a literal and does something with the value did so behind two
visits, where the run did not end. -/
theorem Evaluation.of_literal_bound_ok (binds : Value → Run Unit) (kind : Node.Kind)
    (place' : Place) {place : Place} {depth : Nat} {outcome : Outcome}
    (ran : (do
      visit around kind place'
      let value ← (Runner.ofDepth around depth).eval (.literal literal place)
      binds value
      pure Outcome.normal : Run Outcome) before = .ok outcome after) :
    binds (.ofLiteral literal) ((before.visit kind place').visit .literal place) =
      .ok () after := by
  obtain ⟨_, visited, visits, performed⟩ := Run.of_bind_ok ran
  obtain rfl := Run.of_visit_ok visits
  obtain ⟨value, between, evaluated, rest⟩ := Run.of_bind_ok performed
  obtain ⟨rfl, rfl⟩ := of_literal_ok evaluated
  obtain ⟨_, bound, done, ended⟩ := Run.of_bind_ok rest
  cases ended
  exact done

/-- A name that was bound to a literal is steady from there on. -/
theorem Binding.steady (binding : Binding around name literal before after)
    (clear : before.arena.Clear name stack) :
    ∃ stack, after.arena.Steady name (.ofLiteral literal) stack := by
  have keeps := Frame.numbered_primitives around
  have harmless : Harmless name (Value.ofLiteral literal) := harmless_ofLiteral literal
  cases binding with
  | @declaration depth place place' outcome _ _ ran =>
      cases depth with
      | zero => cases ran
      | succ depth =>
          have declared := of_literal_bound_ok (Evaluation.declare name) .declaration place' ran
          have inside : ((before.visit .declaration place').visit .literal place).arena.Clear
              name stack := clear
          exact ⟨stack, inside.declare harmless declared⟩
  | @assignment depth place place' outcome _ _ ran =>
      cases depth with
      | zero => cases ran
      | succ depth =>
          have assigned := of_literal_bound_ok
            (fun value => Run.onArena (Arena.assign name value)) .assignment place' ran
          have inside : ((before.visit .assignment place').visit .literal place).arena.Clear
              name stack := clear
          exact ⟨stack, inside.assign harmless assigned⟩
  | @parameter front back arguments _ _ once handed given bound =>
      have fresh : before.fresh.arena.Clear name _ := clear.pushFresh
      -- first those in front of the name, then the name, then those behind, which differ from it
      rw [bindParams_append] at bound
      obtain ⟨_, started, starts, rest⟩ := Run.of_bind_ok bound
      have start := fresh.after_secures (bindParams_secures front arguments handed)
        (keeps.keeps_bindParams front arguments) starts
      have split : arguments.drop front.length =
          .ofLiteral literal :: arguments.drop (front.length + 1) := by
        obtain ⟨inside, here⟩ := List.getElem?_eq_some_iff.mp given
        rw [List.drop_eq_getElem_cons inside, here]
      rw [split] at rest
      obtain ⟨_, declared, declares, later⟩ := Run.of_bind_ok rest
      have steady := start.2.declare harmless declares
      have others : Harmless name (arguments.drop (front.length + 1)) := by
        have all : Harmless name (arguments.drop front.length) := handed.drop front.length
        rw [split] at all
        exact (harmless_cons.mp all).2
      have secures := (bindParams_secures back _ others).mono once
      exact ⟨_, (steady.after_secures secures (keeps.keeps_bindParams back _) later).2⟩
  | @item index _ _ bound =>
      have fresh : before.fresh.arena.Clear name _ := clear.pushFresh
      obtain ⟨_, counted, counts, declared⟩ := Run.of_bind_ok bound
      have inside := fresh.after_secures (declareAll_secures _ (harmless_number _))
        (keeps.keeps_declareAll _ _) counts
      exact ⟨_, inside.2.declare harmless declared⟩

/-! ### Mentions -/

variable {name mention : Token} {bound value : Value} {machine : Machine}

theorem Evaluation.of_mention_ok (same : mention.lexeme = name.lexeme)
    (resolves : machine.arena.resolve name.lexeme = .ok (some bound)) {depth : Nat}
    (ran : (Runner.ofDepth around depth).eval mention.mention machine = .ok value after) :
    value = name.recalled bound ∧ Machine.Wrote [] machine after := by
  cases depth with
  | zero => cases ran
  | succ depth =>
      obtain ⟨_, visited, visits, computed⟩ := Run.of_bind_ok ran
      obtain rfl := Run.of_visit_ok visits
      have known : (machine.visit mention.mention.kind mention.mention.place).arena.resolve
          mention.lexeme = .ok (some bound) := same ▸ resolves
      rw [compute_mention known] at computed
      cases computed
      exact ⟨by simp only [Token.recalled, same], rfl,
        by simp [Machine.emitted, Machine.visit, Machine.events, Event.line?]⟩

theorem Evaluation.of_mentions_ok {stmt : Stmt} (mentions : stmt.Mentions name.lexeme)
    (resolves : machine.arena.resolve name.lexeme = .ok (some bound)) {depth : Nat}
    {outcome : Outcome}
    (ran : (Runner.ofDepth around depth).exec stmt machine = .ok outcome after) :
    after.emitted = machine.emitted ++ [(name.recalled bound).toText] := by
  obtain ⟨mention, place, same, rfl⟩ := mentions
  cases depth with
  | zero => cases ran
  | succ depth =>
      obtain ⟨_, visited, visits, performed⟩ := Run.of_bind_ok ran
      obtain rfl := Run.of_visit_ok visits
      obtain ⟨_, between, puts, ended⟩ := Run.of_bind_ok performed
      obtain ⟨value, evaluated, evaluates, emits⟩ := Run.of_bind_ok puts
      have known : (machine.visit .output place).arena.resolve name.lexeme = .ok (some bound) :=
        resolves
      obtain ⟨rfl, wrote⟩ := of_mention_ok same known evaluates
      have quiet : (machine.visit .output place).emitted = machine.emitted := by
        simp [Machine.emitted, Machine.visit, Machine.events, Event.line?]
      have before : evaluated.emitted = machine.emitted := by
        rw [wrote.emitted_eq, quiet, List.append_nil]
      cases ended
      cases emits
      simp only [← before]
      simp [Machine.emitted, Machine.events, Event.line?]

/-- What is done where a run comes to is among the lines of the whole run. -/
theorem Arrives.emitted {target : Stmt} {depth depth' : Nat} {task : Task}
    {machine at' next : Machine} {outcome : Outcome} {name : String}
    (arrives : Arrives around name target depth task machine depth' at')
    (ran : (Runner.ofDepth around depth').exec target at' = .ok outcome next) :
    next.emitted <+: (Run.left (task.run around (.ofDepth around depth) machine)).emitted := by
  have done := arrives.done
  rw [ran] at done
  exact (List.reverse_prefix.mpr done).filterMap Event.line?

end

end Parlance
