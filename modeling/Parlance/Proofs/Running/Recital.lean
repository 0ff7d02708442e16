import Parlance.Proofs.Arena.Lookup
import Parlance.Proofs.Reading.Recall
import Parlance.Proofs.Running.Target

/-!
Runs of a binding and a mention. Where no limit of steps is set, a program that binds a name to a
literal and mentions it behind runs to its end, and emits what the name stands for each time.
-/

namespace Parlance

def Machine.emitted (machine : Machine) : List String := machine.events.filterMap Event.line?

def Stmt.Mentions (name : String) (stmt : Stmt) : Prop :=
  ∃ mention place, mention.lexeme = name ∧ stmt = .output (some (Token.mention mention, none)) place

theorem Grammar.Saying.mentions {name : String} {tokens : List Token} {stmt : Stmt}
    (saying : Grammar.Saying name tokens stmt) : stmt.Mentions name := by
  obtain ⟨_, _, _, same, _⟩ := saying
  exact ⟨_, _, same, rfl⟩

namespace Run

variable {α β : Type}

/-- A run from a machine comes to its end, with such an answer and such a machine. -/
def Completes (run : Run α) (machine : Machine) (post : α → Machine → Prop) : Prop :=
  ∃ a after, run machine = .ok a after ∧ post a after

theorem Completes.pure {a : α} {machine : Machine} {post : α → Machine → Prop}
    (holds : post a machine) : Completes (Pure.pure a) machine post :=
  ⟨a, machine, rfl, holds⟩

theorem Completes.bind {run : Run α} {rest : α → Run β} {machine : Machine}
    {middle : α → Machine → Prop} {post : β → Machine → Prop}
    (first : Completes run machine middle)
    (later : ∀ a between, middle a between → Completes (rest a) between post) :
    Completes (run >>= rest) machine post := by
  obtain ⟨a, between, ran, holds⟩ := first
  obtain ⟨b, after, ran', holds'⟩ := later a between holds
  refine ⟨b, after, ?_, holds'⟩
  simpa only [Bind.bind, EStateM.bind, ran] using ran'

theorem Completes.bind_ok {run : Run α} {rest : α → Run β} {machine between : Machine} {a : α}
    {post : β → Machine → Prop} (ran : run machine = .ok a between)
    (later : Completes (rest a) between post) : Completes (run >>= rest) machine post := by
  obtain ⟨b, after, ran', holds⟩ := later
  refine ⟨b, after, ?_, holds⟩
  simpa only [Bind.bind, EStateM.bind, ran] using ran'

theorem Completes.mono {run : Run α} {machine : Machine} {post more : α → Machine → Prop}
    (completes : Completes run machine post) (weaker : ∀ a after, post a after → more a after) :
    Completes run machine more := by
  obtain ⟨a, after, ran, holds⟩ := completes
  exact ⟨a, after, ran, weaker a after holds⟩

end Run

namespace Machine

/-- A machine over an intact arena that has emitted such lines. -/
structure Stands (stack : List Nat) (lines : List String) (machine : Machine) : Prop where
  intact : machine.arena.Intact Arena.locals stack
  emitted_eq : machine.emitted = lines

structure Wrote (lines : List String) (before after : Machine) : Prop where
  arena_eq : after.arena = before.arena
  emitted_eq : after.emitted = before.emitted ++ lines

theorem Wrote.refl (machine : Machine) : Wrote [] machine machine :=
  ⟨rfl, (List.append_nil _).symm⟩

theorem Wrote.trans {first second third : Machine} {early late : List String}
    (wrote : Wrote early first second) (wrote' : Wrote late second third) :
    Wrote (early ++ late) first third :=
  ⟨wrote'.arena_eq.trans wrote.arena_eq,
    by rw [wrote'.emitted_eq, wrote.emitted_eq, List.append_assoc]⟩

theorem Stands.wrote {stack : List Nat} {early late : List String} {before after : Machine}
    (stands : Stands stack early before) (wrote : Wrote late before after) :
    Stands stack (early ++ late) after :=
  ⟨wrote.arena_eq ▸ stands.intact, stands.emitted_eq ▸ wrote.emitted_eq⟩

end Machine

namespace Evaluation

open Machine

variable {around : Surroundings} {machine : Machine}

section

variable (unlimited : around.budget = none)

include unlimited

theorem visit_completes (kind : Node.Kind) (place : Place) :
    (visit around kind place).Completes machine fun _ after => Wrote [] machine after := by
  refine ⟨(), machine.visit kind place, ?_, rfl, ?_⟩
  · rw [visit, unlimited]
    rfl
  · simp [emitted, Machine.visit, events, Event.line?]

omit unlimited in
/-- A line that is emitted once takes no step of its own. -/
theorem emit_completes (line : String) (place : Place) :
    (emitTimes around line place true 1).Completes machine fun _ after =>
      Wrote [line] machine after :=
  ⟨(), { machine with journal := .emitted line :: machine.journal }, rfl, rfl,
    by simp [emitted, events, Event.line?]⟩

theorem eval_completes {expr : Expr} {value : Value} {depth : Nat}
    (computes : ∀ visited, Wrote [] machine visited →
      (compute around (.ofDepth around depth) expr).Completes visited fun found after =>
        found = value ∧ Wrote [] visited after) :
    ((Runner.ofDepth around (depth + 1)).eval expr).Completes machine fun found after =>
      found = value ∧ Wrote [] machine after :=
  (visit_completes unlimited expr.kind expr.place).bind fun _ visited wrote =>
    (computes visited wrote).mono fun _ _ ⟨same, later⟩ => ⟨same, wrote.trans later⟩

theorem literal_completes (literal : Literal) (place : Place) (depth : Nat) :
    ((Runner.ofDepth around (depth + 1)).eval (.literal literal place)).Completes machine
      fun found after => found = .ofLiteral literal ∧ Wrote [] machine after :=
  eval_completes unlimited fun visited _ => .pure ⟨rfl, .refl visited⟩

theorem literals_complete {literals : List Literal} {exprs : List Expr}
    (are : Expr.Are literals exprs) (depth : Nat) :
    (evalAll (.ofDepth around (depth + 1)) exprs).Completes machine fun found after =>
      found = literals.map .ofLiteral ∧ Wrote [] machine after := by
  induction are generalizing machine with
  | nil => exact .pure ⟨rfl, .refl machine⟩
  | cons first _ ih =>
      obtain ⟨place, rfl⟩ := first
      refine (literal_completes unlimited _ place depth).bind ?_
      rintro value between ⟨same, wrote⟩
      refine ih.bind ?_
      rintro values after ⟨same', wrote'⟩
      exact .pure ⟨by rw [same, same', List.map_cons], wrote.trans wrote'⟩

omit unlimited in
theorem compute_mention {inner : Runner} {mention : Token} {bound : Value}
    (resolves : machine.arena.resolve mention.lexeme = .ok (some bound)) :
    compute around inner mention.mention machine = .ok (mention.recalled bound) machine := by
  cases number : numberWord? mention.lexeme with
  | some number' =>
      simp only [Token.mention, Token.recalled, number]
      rfl
  | none =>
      have found : Run.resolve mention.lexeme machine = .ok (some bound) machine := by
        simp only [Run.resolve, resolves]
      simp only [Token.mention, Token.recalled, number, compute, evalName, bind, EStateM.bind,
        found]
      rfl

theorem mention_completes {mention : Token} {bound : Value}
    (resolves : machine.arena.resolve mention.lexeme = .ok (some bound)) (depth : Nat) :
    ((Runner.ofDepth around (depth + 1)).eval mention.mention).Completes machine fun found after =>
      found = mention.recalled bound ∧ Wrote [] machine after :=
  eval_completes unlimited fun visited wrote =>
    ⟨_, visited, compute_mention (wrote.arena_eq ▸ resolves), rfl, .refl visited⟩

theorem mentions_completes {name : Token} {stmt : Stmt} (mentions : stmt.Mentions name.lexeme)
    {bound : Value} (resolves : machine.arena.resolve name.lexeme = .ok (some bound))
    (depth : Nat) :
    ((Runner.ofDepth around (depth + 2)).exec stmt).Completes machine fun outcome after =>
      outcome = .normal ∧ Wrote [(name.recalled bound).toText] machine after := by
  obtain ⟨mention, place, same, rfl⟩ := mentions
  have alike : mention.recalled bound = name.recalled bound := by simp only [Token.recalled, same]
  refine (visit_completes unlimited .output place).bind fun _ visited wrote => ?_
  have known : visited.arena.resolve mention.lexeme = .ok (some bound) := by
    rw [wrote.arena_eq, same, resolves]
  have puts : (execOutput around (.ofDepth around (depth + 1)) (some (mention.mention, none))
      place).Completes visited fun _ after =>
        Wrote [(name.recalled bound).toText] visited after := by
    refine (mention_completes unlimited known depth).bind ?_
    rintro value between ⟨found, wrote'⟩
    rw [found, alike]
    exact (emit_completes _ place).mono fun _ _ emits => wrote'.trans emits
  exact puts.bind fun _ after wrote' => .pure ⟨rfl, wrote.trans wrote'⟩

end

/-! ### Bindings -/

section

variable {stack : List Nat} {lines : List String} {machine : Machine}

/-- A declaration binds the name in the innermost scope, and no other name. -/
theorem declare_completes (stands : machine.Stands stack lines) (name : String) {value : Value}
    (held : value.CapturesIn Arena.locals) :
    (declare name value).Completes machine fun _ after => after.Stands stack lines ∧
      ∀ other, after.arena.boundIn other (stack.head?.getD Arena.globalId) =
        if other = name then some value
        else machine.arena.boundIn other (stack.head?.getD Arena.globalId) := by
  obtain ⟨bindings, found, result⟩ := stands.intact.sound.declare_ok name value
  refine ⟨(), _, Run.onArena_ok result, ⟨?_, stands.emitted_eq⟩, fun other => ?_⟩
  · exact stands.intact.withScope found name held
  · rw [Arena.boundIn_withScope, if_pos rfl, Table.get?_put, Arena.boundIn, found, Option.bind_some]

/-- From there on the name resolves to the value. -/
theorem declare_resolved (stands : machine.Stands stack lines) (name : String) {value : Value}
    (held : value.CapturesIn Arena.locals) :
    (declare name value).Completes machine fun _ after => after.Stands stack lines ∧
      after.arena.resolve name = .ok (some value) := by
  refine (declare_completes stands name held).mono ?_
  rintro _ after ⟨stands', bound⟩
  refine ⟨stands', stands'.intact.sound.resolve_innermost ?_⟩
  rw [bound, if_pos rfl]

theorem assign_completes (stands : machine.Stands stack lines) (name : String) {value : Value}
    (held : value.CapturesIn Arena.locals) :
    (Run.onArena (Arena.assign name value)).Completes machine fun _ after =>
      after.Stands stack lines ∧ after.arena.resolve name = .ok (some value) := by
  obtain ⟨_, bindings, found, result, resolves⟩ := stands.intact.sound.assign_resolves name value
  exact ⟨(), _, Run.onArena_ok result,
    ⟨stands.intact.withScope found name held, stands.emitted_eq⟩, resolves⟩

theorem ofLiteral_capturesIn (literal : Literal) :
    (Value.ofLiteral literal).CapturesIn Arena.locals :=
  held_of_nil (by cases literal <;> simp [Value.ofLiteral, Value.captured])

theorem declareAll_completes (stands : machine.Stands stack lines) (names : List String)
    {value : Value} (held : value.CapturesIn Arena.locals) :
    (declareAll value names).Completes machine fun _ after => after.Stands stack lines := by
  induction names generalizing machine with
  | nil => exact .pure stands
  | cons name rest ih =>
      refine (declare_completes stands name held).bind ?_
      rintro _ between ⟨stands', _⟩
      exact ih stands'

/-- A parameter is bound to the argument at its place, or to void, unless another of the name
follows. -/
theorem bindParams_completes (params : List String) {arguments : List Value}
    (held : ∀ argument ∈ arguments, argument.CapturesIn Arena.locals)
    (stands : machine.Stands stack lines) :
    (bindParams params arguments).Completes machine fun _ after => after.Stands stack lines ∧
      (∀ other, other ∉ params → after.arena.boundIn other (stack.head?.getD Arena.globalId) =
        machine.arena.boundIn other (stack.head?.getD Arena.globalId)) ∧
      ∀ front name back, params = front ++ name :: back → name ∉ back →
        after.arena.boundIn name (stack.head?.getD Arena.globalId) =
          some (arguments[front.length]?.getD .void) := by
  induction params generalizing arguments machine with
  | nil =>
      refine ⟨(), machine, rfl, stands, fun _ _ => rfl, fun front name back split => ?_⟩
      simp at split
  | cons param params ih =>
      have step : bindParams (param :: params) arguments = (do
          declare param (arguments.head?.getD .void)
          bindParams params arguments.tail) := by
        cases arguments <;> rfl
      have first : (arguments.head?.getD Value.void).CapturesIn Arena.locals := by
        cases arguments with
        | nil => exact held_of_nil (by simp [Value.captured])
        | cons argument rest => exact held argument List.mem_cons_self
      rw [step]
      refine (declare_completes stands param first).bind ?_
      rintro _ between ⟨stands', bound⟩
      have further :=
        ih (fun argument member => held argument (List.mem_of_mem_tail member)) stands'
      refine further.mono ?_
      rintro _ after ⟨stood, others, places⟩
      refine ⟨stood, ?_, ?_⟩
      · intro other apart
        obtain ⟨differs, behind⟩ := List.ne_and_not_mem_of_not_mem_cons apart
        rw [others other behind, bound, if_neg differs]
      · intro front name back split once
        cases front with
        | nil =>
            obtain ⟨rfl, rfl⟩ := List.cons.inj split
            -- no parameter behind it binds the name once more
            rw [others param once, bound, if_pos rfl, List.length_nil, List.head?_eq_getElem?]
        | cons other front =>
            obtain ⟨rfl, rfl⟩ := List.cons.inj split
            rw [places front name back rfl once, List.getElem?_tail, List.length_cons]

theorem inFresh_completes (around : Surroundings) {body : Run Outcome} {more : List String}
    {post : Outcome → Prop} (stands : machine.Stands stack lines)
    (completes : ∀ inside : Machine, inside.Stands (machine.arena.nextId :: stack) lines →
      body.Completes inside fun outcome after =>
        post outcome ∧ after.Stands (machine.arena.nextId :: stack) more) :
    (inFresh around body).Completes machine fun outcome after =>
      post outcome ∧ after.Stands stack more := by
  have inside : ({ machine with arena := machine.arena.pushFresh } : Machine).Stands
      (machine.arena.nextId :: stack) lines :=
    ⟨stands.intact.pushFresh, stands.emitted_eq⟩
  obtain ⟨outcome, after, ran, holds, stood⟩ := completes _ inside
  obtain ⟨arena, left, intact⟩ := (stood.intact.carry outcome.value).pop_ok around.upkeep
  have whole : (do
      let outcome ← body
      carry outcome.value
      pure outcome : Run Outcome) { machine with arena := machine.arena.pushFresh } =
        .ok outcome { after with arena := after.arena.carry outcome.value } := by
    simp only [bind, EStateM.bind, ran]
    rfl
  exact ⟨outcome, _, Run.inScope_ok whole left, holds, intact, stood.emitted_eq⟩

/-- What a name resolves to stays when the arena is tidied. -/
theorem tidy_completes (around : Surroundings) (value : Value)
    (stands : machine.Stands stack lines) :
    (tidy around value).Completes machine fun _ after => after.Stands stack lines ∧
      ∀ name, after.arena.resolve name = machine.arena.resolve name := by
  obtain ⟨count, arena, result, sound, shrinks, _⟩ :=
    stands.intact.sound.collect_ok around.upkeep [value]
  refine ⟨(), { machine with arena }, tidy_ok result, ⟨?_, stands.emitted_eq⟩, fun name => ?_⟩
  · exact ⟨sound, shrinks.capturesIn stands.intact.captures, stands.intact.uncaptured⟩
  · exact shrinks.resolve_eq stands.intact.sound sound

/-! ### Programs -/

/-- A statement completes and the arena is tidied behind it, before the others are run. -/
theorem runFrom_completes_cons {around : Surroundings} {inner : Runner} {last : Value} {stmt : Stmt}
    {rest : Program} {middle : Outcome → Machine → Prop} {post : Value → Machine → Prop}
    (completes : (inner.exec stmt).Completes machine fun outcome after =>
      outcome.returned = false ∧ after.Stands stack lines ∧ middle outcome after)
    (later : ∀ outcome between, middle outcome between → ∀ after : Machine,
      after.Stands stack lines →
        (∀ name, after.arena.resolve name = between.arena.resolve name) →
          (Program.runFrom around inner outcome.value rest).Completes after post) :
    (Program.runFrom around inner last (stmt :: rest)).Completes machine post := by
  refine completes.bind ?_
  rintro outcome between ⟨goes, stands, holds⟩
  refine (tidy_completes around outcome.value stands).bind ?_
  rintro _ after ⟨stands', same⟩
  rw [goes]
  exact later outcome between holds after stands' same

section

variable {around : Surroundings} (unlimited : around.budget = none) {name : Token}
  {stmt : Stmt} (mentions : stmt.Mentions name.lexeme) {bound : Value}

include unlimited mentions

theorem mention_runs (stands : machine.Stands stack lines)
    (resolves : machine.arena.resolve name.lexeme = .ok (some bound)) (depth : Nat) :
    ((Runner.ofDepth around (depth + 2)).exec stmt).Completes machine fun outcome after =>
      outcome = .normal ∧ after.Stands stack (lines ++ [(name.recalled bound).toText]) :=
  (mentions_completes unlimited mentions resolves depth).mono fun _ _ ⟨same, wrote⟩ =>
    ⟨same, stands.wrote wrote⟩

theorem bound_then_mentioned {binding : Stmt} {depth : Nat} (last : Value)
    (binds : ((Runner.ofDepth around (depth + 2)).exec binding).Completes machine
      fun outcome after => outcome = .normal ∧ after.Stands stack lines ∧
        after.arena.resolve name.lexeme = .ok (some bound)) :
    (Program.runFrom around (.ofDepth around (depth + 2)) last [binding, stmt]).Completes machine
      fun _ after => after.Stands stack (lines ++ [(name.recalled bound).toText]) := by
  refine runFrom_completes_cons (binds.mono fun outcome after ⟨same, stands, resolves⟩ =>
    ⟨same ▸ rfl, stands, resolves⟩) fun _ between resolves tidied stands same => ?_
  -- tidying the arena in between leaves what the name resolves to
  have again := (same name.lexeme).trans resolves
  refine runFrom_completes_cons ((mention_runs unlimited mentions stands again depth).mono
    fun outcome after ⟨same, stands⟩ => ⟨same ▸ rfl, stands, trivial⟩) fun _ _ _ _ stands _ => ?_
  exact .pure stands

omit mentions in
theorem literal_bound_runs {binds : Value → Run Unit} (kind : Node.Kind) (literal : Literal)
    (place place' : Place) (depth : Nat) (stands : machine.Stands stack lines)
    (bound : ∀ between : Machine, between.Stands stack lines →
      (binds (.ofLiteral literal)).Completes between fun _ after => after.Stands stack lines ∧
        after.arena.resolve name.lexeme = .ok (some (.ofLiteral literal))) :
    (do
      visit around kind place'
      let value ← (Runner.ofDepth around (depth + 1)).eval (.literal literal place)
      binds value
      pure Outcome.normal : Run Outcome).Completes machine
      fun outcome after => outcome = .normal ∧ after.Stands stack lines ∧
        after.arena.resolve name.lexeme = .ok (some (.ofLiteral literal)) := by
  refine (visit_completes unlimited kind place').bind fun _ visited wrote => ?_
  refine (literal_completes unlimited literal place depth).bind ?_
  rintro value between ⟨rfl, wrote'⟩
  have here : between.Stands stack lines := by
    simpa using stands.wrote (wrote.trans wrote')
  exact (bound between here).bind fun _ after holds => .pure ⟨rfl, holds⟩

omit mentions in
theorem declaration_runs (stands : machine.Stands stack lines) (literal : Literal)
    (place place' : Place) (depth : Nat) :
    ((Runner.ofDepth around (depth + 2)).exec
        (.declare name.lexeme (some (.literal literal place)) place')).Completes machine
      fun outcome after => outcome = .normal ∧ after.Stands stack lines ∧
        after.arena.resolve name.lexeme = .ok (some (.ofLiteral literal)) :=
  literal_bound_runs unlimited .declaration literal place place' depth stands fun _ here =>
    declare_resolved here name.lexeme (ofLiteral_capturesIn literal)

omit mentions in
theorem assignment_runs (stands : machine.Stands stack lines) (literal : Literal)
    (place place' : Place) (depth : Nat) :
    ((Runner.ofDepth around (depth + 2)).exec
        (.assign name.lexeme (.literal literal place) place')).Completes machine
      fun outcome after => outcome = .normal ∧ after.Stands stack lines ∧
        after.arena.resolve name.lexeme = .ok (some (.ofLiteral literal)) :=
  literal_bound_runs unlimited .assignment literal place place' depth stands fun _ here =>
    assign_completes here name.lexeme (ofLiteral_capturesIn literal)

/-! ### Functions -/

omit mentions in
theorem definition_runs {lines : List String} (stands : machine.Stands [] lines) (function : String)
    (params : List Param) (body : List Stmt) (bodyPlace place : Place) (inner : Runner) :
    (exec around inner (.define (some function) none params body bodyPlace place)).Completes machine
      fun outcome after => outcome = .normal ∧ after.Stands [] lines ∧
        after.arena.resolve function = .ok (some
          (.function ⟨function, params.map (·.name), body, bodyPlace, none⟩)) := by
  -- a function that is defined outside of every scope captures none
  refine (visit_completes unlimited .functionDefinition place).bind fun _ visited wrote => ?_
  have here : visited.Stands [] lines := by simpa using stands.wrote wrote
  have captures : Run.capture visited = .ok none visited := by
    simp [Run.capture, Arena.innermost?, here.intact.sound.stack_eq]
  have held : Value.CapturesIn Arena.locals
      (.function ⟨function, params.map (·.name), body, bodyPlace, none⟩) := by
    simp [Value.CapturesIn, Value.captured]
  have defines : (define (some function) none params body bodyPlace).Completes visited
      fun _ after => after.Stands [] lines ∧ after.arena.resolve function = .ok (some
          (.function ⟨function, params.map (·.name), body, bodyPlace, none⟩)) := by
    refine .bind_ok captures ?_
    exact (declare_resolved here function held).bind fun _ after holds => .pure holds
  exact defines.bind fun _ after holds => .pure ⟨rfl, holds⟩

theorem call_runs (stands : machine.Stands stack lines) {closure : Closure}
    (uncaptured : closure.scope = none) (body : closure.body = [stmt]) {front back : List String}
    (params : closure.params = front ++ name.lexeme :: back) (once : name.lexeme ∉ back)
    (arguments : List Literal) (depth : Nat) :
    ((Runner.ofDepth around (depth + 3)).call (.function closure)
        (arguments.map .ofLiteral)).Completes machine fun _ after =>
      after.Stands stack
        (lines ++ [(name.recalled (.ofLiteral (arguments[front.length]?.getD .void))).toText]) := by
  have held : ∀ argument ∈ arguments.map Value.ofLiteral,
      argument.CapturesIn Arena.locals := by
    intro argument member
    obtain ⟨literal, _, rfl⟩ := List.mem_map.mp member
    exact ofLiteral_capturesIn literal
  have runs : (callBody around (.ofDepth around (depth + 2)) closure
      (arguments.map .ofLiteral)).Completes machine fun _ after => after.Stands stack
        (lines ++ [(name.recalled (.ofLiteral (arguments[front.length]?.getD .void))).toText]) := by
    suffices inner : (inFresh around (do
        bindParams closure.params (arguments.map .ofLiteral)
        execBody (.ofDepth around (depth + 2)) closure.body)).Completes machine
          fun outcome after => outcome = .normal ∧ after.Stands stack _ from
      inner.bind fun outcome after holds => .pure holds.2
    refine inFresh_completes around stands fun inside stands' => ?_
    refine (bindParams_completes closure.params held stands').bind ?_
    rintro _ bound ⟨stood, _, places⟩
    have at' := places front name.lexeme back params once
    have resolves := stood.intact.sound.resolve_innermost at'
    rw [body]
    refine (mention_runs unlimited mentions stood resolves depth).bind ?_
    rintro outcome after ⟨same, last⟩
    subst same
    refine .pure ⟨rfl, ?_⟩
    -- where there are too few arguments both sides are void
    convert last using 5
    rw [List.getElem?_map]
    cases arguments[front.length]? <;> rfl
  have enters : (Runner.ofDepth around (depth + 3)).call (.function closure)
      (arguments.map .ofLiteral) = callBody around (.ofDepth around (depth + 2)) closure
        (arguments.map .ofLiteral) := inCaptured_none uncaptured
  rw [enters]
  exact runs

theorem called_then_mentioned {lines : List String} (stands : machine.Stands [] lines)
    {function : String} {closure : Closure}
    (resolves : machine.arena.resolve function = .ok (some (.function closure)))
    (uncaptured : closure.scope = none) (body : closure.body = [stmt]) {front back : List String}
    (params : closure.params = front ++ name.lexeme :: back) (once : name.lexeme ∉ back)
    {literals : List Literal} {arguments : List Expr} (are : Expr.Are literals arguments)
    (place : Place) (depth : Nat) :
    ((Runner.ofDepth around (depth + 5)).exec
        (.expression (.call function none arguments place))).Completes machine
      fun outcome after => outcome.returned = false ∧ after.Stands []
        (lines ++ [(name.recalled (.ofLiteral (literals[front.length]?.getD .void))).toText]) := by
  have evaluates : ((Runner.ofDepth around (depth + 4)).eval
      (.call function none arguments place)).Completes machine fun _ after => after.Stands []
        (lines ++ [(name.recalled (.ofLiteral (literals[front.length]?.getD .void))).toText]) := by
    refine (visit_completes unlimited .call place).bind fun _ visited wrote => ?_
    refine (literals_complete unlimited are (depth + 2)).bind ?_
    rintro values between ⟨same, wrote'⟩
    subst same
    have untouched := wrote.trans wrote'
    have here : between.Stands [] lines := by simpa using stands.wrote untouched
    have found : Run.resolve function between = .ok (some (.function closure)) between := by
      simp only [Run.resolve, untouched.arena_eq, resolves]
    -- what the arguments have written does not touch the binding of the function
    refine .bind_ok found ?_
    exact call_runs unlimited mentions here uncaptured body params once literals depth
  exact evaluates.bind fun value after stands' => .pure ⟨rfl, stands'⟩

/-! ### Loops -/

theorem round_runs (stands : machine.Stands stack lines) (literal : Literal) (index depth : Nat) :
    (round around (.ofDepth around (depth + 2)) index (some (name.lexeme, .ofLiteral literal))
        [stmt]).Completes machine fun outcome after => outcome.returned = false ∧
      after.Stands stack (lines ++ [(name.recalled (.ofLiteral literal)).toText]) := by
  refine inFresh_completes around stands fun inside stands' => ?_
  have number : (Value.number (Float.ofNat index)).CapturesIn Arena.locals :=
    held_of_nil (by simp [Value.captured])
  have held := ofLiteral_capturesIn literal
  refine (declareAll_completes stands' _ number).bind fun _ counted here => ?_
  refine (declare_resolved here name.lexeme held).bind ?_
  rintro _ between ⟨stood, resolves⟩
  refine (mention_runs unlimited mentions stood resolves depth).bind ?_
  rintro outcome after ⟨same, last⟩
  subst same
  exact .pure ⟨rfl, last⟩

theorem rounds_run (literals : List Literal) (bodyPlace : Place) (depth left : Nat) {index : Nat}
    (count : index + left = literals.length) (stands : machine.Stands stack lines) :
    (execRounds around (.ofDepth around (depth + 2)) (.ofList (literals.map .ofLiteral))
        (some name.lexeme) [stmt] bodyPlace left index).Completes machine fun outcome after =>
      outcome.returned = false ∧ after.Stands stack (lines ++
        (literals.drop index).map fun literal => (name.recalled (.ofLiteral literal)).toText) := by
  -- on the rounds that are left, while the index goes through the items
  induction left generalizing machine lines index with
  | zero =>
      have spent : literals.drop index = [] := List.drop_eq_nil_of_le (by omega)
      exact .pure ⟨rfl, by simpa [spent] using stands⟩
  | succ left ih =>
      have inside : index < literals.length := by omega
      have item : (Items.ofList (literals.map .ofLiteral)).item index =
          .ofLiteral literals[index] := by
        simp [Items.ofList, inside]
      refine (visit_completes unlimited .block bodyPlace).bind fun _ visited wrote => ?_
      have here : visited.Stands stack lines := by simpa using stands.wrote wrote
      rw [Option.map_some, item]
      refine (round_runs unlimited mentions here literals[index] index depth).bind ?_
      rintro outcome between ⟨goes, stands'⟩
      rw [goes]
      refine (ih (by omega) stands').mono ?_
      rintro _ after ⟨goes', stood⟩
      refine ⟨goes', ?_⟩
      rw [List.drop_eq_getElem_cons inside, List.map_cons]
      simpa using stood

theorem loop_runs (stands : machine.Stands stack lines) {literals : List Literal}
    {items : List Expr} (are : Expr.Are literals items) (listPlace bodyPlace place : Place)
    (depth : Nat) :
    ((Runner.ofDepth around (depth + 3)).exec
        (.loop (.each (some name.lexeme) (.list items listPlace)) [stmt] bodyPlace place)).Completes
      machine fun outcome after => outcome.returned = false ∧ after.Stands stack (lines ++
        literals.map fun literal => (name.recalled (.ofLiteral literal)).toText) := by
  refine (visit_completes unlimited .loop place).bind fun _ visited wrote => ?_
  have list : ((Runner.ofDepth around (depth + 2)).eval (.list items listPlace)).Completes visited
      fun found after => found = .list (literals.map .ofLiteral) ∧ Wrote [] visited after := by
    refine eval_completes unlimited fun between _ => ?_
    refine (literals_complete unlimited are depth).bind ?_
    rintro values after ⟨same, wrote⟩
    exact .pure ⟨by rw [same], wrote⟩
  refine list.bind ?_
  rintro value between ⟨same, wrote'⟩
  subst same
  have here : between.Stands stack lines := by simpa using stands.wrote (wrote.trans wrote')
  exact rounds_run unlimited mentions literals bodyPlace depth _ (by simp [Items.ofValue,
    Items.ofList]) here

/-! ### All four -/

/-- However the name is bound, the program runs to its end, and mentions what the name is bound
to. -/
theorem recital_runs {literals : List Literal} {program : Program}
    (recital : Recital name.lexeme stmt literals program) (stands : machine.Stands [] lines)
    {depth : Nat} (deep : 5 ≤ depth) :
    (program.run around depth).Completes machine fun _ after => after.Stands []
      (lines ++ literals.map fun literal => (name.recalled (.ofLiteral literal)).toText) := by
  -- the deepest way leads through a call: the statement and its value, then the body of the
  -- function, a statement in it and the mention there
  obtain ⟨depth, rfl⟩ := Nat.exists_eq_add_of_le' deep
  obtain ⟨literal, place, place'⟩ | ⟨literal, place, place'⟩ |
    @⟨function, params, front, back, literals, arguments, bodyPlace, place, callPlace, names, once,
      are⟩ | ⟨listPlace, bodyPlace, place, are⟩ := recital
  · exact bound_then_mentioned unlimited mentions .void
      (declaration_runs unlimited stands literal place place' (depth + 3))
  · exact bound_then_mentioned unlimited mentions .void
      (assignment_runs unlimited stands literal place place' (depth + 3))
  · have defines := definition_runs unlimited stands function params [stmt] bodyPlace place
      (.ofDepth around (depth + 4))
    refine runFrom_completes_cons (defines.mono fun outcome after ⟨same, stands', resolves⟩ =>
      ⟨same ▸ rfl, stands', resolves⟩) fun _ between resolves tidied stands' same => ?_
    have again := (same function).trans resolves
    have calls := called_then_mentioned unlimited mentions stands' again rfl rfl names once are
      callPlace depth
    refine runFrom_completes_cons (calls.mono fun outcome after ⟨goes, stood⟩ =>
      ⟨goes, stood, trivial⟩) fun _ _ _ _ stood _ => .pure stood
  · have loops := loop_runs unlimited mentions stands are listPlace bodyPlace place (depth + 2)
    refine runFrom_completes_cons (loops.mono fun outcome after ⟨goes, stood⟩ =>
      ⟨goes, stood, trivial⟩) fun _ _ _ _ stood _ => .pure stood

end

end

end Evaluation

end Parlance
