import Parlance.Proofs.Running.Dispatch
import Parlance.Proofs.Running.Following

/-!
Skipped operands. One of two evaluators skips the right operand of a logical operator that the left
operand has decided, the other evaluates it none the less. They do the same in the eyes of everyone
outside, if no right operand contains a call, neither in what is run nor in a function that is met
on the way: what is skipped could only have visited nodes, and its value would not have mattered.
-/

namespace Parlance

def Surroundings.shorting (short : Bool) (around : Surroundings) : Surroundings :=
  { around with settings := { around.settings with shortCircuit := short } }

theorem Surroundings.Easygoing.shorting {around : Surroundings} (easy : around.Easygoing)
    (short : Bool) : (around.shorting short).Easygoing :=
  ⟨easy.lenient, easy.unlimited⟩

/-- The parts of an evaluator of some depth are followed by those of another, one for each depth.
The evaluators for statements and calls visit a node one and two levels further down. -/
structure Runner.Follows (depth : Nat) (inner : Runner) (inner' : Nat → Runner) : Prop where
  eval : ∀ expr, Careful expr →
    Run.Follows depth (inner.eval expr) fun depth => (inner' depth).eval expr
  exec : ∀ stmt, Careful stmt →
    Run.Follows (depth - 1) (inner.exec stmt) fun depth => (inner' depth).exec stmt
  call : ∀ function arguments, Bears Careful function → Bears Careful arguments →
    Run.Follows (depth - 2) (inner.call function arguments)
      fun depth => (inner' depth).call function arguments
  still : ∀ expr, expr.callees = [] → Run.Still depth (inner.eval expr)
  idles : ∀ expr, expr.callees = [] → Run.Idles fun depth => (inner' depth).eval expr

namespace Evaluation

variable {around : Surroundings} {short : Bool} {depth : Nat} {inner : Runner}
  {inner' : Nat → Runner}

theorem visit_follows (easy : around.Easygoing) (kind : Node.Kind) (place : Place) :
    Run.Follows depth (visit around kind place)
      fun _ => visit (around.shorting short) kind place := by
  rw [visit_unlimited easy, visit_unlimited (easy.shorting short)]
  exact fun machine other stack beside =>
    .ok rfl (.const (Run.visit none kind place) other) bears_unit
      ((beside.idled_left (.visit kind place machine)).idled_right (.visit kind place other))
      (Nat.le_succ _)

/-- What is done behind a visit is done three levels of depth further down. -/
theorem visited_follows {α : Type} [Capturing α] [Bearing α] (easy : around.Easygoing)
    {kind : Node.Kind} {place : Place} {rest : Run α} {rests : Nat → Run α}
    (follows : Run.Follows depth rest rests) :
    Run.Follows (depth + 3) (do visit around kind place; rest)
      (fun depth => do visit (around.shorting short) kind place; rests depth) := by
  intro machine other stack beside
  have beside' : (machine.visit kind place).Beside stack (other.visit kind place) :=
    (beside.idled_left (.visit kind place machine)).idled_right (.visit kind place other)
  have first : ∀ machine, (do visit around kind place; rest) machine =
      rest (machine.visit kind place) := by
    intro machine
    rw [visit_unlimited easy]
    rfl
  have first' : ∀ depth, (do visit (around.shorting short) kind place; rests depth) other =
      rests depth (other.visit kind place) := by
    intro depth
    rw [visit_unlimited (easy.shorting short)]
    rfl
  have noted : machine.journal.length + 1 ≤ (machine.visit kind place).journal.length := le_rfl
  exact (follows _ _ stack beside').behind 1 (first machine) first' noted

theorem lookup_follows (name : String) :
    Run.Follows depth (lookup name) fun _ => lookup name := by
  refine .bind (.resolve name) fun found bears => ?_
  cases found with
  | none => exact .pure bears_void
  | some value => exact .pure (bears_some.mp bears)

theorem declareAll_follows (names : List String) {value : Value} (bears : Bears Careful value) :
    Run.Follows depth (declareAll value names) fun _ => declareAll value names := by
  induction names with
  | nil => exact .pure bears_unit
  | cons name rest ih => exact .bind (.declare name bears) fun _ _ => ih

theorem tidy_follows (value : Value) :
    Run.Follows depth (tidy around value) fun _ => tidy (around.shorting short) value := by
  refine .of_arena fun arena stack bears => ?_
  obtain ⟨count, after, result, kept⟩ := bears.collect_ok around.upkeep [value]
  refine ⟨(), after, ?_, kept, bears_unit⟩
  rintro machine rfl
  exact tidy_ok result

theorem lapse_follows (easy : around.Easygoing) (cause : Cause) (place : Place) :
    Run.Follows depth
      (if around.settings.strict = true then failAt around cause place else pure Value.void)
      fun _ => if (around.shorting short).settings.strict = true
        then failAt (around.shorting short) cause place else pure Value.void := by
  -- where strict settings would fail, others go on without a value
  simp only [easy.lenient, (easy.shorting short).lenient, Bool.false_eq_true, ↓reduceIte]
  exact .pure bears_void

/-! ### Modules -/

section

variable (calls : ∀ function arguments, Bears Careful function → Bears Careful arguments →
    Run.Follows depth (inner.call function arguments)
      fun depth => (inner' depth).call function arguments)
  (hosts : around.modules.Passes Careful) (easy : around.Easygoing)

include calls in
theorem script_follows (script : Script) (within : script.Within Arena.locals)
    (passes : script.Passes Careful) :
    Run.Follows depth (script.run ⟨Run.emit, lookup, inner.call⟩ Failure.caught?)
      fun depth => script.run ⟨Run.emit, lookup, (inner' depth).call⟩ Failure.caught? := by
  induction script with
  | give answer => exact .pure ⟨within, passes⟩
  | fail message => exact .pure (bears_of_nil rfl rfl)
  | emit line next ih => exact .bind (.note _) fun _ _ => ih within passes
  | lookup name next ih =>
      refine .bind (lookup_follows name) fun value given => ?_
      exact ih value (within value given.held) (passes value given.kindred)
  | invoke function arguments next ih =>
      have called : Bears Careful function := ⟨within.1, passes.1⟩
      have handed : Bears Careful arguments := ⟨within.2.1, passes.2.1⟩
      refine .bind (calls function arguments called handed) fun value given => ?_
      exact ih value (within.2.2 value given.held) (passes.2.2 value given.kindred)
  | attempt function arguments next otherwise ih ih' =>
      obtain ⟨inside, insides, later, later'⟩ := within
      obtain ⟨kindred, kindreds, handed, handed'⟩ := passes
      refine .rescue (calls function arguments ⟨inside, kindred⟩ ⟨insides, kindreds⟩)
        (fun value given => ?_) fun message => ih' message (later' message) (handed' message)
      exact ih value (later value given.held) (handed value given.kindred)

theorem answer_meets (request : Request) {stack : List Nat}
    {result result' : EStateM.Result Failure Machine (Except String Host)}
    (meets : Run.Meets stack result result') :
    Run.Meets stack (answer request result) (answer request result') := by
  -- only an answer that is no value of the language could tell the two runs apart, and it is the
  -- same
  cases result with
  | error failure machine =>
      cases result' with
      | ok _ _ => exact meets.elim
      | error failure' other =>
          obtain ⟨rfl, beside⟩ := meets
          exact ⟨rfl, beside⟩
  | ok given machine =>
      cases result' with
      | error _ _ => exact meets.elim
      | ok given' other =>
          obtain ⟨rfl, ⟨held, kindred⟩, beside⟩ := meets
          cases given' with
          | error reason => exact ⟨rfl, beside⟩
          | ok host =>
              cases made : host.toValue with
              | error _ =>
                  simp only [answer, made]
                  exact ⟨rfl, beside⟩
              | ok value =>
                  have borne : Bears Careful value :=
                    ⟨by simpa [Held, Capturing.captured, made] using held,
                      by simpa [Kindred, Bearing.closures, made] using kindred⟩
                  simp only [answer, made]
                  exact ⟨rfl, borne, beside⟩

theorem answer_sunk (request : Request) {machine : Machine}
    {result : EStateM.Result Failure Machine (Except String Host)}
    (sunk : Run.Sunk depth machine result) : Run.Sunk depth machine (answer request result) := by
  cases result with
  | ok _ _ => exact sunk.elim
  | error _ _ => exact ⟨rfl, sunk.2⟩

include calls hosts in
theorem dispatch_follows (request : Request) (handed : Bears Careful request.arguments) :
    Run.Follows depth (dispatch around inner request)
      fun depth => dispatch (around.shorting short) (inner' depth) request := by
  cases found : around.modules.find? request.module with
  | none =>
      have found' : (around.shorting short).modules.find? request.module = none := found
      simp only [dispatch_unknown found, dispatch_unknown found']
      exact .fail _
  | some entry =>
      have found' : (around.shorting short).modules.find? request.module = some entry := found
      have member := Table.mem_of_get? found
      have within := hosts.genuine _ member request handed.held
      have passes := hosts.passes _ member request handed.kindred
      have served : Run.Follows depth (serve inner entry request)
          fun depth => serve (inner' depth) entry request :=
        .bind (.note _) fun _ _ => script_follows calls _ within passes
      intro machine other stack beside
      simp only [Run.Abreast, dispatch_found found, left_answer]
      rcases served machine other stack beside with sunk | ⟨grows, ended, settles, meets⟩
      · exact Or.inl (answer_sunk request sunk)
      · exact Or.inr ⟨grows, answer request ended,
          settles.map fun _ => dispatch_found found' other, answer_meets request meets⟩

end

/-! ### Expressions -/

section

variable (parts : Runner.Follows depth inner inner') (hosts : around.modules.Passes Careful)
  (easy : around.Easygoing)

include parts in
theorem evalAll_follows (exprs : List Expr) (careful : Careful exprs) :
    Run.Follows depth (evalAll inner exprs) fun depth => evalAll (inner' depth) exprs := by
  induction exprs with
  | nil => exact .pure (bears_of_nil rfl rfl)
  | cons expr rest ih =>
      obtain ⟨first, later⟩ := List.forall_mem_append.mp careful
      refine .bind (parts.eval expr first) fun value here => ?_
      exact .bind (ih later) fun values behind => .pure (bears_cons.mpr ⟨here, behind⟩)

include parts easy in
theorem evalEntries_follows (pairs : List (MapKey × Expr)) (entries : List (String × Value))
    (careful : Careful pairs) (bears : Bears Careful entries) :
    Run.Follows depth (evalEntries around inner entries pairs)
      fun depth => evalEntries (around.shorting short) (inner' depth) entries pairs := by
  induction pairs generalizing entries with
  | nil => exact .pure bears
  | cons pair rest ih =>
      obtain ⟨first, later⟩ := List.forall_mem_append.mp careful
      refine .bind (parts.eval pair.2 first) fun value here => ?_
      refine .bind (visit_follows easy .literal pair.1.place) fun _ _ => ?_
      exact ih _ later (bears_put bears _ here)

include easy in
theorem evalName_follows (name : String) (place : Place) :
    Run.Follows depth (evalName around name place)
      fun _ => evalName (around.shorting short) name place := by
  refine .bind (.resolve name) fun found bears => ?_
  cases found with
  | some value => exact .pure (bears_some.mp bears)
  | none => exact lapse_follows easy _ place

include parts easy in
theorem evalBinary_follows (op : BinaryOp) (left right : Expr) (place : Place)
    (careful : Careful (Expr.binary op left right place)) :
    Run.Follows depth (evalBinary around inner op left right place)
      fun depth => evalBinary (around.shorting short) (inner' depth) op left right place := by
  -- either evaluator may skip the right operand once the left one has decided
  obtain ⟨silent, lefts, rights⟩ := careful_binary careful
  refine .bind (parts.eval left lefts) fun first _ => ?_
  have both : Run.Follows depth
      (inner.eval right >>= fun second => pure (op.apply first second))
      fun depth => (inner' depth).eval right >>= fun second => pure (op.apply first second) :=
    .bind (parts.eval right rights) fun second _ => .pure (bears_binary op first second)
  have lenient : (around.shorting short).settings.strict = false := (easy.shorting short).lenient
  simp only [easy.lenient, lenient, Bool.and_false, Bool.false_eq_true, ↓reduceIte]
  cases decided : op.decided? first with
  | none => simpa only [ite_self] using both
  | some value =>
      have same : ∀ second, op.apply first second = value := BinaryOp.apply_of_decided? decided
      have silent := silent (BinaryOp.isLogical_of_decided? decided)
      have bears : Bears Careful value := same .void ▸ bears_binary op first .void
      have settings : (around.shorting short).settings.shortCircuit = short := rfl
      rw [settings]
      -- neither evaluator skips the operand, the other one does, this one does, or both do
      cases around.settings.shortCircuit <;> cases short
      · exact both
      · exact .of_still bears (parts.still right silent) fun second => by rw [same]
      · exact .of_idles bears (parts.idles right silent) fun second => by rw [same]
      · exact .pure bears

include parts hosts easy in
theorem callElement_follows (callee : String) (arguments : List Value) (place : Place)
    (handed : Bears Careful arguments) :
    Run.Follows (depth - 2) (callElement around inner callee arguments place)
      fun depth => callElement (around.shorting short) (inner' depth) callee arguments place := by
  have capabilities : (around.shorting short).settings.capabilities =
      around.settings.capabilities := rfl
  have modules : (around.shorting short).modules = around.modules := rfl
  simp only [callElement, capabilities, modules]
  split
  · exact dispatch_follows parts.call hosts _ handed
  · exact lapse_follows easy _ place

include parts hosts easy in
theorem callBound_follows (callee : String) (arguments : List Value) (place : Place)
    (handed : Bears Careful arguments) :
    Run.Follows (depth - 2) (callBound around inner callee arguments place)
      fun depth => callBound (around.shorting short) (inner' depth) callee arguments place := by
  refine .bind (.resolve callee) fun found bears => ?_
  cases found with
  | none => exact callElement_follows parts hosts easy callee arguments place handed
  | some value =>
      cases value with
      | function closure => exact parts.call _ arguments (bears_some.mp bears) handed
      | number _ | text _ | boolean _ | list _ | map _ | void =>
          exact callElement_follows parts hosts easy callee arguments place handed

include parts hosts easy in
theorem evalCall_follows (callee : String) (method : Option String) (arguments : List Expr)
    (place : Place) (careful : Careful arguments) :
    Run.Follows (depth - 2) (evalCall around inner callee method arguments place)
      fun depth =>
        evalCall (around.shorting short) (inner' depth) callee method arguments place := by
  have evaluated := (evalAll_follows parts arguments careful).mono (Nat.sub_le depth 2)
  refine .bind evaluated fun values handed => ?_
  cases method with
  | none => exact callBound_follows parts hosts easy callee values place handed
  | some method =>
      have modules : (around.shorting short).modules = around.modules := rfl
      simp only [modules]
      split
      · exact dispatch_follows parts.call hosts _ handed
      · exact callBound_follows parts hosts easy callee values place handed

include parts hosts easy in
theorem compute_follows (expr : Expr) (careful : Careful expr) :
    Run.Follows (depth - 2) (compute around inner expr)
      fun depth => compute (around.shorting short) (inner' depth) expr := by
  have less : depth - 2 ≤ depth := Nat.sub_le depth 2
  cases expr with
  | literal value place => exact .pure (bears_ofLiteral value)
  | ident name place => exact evalName_follows easy name place
  | call callee method arguments place =>
      exact evalCall_follows parts hosts easy callee method arguments place careful
  | binary op left right place =>
      exact (evalBinary_follows parts easy op left right place careful).mono less
  | unary op operand place =>
      exact .bind ((parts.eval operand careful).mono less) fun value _ =>
        .pure (bears_unary op value)
  | list items place =>
      exact .bind ((evalAll_follows parts items careful).mono less) fun values given =>
        .pure (bears_list given)
  | map entries place =>
      have start : Bears Careful ([] : List (String × Value)) := bears_of_nil rfl rfl
      exact .bind ((evalEntries_follows parts easy entries [] careful start).mono less)
        fun values given => .pure (bears_map given)
  | index target position place =>
      obtain ⟨first, second⟩ := List.forall_mem_append.mp careful
      refine .bind ((parts.eval target first).mono less) fun value given => ?_
      exact .bind ((parts.eval position second).mono less) fun index _ =>
        .pure (bears_item given index)

include parts hosts easy in
theorem eval_follows (expr : Expr) (careful : Careful expr) :
    Run.Follows (depth + 1) (eval around inner expr)
      fun depth => eval (around.shorting short) (inner' depth) expr :=
  (visited_follows easy (compute_follows parts hosts easy expr careful)).mono (by omega)

end

/-! ### Statements -/

section

variable (evals : ∀ expr, Careful expr →
    Run.Follows depth (inner.eval expr) fun depth => (inner' depth).eval expr)
  (execs : ∀ stmt, Careful stmt →
    Run.Follows depth (inner.exec stmt) fun depth => (inner' depth).exec stmt)
  (easy : around.Easygoing)

include execs in
theorem execAll_follows (body : List Stmt) (last : Outcome) (bears : Bears Careful last)
    (careful : Careful body) :
    Run.Follows depth (execAll inner last body) fun depth => execAll (inner' depth) last body := by
  induction body generalizing last with
  | nil => exact .pure bears
  | cons stmt rest ih =>
      obtain ⟨first, later⟩ := List.forall_mem_append.mp careful
      refine .bind (execs stmt first) fun outcome new => ?_
      split
      · exact .pure new
      · exact ih outcome new later

include execs in
theorem execBody_follows (body : List Stmt) (careful : Careful body) :
    Run.Follows depth (execBody inner body) fun depth => execBody (inner' depth) body :=
  execAll_follows execs body .normal bears_normal careful

theorem inFresh_follows {body : Run Outcome} {bodies : Nat → Run Outcome}
    (follows : Run.Follows depth body bodies) :
    Run.Follows depth (inFresh around body)
      fun depth => inFresh (around.shorting short) (bodies depth) := by
  intro machine other stack beside
  have inside : Run.Follows depth
      (do
        let outcome ← body
        carry outcome.value
        pure outcome)
      (fun depth => do
        let outcome ← bodies depth
        carry outcome.value
        pure outcome) :=
    .bind follows fun outcome bears => .bind (.carry outcome.value) fun _ _ => .pure bears
  exact Run.Abreast.inScope around.upkeep Arena.pushFresh inside beside beside.bears.pushFresh

include execs in
theorem round_follows (index : Nat) (item : Option (String × Value)) (body : List Stmt)
    (bears : ∀ entry ∈ item, Bears Careful entry.2) (careful : Careful body) :
    Run.Follows depth (round around inner index item body)
      fun depth => round (around.shorting short) (inner' depth) index item body := by
  refine inFresh_follows (.bind (declareAll_follows _ (bears_number _)) fun _ _ => ?_)
  cases item with
  | none => exact execBody_follows execs body careful
  | some entry =>
      exact .bind (.declare entry.1 (bears entry rfl)) fun _ _ =>
        execBody_follows execs body careful

include execs easy in
theorem execRounds_follows (items : Items) (item : Option String) (body : List Stmt)
    (bodyPlace : Place) (bears : ∀ index, Bears Careful (items.item index))
    (careful : Careful body) (left index : Nat) :
    Run.Follows depth (execRounds around inner items item body bodyPlace left index)
      fun depth => execRounds (around.shorting short) (inner' depth) items item body bodyPlace left
        index := by
  induction left generalizing index with
  | zero => exact .pure bears_normal
  | succ left ih =>
      have entry : ∀ entry ∈ item.map (fun name => (name, items.item index)),
          Bears Careful entry.2 := by
        intro entry here
        obtain ⟨_, _, rfl⟩ := Option.map_eq_some_iff.mp here
        exact bears index
      refine .bind (visit_follows easy .block bodyPlace) fun _ _ => ?_
      refine .bind (round_follows execs index _ body entry careful) fun outcome new => ?_
      split
      · exact .pure new
      · exact ih (index + 1)

include evals execs in
theorem execGuarded_follows (guard : Expr) (body : List Stmt) (guards : Careful guard)
    (careful : Careful body) (left index : Nat) :
    Run.Follows depth (execGuarded around inner guard body left index)
      fun depth => execGuarded (around.shorting short) (inner' depth) guard body left index := by
  -- a loop that takes too many rounds takes too many for both evaluators
  induction left generalizing index with
  | zero => exact .fail _
  | succ left ih =>
      refine .bind (evals guard guards) fun value _ => ?_
      split
      · refine .bind (round_follows execs index none body nofun careful) fun outcome new => ?_
        split
        · exact .pure new
        · exact ih (index + 1)
      · exact .pure bears_normal

include evals execs easy in
theorem execLoop_follows (head : LoopHead) (body : List Stmt) (bodyPlace : Place)
    (heads : Careful head.expr) (careful : Careful body) :
    Run.Follows depth (execLoop around inner head body bodyPlace)
      fun depth => execLoop (around.shorting short) (inner' depth) head body bodyPlace := by
  cases head with
  | count rounds =>
      refine .bind (evals rounds heads) fun value _ => ?_
      let items := Items.upTo (Value.countOf value.toNumber)
      have numbers : ∀ index, Bears Careful (items.item index) := fun _ => bears_number _
      exact execRounds_follows execs easy _ none body bodyPlace numbers careful _ 0
  | each item list =>
      refine .bind (evals list heads) fun value given => ?_
      exact execRounds_follows execs easy _ item body bodyPlace (bears_ofValue given) careful _ 0
  | guard condition =>
      exact execGuarded_follows evals execs condition body heads careful around.rounds 0

theorem define_follows (name byname : Option String) (params : List Param) (body : List Stmt)
    (bodyPlace : Place) (careful : Careful body) :
    Run.Follows depth (define name byname params body bodyPlace)
      fun _ => define name byname params body bodyPlace := by
  refine .bind .capture fun scope captured => declareAll_follows _ ⟨?_, ?_⟩
  · simpa [Held, Capturing.captured, Value.captured] using captured.held
  · exact kindred_function.mpr careful

include evals in
theorem evalOptional_follows (expr : Option Expr) (careful : Careful expr) :
    Run.Follows depth (evalOptional inner expr) fun depth => evalOptional (inner' depth) expr := by
  cases expr with
  | none => exact .pure bears_void
  | some expr => exact evals expr (List.forall_mem_append.mp careful).1

include easy in
theorem emitTimes_follows (line : String) (place : Place) (first : Bool) (count : Nat) :
    Run.Follows depth (emitTimes around line place first count)
      fun _ => emitTimes (around.shorting short) line place first count := by
  induction count generalizing first with
  | zero => exact .pure bears_unit
  | succ count ih =>
      have emits : Run.Follows depth
          (do Run.emit line; emitTimes around line place false count)
          (fun _ => do Run.emit line; emitTimes (around.shorting short) line place false count) :=
        .bind (.note _) fun _ _ => ih false
      cases first with
      -- the first line is emitted in the step of the statement, any other takes one more
      | true => exact emits
      | false => exact .bind (visit_follows easy .output place) fun _ _ => emits

include evals easy in
theorem execOutput_follows (what : Option (Expr × Option Expr)) (place : Place)
    (careful : Careful (Stmt.outputArguments what)) :
    Run.Follows depth (execOutput around inner what place)
      fun depth => execOutput (around.shorting short) (inner' depth) what place := by
  rcases what with _ | ⟨expr, _ | count⟩
  · exact emitTimes_follows easy "" place true 1
  · obtain ⟨first, _⟩ := List.forall_mem_append.mp careful
    exact .bind (evals expr first) fun value _ => emitTimes_follows easy _ place true 1
  · obtain ⟨first, later⟩ := List.forall_mem_append.mp careful
    obtain ⟨second, _⟩ := List.forall_mem_append.mp later
    refine .bind (evals expr first) fun value _ => ?_
    exact .bind (evals count second) fun times _ => emitTimes_follows easy _ place true _

include evals execs easy in
theorem perform_follows (stmt : Stmt) (careful : Careful stmt) :
    Run.Follows depth (perform around inner stmt)
      fun depth => perform (around.shorting short) (inner' depth) stmt := by
  have normal : Run.Follows depth (pure Outcome.normal) fun _ => pure Outcome.normal :=
    .pure bears_normal
  -- no statement skips anything itself, so its parts are followed one by one
  cases stmt with
  | expression expr =>
      exact .bind (evals expr careful) fun value given => .pure (bears_outcome.mpr given)
  | block body place => exact inFresh_follows (execBody_follows execs body careful)
  | declare name initial place =>
      refine .bind (evalOptional_follows evals initial careful) fun value given => ?_
      exact .bind (.declare name given) fun _ _ => normal
  | assign name expr place =>
      refine .bind (evals expr careful) fun value given => ?_
      exact .bind (.assign name given) fun _ _ => normal
  | define name byname params body bodyPlace place =>
      exact .bind (define_follows name byname params body bodyPlace careful) fun _ _ => normal
  | conditional guard body bodyPlace otherwise place =>
      obtain ⟨guards, branches⟩ := List.forall_mem_append.mp careful
      obtain ⟨first, second⟩ := List.forall_mem_append.mp branches
      refine .bind (evals guard guards) fun value _ => ?_
      split
      · exact execs (.block body bodyPlace) first
      · cases otherwise with
        | absent => exact normal
        | block body place => exact execs (.block body place) second
        | conditional guard body bodyPlace otherwise place =>
            exact execs (.conditional guard body bodyPlace otherwise place) second
  | loop head body bodyPlace place =>
      obtain ⟨heads, bodies⟩ := List.forall_mem_append.mp careful
      exact execLoop_follows evals execs easy head body bodyPlace heads bodies
  | giveBack expr place =>
      exact .bind (evalOptional_follows evals expr careful) fun value given =>
        .pure (bears_outcome.mpr given)
  | output what place =>
      exact .bind (execOutput_follows evals easy what place careful) fun _ _ => normal

end

section

variable (parts : Runner.Follows depth inner inner') (hosts : around.modules.Passes Careful)
  (easy : around.Easygoing)

include parts easy in
theorem exec_follows (stmt : Stmt) (careful : Careful stmt) :
    Run.Follows depth (exec around inner stmt)
      fun depth => exec (around.shorting short) (inner' depth) stmt := by
  -- an expression that is a statement is visited as an expression only
  have performs : Run.Follows (depth - 1) (perform around inner stmt)
      fun depth => perform (around.shorting short) (inner' depth) stmt :=
    perform_follows (fun expr careful => (parts.eval expr careful).mono (Nat.sub_le depth 1))
      parts.exec easy stmt careful
  simp only [exec]
  cases head : stmt.head? with
  | none =>
      cases stmt with
      | expression expr =>
          exact .bind (parts.eval expr careful) fun value given => .pure (bears_outcome.mpr given)
      | _ => cases head
  | some head => exact (visited_follows easy performs).mono (by omega)

/-! ### Functions -/

theorem bindParams_follows (params : List String) (arguments : List Value)
    (handed : Bears Careful arguments) :
    Run.Follows depth (bindParams params arguments) fun _ => bindParams params arguments := by
  induction params generalizing arguments with
  | nil => exact .pure bears_unit
  | cons param params ih =>
      cases arguments with
      | nil => exact .bind (.declare param bears_void) fun _ _ => ih [] handed
      | cons value values =>
          obtain ⟨first, later⟩ := bears_cons.mp handed
          exact .bind (.declare param first) fun _ _ => ih values later

include parts in
theorem callBody_follows (closure : Closure) (arguments : List Value) (careful : Careful closure)
    (handed : Bears Careful arguments) :
    Run.Follows (depth - 1) (callBody around inner closure arguments)
      fun depth => callBody (around.shorting short) (inner' depth) closure arguments := by
  refine .bind (inFresh_follows ?_) fun outcome new => .pure (bears_outcome.mp new)
  exact .bind (bindParams_follows closure.params arguments handed) fun _ _ =>
    execBody_follows parts.exec closure.body careful

theorem inCaptured_follows (closure : Closure) (held : Held Arena.locals (Value.function closure))
    {body : Run Value} {bodies : Nat → Run Value} (follows : Run.Follows depth body bodies) :
    Run.Follows depth (inCaptured around closure body)
      fun depth => inCaptured (around.shorting short) closure (bodies depth) := by
  -- both evaluators find the scope that a function captured, or both miss it
  cases scope : closure.scope with
  | none =>
      simp only [inCaptured_none scope]
      exact follows
  | some id =>
      have here : id ∈ Arena.locals :=
        held id (by simp [Capturing.captured, Value.captured, scope])
      intro machine other stack beside
      by_cases live : machine.arena.isLive id = true
      · have live' : other.arena.isLive id = true := beside.arena_eq ▸ live
        have inside := Run.Abreast.inScope around.upkeep
          (fun arena => Arena.carry (.function closure) (Arena.push id arena)) follows beside
          ((beside.bears.push live here).carry (.function closure))
        exact inside.behind 0 (inCaptured_entered scope live)
          (fun depth => inCaptured_entered scope live') le_rfl
      · have live' : ¬ other.arena.isLive id = true := beside.arena_eq ▸ live
        have strayed : (Machine.mk machine.arena machine.steps machine.journal
            (closure.name :: machine.strays)).Beside stack (Machine.mk other.arena other.steps
              other.journal (closure.name :: other.strays)) :=
          ⟨beside.bears, beside.arena_eq, by rw [beside.strays_eq], beside.outward_eq⟩
        exact (follows _ _ stack strayed).behind 0 (inCaptured_missed scope live)
          (fun depth => inCaptured_missed scope live') le_rfl

include parts in
theorem call_follows (function : Value) (arguments : List Value) (called : Bears Careful function)
    (handed : Bears Careful arguments) :
    Run.Follows (depth - 1) (call around inner function arguments)
      fun depth => call (around.shorting short) (inner' depth) function arguments := by
  cases function with
  | function closure =>
      exact inCaptured_follows closure called.held
        (callBody_follows parts closure arguments (kindred_function.mp called.kindred) handed)
  | number _ | text _ | boolean _ | list _ | map _ | void => exact .pure bears_void

end

end Evaluation

/-! ### Programs -/

variable {around : Surroundings} {short : Bool}

theorem Runner.ofDepth_follows (hosts : around.modules.Passes Careful) (easy : around.Easygoing)
    (short : Bool) (depth : Nat) :
    Runner.Follows depth (.ofDepth around depth) (.ofDepth (around.shorting short)) := by
  -- a runner's parts are run by the runner of the depth below
  induction depth with
  | zero =>
      exact
        { eval := fun _ _ => .exhausted _
          exec := fun _ _ => .exhausted _
          call := fun _ _ _ _ => .exhausted _
          still := fun expr silent => (Evaluation.eval_idles_of_silent easy expr silent).still 0
          idles := Evaluation.eval_idles_of_silent (easy.shorting short) }
  | succ depth ih =>
      exact
        { eval := fun expr careful =>
            (Evaluation.eval_follows ih hosts easy expr careful).deepen fun _ => rfl
          exec := fun stmt careful =>
            (Evaluation.exec_follows ih easy stmt careful).deepen fun _ => rfl
          call := fun function arguments called handed =>
            (Evaluation.call_follows ih function arguments called handed).deepen fun _ => rfl
          still := fun expr silent =>
            (Evaluation.eval_idles_of_silent easy expr silent).still (depth + 1)
          idles := Evaluation.eval_idles_of_silent (easy.shorting short) }

theorem Program.runFrom_follows {depth : Nat} {runner : Runner} {runners : Nat → Runner}
    (parts : Runner.Follows depth runner runners) (program : Program) (last : Value)
    (careful : Careful program) (bears : Bears Careful last) :
    Run.Follows (depth - 1) (program.runFrom around runner last)
      fun depth => program.runFrom (around.shorting short) (runners depth) last := by
  induction program generalizing last with
  | nil => exact .pure bears
  | cons stmt rest ih =>
      obtain ⟨first, later⟩ := List.forall_mem_append.mp careful
      refine .bind (parts.exec stmt first) fun outcome new => ?_
      refine .bind (Evaluation.tidy_follows outcome.value) fun _ _ => ?_
      split
      · exact .pure (bears_outcome.mp new)
      · exact ih outcome.value later (bears_outcome.mp new)

/-- A careful program does the same in the eyes of everyone outside, whether right operands are
skipped or not. -/
theorem Program.run_follows (hosts : around.modules.Passes Careful) (easy : around.Easygoing)
    (short : Bool) (depth : Nat) (program : Program) (careful : Careful program) :
    Run.Follows (depth - 1) (program.run around depth)
      fun depth => program.run (around.shorting short) depth :=
  program.runFrom_follows (Runner.ofDepth_follows hosts easy short depth) .void careful bears_void

end Parlance
