import Parlance.Proofs.Running.Calling

/-!
Modules that a program does not call. Two evaluators that differ in their modules only, and find
those under the names of a set alike, do the same as long as the functions that they meet call no
other names; and they make none that does.
-/

namespace Parlance

def Surroundings.hosting (modules : Registry) (around : Surroundings) : Surroundings :=
  { around with modules }

/-- Other modules that are found alike under the names of a set and under that of the elements.
No handler makes up a function that calls another name. -/
structure Surroundings.Shares (common : String → Prop) (around : Surroundings)
    (modules : Registry) : Prop where
  find?_eq : ∀ ⦃name⦄, common name → modules.find? name = around.modules.find? name
  element_eq : modules.find? around.settings.capabilities.elementModule =
    around.modules.find? around.settings.capabilities.elementModule
  handsOnly : ∀ entry ∈ around.modules.handlers, entry.2.handler.HandsOnly common

namespace Run

/-- What a run hands on calls only names of a set, and what it leaves bound too. -/
def Leaves (common : String → Prop) {α : Type} [Calling α] :
    EStateM.Result Failure Machine α → Prop
  | .ok a machine => CallsOnly common a ∧ machine.arena.BindsOnly common
  | .error _ machine => machine.arena.BindsOnly common

/-- Two runs do the same while all that is bound calls only names of a set, and it stays so. -/
def Concur (common : String → Prop) {α : Type} [Calling α] (run run' : Run α) : Prop :=
  ∀ machine, machine.arena.BindsOnly common →
    run' machine = run machine ∧ Leaves common (run machine)

variable {common : String → Prop} {α β : Type} [Calling α] [Calling β]

theorem Leaves.left {result : EStateM.Result Failure Machine α} (leaves : Leaves common result) :
    (Run.left result).arena.BindsOnly common := by
  cases result with
  | ok a machine => exact leaves.2
  | error failure machine => exact leaves

namespace Concur

/-- A run that reads no module does the same as itself. -/
theorem of_leaves {run : Run α}
    (leaves : ∀ machine, machine.arena.BindsOnly common → Leaves common (run machine)) :
    Concur common run run :=
  fun machine only => ⟨rfl, leaves machine only⟩

theorem pure {a : α} (only : CallsOnly common a) : Concur common (Pure.pure a) (Pure.pure a) :=
  of_leaves fun _ binds => ⟨only, binds⟩

theorem bind {run run' : Run α} {rest rest' : α → Run β} (first : Concur common run run')
    (later : ∀ a, CallsOnly common a → Concur common (rest a) (rest' a)) :
    Concur common (run >>= rest) (run' >>= rest') := by
  intro machine only
  obtain ⟨same, leaves⟩ := first machine only
  simp only [Bind.bind, EStateM.bind, same]
  cases result : run machine with
  | ok a after =>
      rw [result] at leaves
      exact later a leaves.1 after leaves.2
  | error failure after =>
      rw [result] at leaves
      exact ⟨rfl, leaves⟩

theorem rescue {run run' : Run α} {rest rest' : α → Run β} {spare spare' : String → Run β}
    (first : Concur common run run')
    (later : ∀ a, CallsOnly common a → Concur common (rest a) (rest' a))
    (otherwise : ∀ message, Concur common (spare message) (spare' message)) :
    Concur common (Script.rescue Failure.caught? run rest spare)
      (Script.rescue Failure.caught? run' rest' spare') := by
  -- both runs fail alike, so both go on or neither does
  intro machine only
  obtain ⟨same, leaves⟩ := first machine only
  cases result : run machine with
  | ok a after =>
      rw [result] at same leaves
      rw [Script.rescue_ok result, Script.rescue_ok same]
      exact later a leaves.1 after leaves.2
  | error failure after =>
      rw [result] at same leaves
      cases caught : failure.caught? with
      | none =>
          rw [Script.rescue_uncaught result caught, Script.rescue_uncaught same caught]
          exact ⟨rfl, leaves⟩
      | some message =>
          rw [Script.rescue_caught result caught, Script.rescue_caught same caught]
          exact otherwise message after leaves

theorem fail (failure : Failure) : Concur common (Run.fail failure : Run α) (Run.fail failure) :=
  of_leaves fun _ only => only

theorem note (event : Event) : Concur common (Run.note event) (Run.note event) :=
  of_leaves fun _ only => ⟨List.forall_mem_nil _, only⟩

theorem visit (budget : Option Nat) (kind : Node.Kind) (place : Place) :
    Concur common (Run.visit budget kind place) (Run.visit budget kind place) := by
  apply of_leaves
  intro machine only
  rcases visit_cases budget kind place machine with ⟨limit, _, _, result⟩ | ⟨_, result⟩
  · rw [result]
    exact only
  · rw [result]
    exact ⟨List.forall_mem_nil _, only⟩

theorem onArena {action : Arena.Action Unit} (keeps : ∀ arena : Arena, arena.BindsOnly common →
    (Arena.left (action arena)).BindsOnly common) :
    Concur common (Run.onArena action) (Run.onArena action) := by
  apply of_leaves
  intro machine only
  have kept := keeps machine.arena only
  simp only [Run.onArena]
  cases result : action machine.arena with
  | ok _ arena =>
      rw [result] at kept
      exact ⟨List.forall_mem_nil _, kept⟩
  | error fault arena =>
      rw [result] at kept
      exact kept

theorem resolve (name : String) : Concur common (Run.resolve name) (Run.resolve name) := by
  apply of_leaves
  intro machine only
  simp only [Run.resolve]
  cases result : machine.arena.resolve name with
  | ok found => exact ⟨only.resolve result, only⟩
  | error fault => exact only

theorem capture : Concur common Run.capture Run.capture := by
  apply of_leaves
  intro machine only
  simp only [Run.capture]
  cases machine.arena.innermost? with
  | none => exact ⟨List.forall_mem_nil _, only⟩
  | some id => exact ⟨List.forall_mem_nil _, only.of_scopes (Arena.pin_scopes id _)⟩

theorem inScope {upkeep : Arena.Upkeep} {enter : Arena → Arena} {body body' : Run α}
    (enters : ∀ arena : Arena, arena.BindsOnly common → (enter arena).BindsOnly common)
    (bodies : Concur common body body') :
    Concur common (Run.inScope upkeep enter body) (Run.inScope upkeep enter body') := by
  -- whatever is done in a scope, leaving it binds nothing
  intro machine only
  obtain ⟨same, leaves⟩ :=
    bodies { machine with arena := enter machine.arena } (enters machine.arena only)
  refine ⟨by simp only [Run.inScope, same], ?_⟩
  have kept : (Run.left (Run.inScope upkeep enter body machine)).arena.BindsOnly common := by
    rw [left_inScope]
    exact leaves.left.of_subset (Arena.scopes_pop_subset upkeep)
  cases result : Run.inScope upkeep enter body machine with
  | error failure after =>
      rw [result] at kept
      exact kept
  | ok value after =>
      rw [result] at kept
      refine ⟨?_, kept⟩
      -- a scope that is left with a value is left with that of the body
      simp only [Run.inScope] at result
      split at result
      · rename_i inside
        rw [inside] at leaves
        split at result
        · obtain ⟨rfl, _⟩ := EStateM.Result.ok.inj result
          exact leaves.1
        · cases result
      · split at result <;> cases result

end Concur

end Run

/-- The parts of two evaluators do the same with programs that call only names of a set. -/
structure Runner.Concur (common : String → Prop) (inner inner' : Runner) : Prop where
  eval : ∀ expr, CallsOnly common expr →
    Run.Concur common (inner.eval expr) (inner'.eval expr)
  exec : ∀ stmt, CallsOnly common stmt →
    Run.Concur common (inner.exec stmt) (inner'.exec stmt)
  call : ∀ function arguments, CallsOnly common function → CallsOnly common arguments →
    Run.Concur common (inner.call function arguments) (inner'.call function arguments)

namespace Evaluation

variable {common : String → Prop} {around : Surroundings} {modules : Registry}
  {inner inner' : Runner}

/-! ### Primitives -/

theorem visit_concurs (kind : Node.Kind) (place : Place) :
    Run.Concur common (visit around kind place) (visit (around.hosting modules) kind place) :=
  .visit around.budget kind place

theorem failAt_concurs {α : Type} [Calling α] (cause : Cause) (place : Place) :
    Run.Concur common (failAt around cause place : Run α)
      (failAt (around.hosting modules) cause place) :=
  .fail _

theorem declare_concurs {value : Value} (only : CallsOnly common value) (name : String) :
    Run.Concur common (declare name value) (declare name value) :=
  .onArena fun _ binds => binds.declare only

theorem carry_concurs (value : Value) : Run.Concur common (carry value) (carry value) :=
  .of_leaves fun _ only => ⟨List.forall_mem_nil _, only.of_scopes (Arena.carry_scopes value _)⟩

theorem tidy_concurs (value : Value) :
    Run.Concur common (tidy around value) (tidy (around.hosting modules) value) := by
  refine .of_leaves fun machine only => ?_
  have kept : (Run.left (tidy around value machine)).arena.BindsOnly common := by
    rw [left_tidy, Run.left_onArena]
    exact only.of_subset (Arena.scopes_collect_subset around.upkeep [value])
  cases result : tidy around value machine with
  | ok _ after =>
      rw [result] at kept
      exact ⟨List.forall_mem_nil _, kept⟩
  | error _ after =>
      rw [result] at kept
      exact kept

theorem lookup_concurs (name : String) : Run.Concur common (lookup name) (lookup name) := by
  refine .bind (.resolve name) fun found only => ?_
  cases found with
  | none => exact .pure callsOnly_void
  | some value => exact .pure (callsOnly_some.mp only)

section

variable (parts : Runner.Concur common inner inner') (shares : around.Shares common modules)

/-! ### Modules -/

include parts in
theorem script_concurs (script : Script) (only : script.HandsOnly common) :
    Run.Concur common (script.run ⟨Run.emit, lookup, inner.call⟩ Failure.caught?)
      (script.run ⟨Run.emit, lookup, inner'.call⟩ Failure.caught?) := by
  induction script with
  | give answer => exact .pure only
  | fail message => exact .pure (List.forall_mem_nil _)
  | emit line next ih => exact .bind (.note _) fun _ _ => ih only
  | lookup name next ih =>
      exact .bind (lookup_concurs name) fun value given => ih value (only value given)
  | invoke function arguments next ih =>
      obtain ⟨called, arguments, later⟩ := only
      exact .bind (parts.call _ _ called arguments) fun value given => ih value (later value given)
  | attempt function arguments next otherwise ih ih' =>
      obtain ⟨called, arguments, later, later'⟩ := only
      exact .rescue (parts.call _ _ called arguments)
        (fun value given => ih value (later value given))
        (fun message => ih' message (later' message))

theorem answer_leaves (request : Request)
    {result : EStateM.Result Failure Machine (Except String Host)}
    (leaves : Run.Leaves common result) : Run.Leaves common (answer request result) := by
  match result with
  | .error _ _ => exact leaves
  | .ok (.error _) _ => exact leaves.2
  | .ok (.ok host) _ =>
      simp only [answer]
      cases made : host.toValue with
      | error _ => exact leaves.2
      | ok value => exact ⟨by simpa [CallsOnly, callees, made] using leaves.1, leaves.2⟩

include parts shares in
theorem dispatch_concurs (request : Request)
    (same : modules.find? request.module = around.modules.find? request.module)
    (only : CallsOnly common request.arguments) :
    Run.Concur common (dispatch around inner request)
      (dispatch (around.hosting modules) inner' request) := by
  -- a module that is found alike is asked alike
  cases found : around.modules.find? request.module with
  | none =>
      rw [dispatch_unknown found, dispatch_unknown (same.trans found)]
      exact .fail _
  | some entry =>
      have found' : (around.hosting modules).modules.find? request.module = some entry :=
        same.trans found
      have hands := shares.handsOnly _ (Table.mem_of_get? found) request only
      have served : Run.Concur common (serve inner entry request) (serve inner' entry request) :=
        .bind (.note _) fun _ _ => script_concurs parts _ hands
      intro machine binds
      obtain ⟨alike, leaves⟩ := served machine binds
      rw [dispatch_found found, dispatch_found found', alike]
      exact ⟨rfl, answer_leaves request leaves⟩

/-! ### Expressions -/

include parts in
theorem evalAll_concurs (exprs : List Expr) (only : CallsOnly common exprs) :
    Run.Concur common (evalAll inner exprs) (evalAll inner' exprs) := by
  induction exprs with
  | nil => exact .pure (List.forall_mem_nil _)
  | cons expr rest ih =>
      obtain ⟨first, later⟩ := List.forall_mem_append.mp only
      refine .bind (parts.eval expr first) fun value here => ?_
      refine .bind (ih later) fun values behind => ?_
      exact .pure (List.forall_mem_append.mpr ⟨here, behind⟩)

include parts in
theorem evalEntries_concurs (pairs : List (MapKey × Expr)) (entries : List (String × Value))
    (only : CallsOnly common pairs) (held : CallsOnly common entries) :
    Run.Concur common (evalEntries around inner entries pairs)
      (evalEntries (around.hosting modules) inner' entries pairs) := by
  induction pairs generalizing entries with
  | nil => exact .pure held
  | cons pair rest ih =>
      obtain ⟨first, later⟩ := List.forall_mem_append.mp only
      refine .bind (parts.eval pair.2 first) fun value here => ?_
      refine .bind (visit_concurs .literal pair.1.place) fun _ _ => ?_
      exact ih _ later (callsOnly_put held _ here)

theorem lapse_concurs (cause : Cause) (place : Place) :
    Run.Concur common
      (if around.settings.strict = true then failAt around cause place else pure Value.void)
      (if around.settings.strict = true then failAt (around.hosting modules) cause place
        else pure Value.void) := by
  -- where strict settings fail, others go on without a value
  split
  · exact failAt_concurs cause place
  · exact .pure callsOnly_void

theorem evalName_concurs (name : String) (place : Place) :
    Run.Concur common (evalName around name place)
      (evalName (around.hosting modules) name place) := by
  refine .bind (.resolve name) fun found only => ?_
  cases found with
  | some value => exact .pure (callsOnly_some.mp only)
  | none => exact lapse_concurs _ place

include parts in
theorem evalBinary_concurs (op : BinaryOp) (left right : Expr) (place : Place)
    (lefts : CallsOnly common left) (rights : CallsOnly common right) :
    Run.Concur common (evalBinary around inner op left right place)
      (evalBinary (around.hosting modules) inner' op left right place) := by
  refine .bind (parts.eval left lefts) fun first _ => ?_
  have settings : (around.hosting modules).settings = around.settings := rfl
  rw [settings]
  cases decided : if around.settings.shortCircuit = true then op.decided? first else none with
  | some value =>
      -- what the left operand decides alone is what both come to, and that holds no function
      by_cases short : around.settings.shortCircuit = true
      · rw [if_pos short] at decided
        rw [← BinaryOp.apply_of_decided? decided .void]
        exact .pure (callsOnly_binary op first .void)
      · simp [short] at decided
  | none =>
      refine .bind (parts.eval right rights) fun second _ => ?_
      split
      · exact failAt_concurs _ place
      · exact .pure (callsOnly_binary op first second)

include parts shares in
theorem callElement_concurs (callee : String) (arguments : List Value) (place : Place)
    (only : CallsOnly common arguments) :
    Run.Concur common (callElement around inner callee arguments place)
      (callElement (around.hosting modules) inner' callee arguments place) := by
  -- the modules differ at most in names that are not called and that elements do not go by
  have settings : (around.hosting modules).settings = around.settings := rfl
  have hosts : (around.hosting modules).modules.has around.settings.capabilities.elementModule =
      around.modules.has around.settings.capabilities.elementModule :=
    congrArg Option.isSome shares.element_eq
  simp only [callElement, settings, hosts]
  split
  · exact dispatch_concurs parts shares _ shares.element_eq only
  · exact lapse_concurs _ place

include parts shares in
theorem callBound_concurs (callee : String) (arguments : List Value) (place : Place)
    (only : CallsOnly common arguments) :
    Run.Concur common (callBound around inner callee arguments place)
      (callBound (around.hosting modules) inner' callee arguments place) := by
  refine .bind (.resolve callee) fun found bound => ?_
  cases found with
  | none => exact callElement_concurs parts shares callee arguments place only
  | some value =>
      cases value with
      | function closure => exact parts.call _ arguments (callsOnly_some.mp bound) only
      | number _ | text _ | boolean _ | list _ | map _ | void =>
          exact callElement_concurs parts shares callee arguments place only

include parts shares in
theorem evalCall_concurs (callee : String) (method : Option String) (arguments : List Expr)
    (place : Place) (known : common callee) (only : CallsOnly common arguments) :
    Run.Concur common (evalCall around inner callee method arguments place)
      (evalCall (around.hosting modules) inner' callee method arguments place) := by
  refine .bind (evalAll_concurs parts arguments only) fun values given => ?_
  cases method with
  | none => exact callBound_concurs parts shares callee values place given
  | some method =>
      -- a module goes before a function, so both have to miss the module or both to find it
      have hosts : (around.hosting modules).modules.has callee = around.modules.has callee :=
        congrArg Option.isSome (shares.find?_eq known)
      simp only [hosts]
      split
      · exact dispatch_concurs parts shares _ (shares.find?_eq known) given
      · exact callBound_concurs parts shares callee values place given

include parts shares in
theorem compute_concurs (expr : Expr) (only : CallsOnly common expr) :
    Run.Concur common (compute around inner expr)
      (compute (around.hosting modules) inner' expr) := by
  cases expr with
  | literal value place => exact .pure (callsOnly_ofLiteral value)
  | ident name place => exact evalName_concurs name place
  | call callee method arguments place =>
      obtain ⟨known, given⟩ := List.forall_mem_cons.mp only
      exact evalCall_concurs parts shares callee method arguments place known given
  | binary op left right place =>
      obtain ⟨lefts, rights⟩ := List.forall_mem_append.mp only
      exact evalBinary_concurs parts op left right place lefts rights
  | unary op operand place =>
      exact .bind (parts.eval operand only) fun value _ => .pure (callsOnly_unary op value)
  | list items place =>
      exact .bind (evalAll_concurs parts items only) fun values held =>
        .pure (a := Value.list values) held
  | map entries place =>
      exact .bind (evalEntries_concurs parts entries [] only (List.forall_mem_nil _))
        fun values held => .pure (a := Value.map values) held
  | index target position place =>
      obtain ⟨targets, positions⟩ := List.forall_mem_append.mp only
      refine .bind (parts.eval target targets) fun value held => ?_
      exact .bind (parts.eval position positions) fun index _ => .pure (callsOnly_item held index)

include parts shares in
theorem eval_concurs (expr : Expr) (only : CallsOnly common expr) :
    Run.Concur common (eval around inner expr) (eval (around.hosting modules) inner' expr) :=
  .bind (visit_concurs expr.kind expr.place) fun _ _ => compute_concurs parts shares expr only

/-! ### Statements -/

include parts in
theorem execAll_concurs (body : List Stmt) (last : Outcome) (only : CallsOnly common body)
    (held : CallsOnly common last) :
    Run.Concur common (execAll inner last body) (execAll inner' last body) := by
  induction body generalizing last with
  | nil => exact .pure held
  | cons stmt rest ih =>
      obtain ⟨first, later⟩ := List.forall_mem_append.mp only
      refine .bind (parts.exec stmt first) fun outcome new => ?_
      split
      · exact .pure new
      · exact ih outcome later new

include parts in
theorem execBody_concurs (body : List Stmt) (only : CallsOnly common body) :
    Run.Concur common (execBody inner body) (execBody inner' body) :=
  execAll_concurs parts body .normal only callsOnly_void

theorem inFresh_concurs {body body' : Run Outcome} (bodies : Run.Concur common body body') :
    Run.Concur common (inFresh around body) (inFresh (around.hosting modules) body') := by
  refine .inScope (fun _ binds => binds.pushFresh) ?_
  refine .bind bodies fun outcome only => ?_
  exact .bind (carry_concurs outcome.value) fun _ _ => .pure only

theorem declareAll_concurs (names : List String) {value : Value}
    (only : CallsOnly common value) :
    Run.Concur common (declareAll value names) (declareAll value names) := by
  induction names with
  | nil => exact .pure (List.forall_mem_nil _)
  | cons name rest ih => exact .bind (declare_concurs only name) fun _ _ => ih

include parts in
theorem round_concurs (index : Nat) (item : Option (String × Value)) (body : List Stmt)
    (held : ∀ entry ∈ item, CallsOnly common entry.2) (only : CallsOnly common body) :
    Run.Concur common (round around inner index item body)
      (round (around.hosting modules) inner' index item body) := by
  refine inFresh_concurs (.bind (declareAll_concurs _ (callsOnly_number _)) fun _ _ => ?_)
  cases item with
  | none => exact execBody_concurs parts body only
  | some entry =>
      exact .bind (declare_concurs (held entry rfl) entry.1) fun _ _ =>
        execBody_concurs parts body only

include parts in
theorem execRounds_concurs (items : Items) (name : Option String) (body : List Stmt)
    (bodyPlace : Place) (held : ∀ index, CallsOnly common (items.item index))
    (only : CallsOnly common body) (left index : Nat) :
    Run.Concur common (execRounds around inner items name body bodyPlace left index)
      (execRounds (around.hosting modules) inner' items name body bodyPlace left index) := by
  induction left generalizing index with
  | zero => exact .pure callsOnly_void
  | succ left ih =>
      have entry : ∀ entry ∈ name.map (fun name => (name, items.item index)),
          CallsOnly common entry.2 := by
        intro entry here
        obtain ⟨_, _, rfl⟩ := Option.map_eq_some_iff.mp here
        exact held index
      refine .bind (visit_concurs .block bodyPlace) fun _ _ => ?_
      refine .bind (round_concurs parts index _ body entry only) fun outcome new => ?_
      split
      · exact .pure new
      · exact ih (index + 1)

include parts in
theorem execGuarded_concurs (guard : Expr) (body : List Stmt) (guards : CallsOnly common guard)
    (only : CallsOnly common body) (left index : Nat) :
    Run.Concur common (execGuarded around inner guard body left index)
      (execGuarded (around.hosting modules) inner' guard body left index) := by
  induction left generalizing index with
  | zero => exact .fail _
  | succ left ih =>
      refine .bind (parts.eval guard guards) fun value _ => ?_
      split
      · refine .bind (round_concurs parts index none body nofun only) fun outcome new => ?_
        split
        · exact .pure new
        · exact ih (index + 1)
      · exact .pure callsOnly_void

include parts in
theorem execLoop_concurs (head : LoopHead) (body : List Stmt) (bodyPlace : Place)
    (heads : CallsOnly common head.expr) (only : CallsOnly common body) :
    Run.Concur common (execLoop around inner head body bodyPlace)
      (execLoop (around.hosting modules) inner' head body bodyPlace) := by
  cases head with
  | count rounds =>
      refine .bind (parts.eval rounds heads) fun value _ => ?_
      exact execRounds_concurs parts _ none body bodyPlace (fun _ => callsOnly_number _) only _ 0
  | each name list =>
      refine .bind (parts.eval list heads) fun value held => ?_
      exact execRounds_concurs parts _ name body bodyPlace (callsOnly_ofValue held) only _ 0
  | guard condition => exact execGuarded_concurs parts condition body heads only around.rounds 0

theorem define_concurs (name byname : Option String) (params : List Param) (body : List Stmt)
    (bodyPlace : Place) (only : CallsOnly common body) :
    Run.Concur common (define name byname params body bodyPlace)
      (define name byname params body bodyPlace) :=
  .bind .capture fun _ _ => declareAll_concurs _ only

include parts in
theorem evalOptional_concurs (expr : Option Expr) (only : CallsOnly common expr) :
    Run.Concur common (evalOptional inner expr) (evalOptional inner' expr) := by
  cases expr with
  | none => exact .pure callsOnly_void
  | some expr => exact parts.eval expr (List.forall_mem_append.mp only).1

theorem emitTimes_concurs (line : String) (place : Place) (first : Bool) (count : Nat) :
    Run.Concur common (emitTimes around line place first count)
      (emitTimes (around.hosting modules) line place first count) := by
  induction count generalizing first with
  | zero => exact .pure (List.forall_mem_nil _)
  | succ count ih =>
      have emits : Run.Concur common
          (do Run.emit line; emitTimes around line place false count)
          (do Run.emit line; emitTimes (around.hosting modules) line place false count) :=
        .bind (.note _) fun _ _ => ih false
      cases first with
      -- the first line is emitted in the step of the statement, any other takes one more
      | true => exact emits
      | false => exact .bind (visit_concurs .output place) fun _ _ => emits

include parts in
theorem execOutput_concurs (what : Option (Expr × Option Expr)) (place : Place)
    (only : CallsOnly common (Stmt.outputArguments what)) :
    Run.Concur common (execOutput around inner what place)
      (execOutput (around.hosting modules) inner' what place) := by
  rcases what with _ | ⟨expr, _ | count⟩
  · exact emitTimes_concurs "" place true 1
  · obtain ⟨exprs, _⟩ := List.forall_mem_append.mp only
    exact .bind (parts.eval expr exprs) fun value _ => emitTimes_concurs _ place true 1
  · obtain ⟨exprs, counts⟩ := List.forall_mem_append.mp only
    refine .bind (parts.eval expr exprs) fun value _ => ?_
    exact .bind (parts.eval count (List.forall_mem_append.mp counts).1) fun times _ =>
      emitTimes_concurs _ place true _

include parts in
theorem perform_concurs (stmt : Stmt) (only : CallsOnly common stmt) :
    Run.Concur common (perform around inner stmt)
      (perform (around.hosting modules) inner' stmt) := by
  have normal : Run.Concur common (pure Outcome.normal) (pure Outcome.normal) :=
    .pure callsOnly_void
  cases stmt with
  | expression expr =>
      exact .bind (parts.eval expr only) fun value held => .pure (a := Outcome.mk value false) held
  | block body place => exact inFresh_concurs (execBody_concurs parts body only)
  | declare name initial place =>
      refine .bind (evalOptional_concurs parts initial only) fun value held => ?_
      exact .bind (declare_concurs held name) fun _ _ => normal
  | assign name expr place =>
      refine .bind (parts.eval expr only) fun value held => ?_
      exact .bind (.onArena fun _ binds => binds.assign held) fun _ _ => normal
  | define name byname params body bodyPlace place =>
      exact .bind (define_concurs name byname params body bodyPlace only) fun _ _ => normal
  | conditional guard body bodyPlace otherwise place =>
      -- the calls of a conditional are those of its guard, its body and its branch, in this order
      obtain ⟨first, branches⟩ := List.forall_mem_append.mp only
      obtain ⟨guards, bodies⟩ := List.forall_mem_append.mp first
      refine .bind (parts.eval guard guards) fun value _ => ?_
      split
      · exact parts.exec (.block body bodyPlace) bodies
      · cases otherwise with
        | absent => exact normal
        | block body place => exact parts.exec (.block body place) branches
        | conditional guard body bodyPlace otherwise place =>
            exact parts.exec (.conditional guard body bodyPlace otherwise place) branches
  | loop head body bodyPlace place =>
      obtain ⟨heads, bodies⟩ := List.forall_mem_append.mp only
      exact execLoop_concurs parts head body bodyPlace heads bodies
  | giveBack expr place =>
      exact .bind (evalOptional_concurs parts expr only) fun value held =>
        .pure (a := Outcome.mk value true) held
  | output what place => exact .bind (execOutput_concurs parts what place only) fun _ _ => normal

include parts in
theorem exec_concurs (stmt : Stmt) (only : CallsOnly common stmt) :
    Run.Concur common (exec around inner stmt) (exec (around.hosting modules) inner' stmt) := by
  simp only [exec]
  cases stmt.head? with
  | none => exact perform_concurs parts stmt only
  | some head =>
      exact .bind (visit_concurs head.1 head.2) fun _ _ => perform_concurs parts stmt only

/-! ### Functions -/

theorem bindParams_concurs (params : List String) (arguments : List Value)
    (only : CallsOnly common arguments) :
    Run.Concur common (bindParams params arguments) (bindParams params arguments) := by
  induction params generalizing arguments with
  | nil => exact .pure (List.forall_mem_nil _)
  | cons param params ih =>
      cases arguments with
      | nil => exact .bind (declare_concurs callsOnly_void param) fun _ _ => ih [] only
      | cons value values =>
          obtain ⟨first, later⟩ := List.forall_mem_append.mp only
          exact .bind (declare_concurs first param) fun _ _ => ih values later

include parts in
theorem callBody_concurs (closure : Closure) (arguments : List Value)
    (called : CallsOnly common closure.body) (only : CallsOnly common arguments) :
    Run.Concur common (callBody around inner closure arguments)
      (callBody (around.hosting modules) inner' closure arguments) := by
  refine .bind (inFresh_concurs ?_) fun outcome new => .pure (a := outcome.value) new
  exact .bind (bindParams_concurs closure.params arguments only) fun _ _ =>
    execBody_concurs parts closure.body called

theorem inCaptured_concurs (closure : Closure) {body body' : Run Value}
    (bodies : Run.Concur common body body') :
    Run.Concur common (inCaptured around closure body)
      (inCaptured (around.hosting modules) closure body') := by
  cases scope : closure.scope with
  | none =>
      rw [inCaptured_none scope, inCaptured_none scope]
      exact bodies
  | some id =>
      intro machine only
      by_cases live : machine.arena.isLive id = true
      · rw [inCaptured_entered scope live, inCaptured_entered scope live]
        have enters : ∀ arena : Arena, arena.BindsOnly common →
            (Arena.carry (.function closure) (Arena.push id arena)).BindsOnly common :=
          fun _ binds => binds.of_scopes (Arena.carry_scopes _ _)
        exact Run.Concur.inScope enters bodies machine only
      · -- a call that misses its scope is only noted as a stray
        rw [inCaptured_missed scope live, inCaptured_missed scope live]
        exact bodies _ only

include parts in
theorem call_concurs (function : Value) (arguments : List Value)
    (called : CallsOnly common function) (only : CallsOnly common arguments) :
    Run.Concur common (call around inner function arguments)
      (call (around.hosting modules) inner' function arguments) := by
  cases function with
  | function closure =>
      exact inCaptured_concurs closure (callBody_concurs parts closure arguments called only)
  | number _ | text _ | boolean _ | list _ | map _ | void => exact .pure callsOnly_void

include parts shares in
theorem runner_concurs :
    Runner.Concur common (runner around inner) (runner (around.hosting modules) inner') where
  eval := eval_concurs parts shares
  exec := exec_concurs parts
  call := call_concurs parts

end

end Evaluation

/-! ### Programs -/

variable {common : String → Prop} {around : Surroundings} {modules : Registry}

theorem Runner.ofDepth_concurs (shares : around.Shares common modules) (depth : Nat) :
    Runner.Concur common (.ofDepth around depth) (.ofDepth (around.hosting modules) depth) := by
  -- a runner's parts are run by the runner of the depth below
  induction depth with
  | zero => exact ⟨fun _ _ => .fail _, fun _ _ => .fail _, fun _ _ _ _ => .fail _⟩
  | succ depth ih => exact Evaluation.runner_concurs ih shares

theorem Program.runFrom_concurs {inner inner' : Runner}
    (parts : Runner.Concur common inner inner') (program : Program) (last : Value)
    (only : CallsOnly common program) (held : CallsOnly common last) :
    Run.Concur common (Program.runFrom around inner last program)
      (Program.runFrom (around.hosting modules) inner' last program) := by
  induction program generalizing last with
  | nil => exact .pure held
  | cons stmt rest ih =>
      obtain ⟨first, later⟩ := List.forall_mem_append.mp only
      refine .bind (parts.exec stmt first) fun outcome new => ?_
      refine .bind (Evaluation.tidy_concurs outcome.value) fun _ _ => ?_
      split
      · exact .pure (a := outcome.value) new
      · exact ih outcome.value later new

/-- A program runs alike with other modules that are found alike under the names that it calls. -/
theorem Program.run_concurs (shares : around.Shares common modules) (depth : Nat)
    (program : Program) (only : CallsOnly common program) :
    Run.Concur common (program.run around depth) (program.run (around.hosting modules) depth) :=
  Program.runFrom_concurs (Runner.ofDepth_concurs shares depth) program .void only callsOnly_void

end Parlance
