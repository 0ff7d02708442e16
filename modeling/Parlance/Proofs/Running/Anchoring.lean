import Parlance.Proofs.Running.Target

/-!
Runs that leave a name bound as it is. A run may bind a name in the scope that it stands in or in
scopes of its own; any other scope binds the name as before when the run ends, however it ends, if
no assignment aims at the name, neither in what is run nor in a function that is met on the way. So
what a name resolves to can only change where a declaration of it stands.
-/

namespace Parlance

/-- The scopes that are looked at, and to what each of them binds a name, or that it does not. -/
abbrev Watch := Nat → Option (Option Value)

namespace Arena

/-- An intact arena in which no function assigns to a name, and where the watched scopes bind the
name as the watch says, as long as they are there. -/
structure Anchors (name : String) (watch : Watch) (stack : List Nat) (arena : Arena) : Prop
    extends arena.Bears (fun closure => name ∉ Stmt.allTargets closure.body) stack where
  below : ∀ id held, watch id = some held → id < arena.nextId
  bound : ∀ id held, watch id = some held → ∀ bindings,
    Table.get? id arena.scopes = some bindings → Table.get? name bindings = held

namespace Anchors

variable {name : String} {watch : Watch} {stack : List Nat} {arena : Arena}

theorem of_same (anchors : arena.Anchors name watch stack) {after : Arena}
    {entered : List Nat} (intact : after.Intact locals entered)
    (scopes : after.scopes = arena.scopes) (nextId : after.nextId = arena.nextId) :
    after.Anchors name watch entered where
  toBears := anchors.toBears.of_same intact scopes
  below := nextId ▸ anchors.below
  bound id held here bindings found := anchors.bound id held here bindings (scopes ▸ found)

theorem carry (anchors : arena.Anchors name watch stack) (value : Value) :
    (arena.carry value).Anchors name watch stack :=
  anchors.of_same (anchors.intact.carry value) (carry_scopes value arena) (carry_nextId value arena)

theorem push (anchors : arena.Anchors name watch stack) {id : Nat}
    (live : arena.isLive id = true) (here : id ∈ locals) :
    (Arena.push id arena).Anchors name watch (id :: stack) :=
  anchors.of_same (anchors.intact.push live here) rfl rfl

theorem capture {id : Nat} (anchors : arena.Anchors name watch (id :: stack)) :
    (arena.pin id).Anchors name watch (id :: stack) :=
  anchors.of_same anchors.intact.capture.locals (pin_scopes id arena) (pin_nextId id arena)

theorem pushFresh (anchors : arena.Anchors name watch stack) :
    arena.pushFresh.Anchors name watch (arena.nextId :: stack) where
  toBears := anchors.toBears.pushFresh
  below id held here := Nat.lt_succ_of_lt (anchors.below id held here)
  bound id held here bindings found := by
    have other : id ≠ arena.nextId := Nat.ne_of_lt (anchors.below id held here)
    simp only [Arena.pushFresh, Table.get?_put_of_ne other] at found
    exact anchors.bound id held here bindings found

/-- A fresh scope is not watched. -/
theorem fresh_unwatched (anchors : arena.Anchors name watch stack) : watch arena.nextId = none := by
  cases here : watch arena.nextId with
  | none => rfl
  | some held => exact absurd (anchors.below _ held here) (Nat.lt_irrefl _)

theorem of_shrinks (anchors : arena.Anchors name watch stack) {after : Arena} {entered : List Nat}
    (sound : after.Sound entered) (shrinks : Shrinks arena after) :
    after.Anchors name watch entered where
  toBears := anchors.toBears.of_shrinks sound shrinks
  below := shrinks.nextId_eq ▸ anchors.below
  bound id held here bindings found :=
    anchors.bound id held here bindings (shrinks.scopes_old id bindings found)

theorem pop_ok (upkeep : Upkeep) {id : Nat} (anchors : arena.Anchors name watch (id :: stack)) :
    ∃ after, pop upkeep arena = .ok () after ∧ after.Anchors name watch stack := by
  obtain ⟨after, result, sound, shrinks⟩ := anchors.intact.sound.pop_ok upkeep
  exact ⟨after, result, anchors.of_shrinks sound shrinks⟩

theorem collect_ok (upkeep : Upkeep) (anchors : arena.Anchors name watch stack)
    (roots : List Value) :
    ∃ count after, collect upkeep roots arena = .ok count after ∧
      after.Anchors name watch stack := by
  obtain ⟨count, after, result, sound, shrinks, _⟩ := anchors.intact.sound.collect_ok upkeep roots
  exact ⟨count, after, result, anchors.of_shrinks sound shrinks⟩

/-- What is bound under another name, or in a scope that is not watched, is let pass. -/
theorem withScope (anchors : arena.Anchors name watch stack) {id : Nat} {bindings : Bindings}
    (found : Table.get? id arena.scopes = some bindings) {key : String} {value : Value}
    (harmless : Harmless name value) (apart : key = name → watch id = none) :
    (arena.withScope id (Table.put key value bindings)).Anchors name watch stack where
  toBears := anchors.toBears.withScope found key (harmless_iff.mp harmless)
  below := anchors.below
  bound other held here others scope := by
    simp only [Arena.withScope, Table.get?_put] at scope
    split at scope
    · rename_i same
      subst same
      cases scope
      have differs : name ≠ key := fun same => by simp [apart same.symm] at here
      rw [Table.get?_put_of_ne differs]
      exact anchors.bound other held here bindings found
    · exact anchors.bound other held here others scope

theorem declare_ok (anchors : arena.Anchors name watch stack) {key : String} {value : Value}
    (harmless : Harmless name value)
    (apart : key = name → watch (stack.head?.getD globalId) = none) :
    ∃ after, declare key value arena = .ok () after ∧ after.Anchors name watch stack := by
  obtain ⟨bindings, found, result⟩ := anchors.intact.sound.declare_ok key value
  exact ⟨_, result, anchors.withScope found harmless apart⟩

theorem assign_ok (anchors : arena.Anchors name watch stack) {key : String} {value : Value}
    (harmless : Harmless name value) (apart : key ≠ name) :
    ∃ after, assign key value arena = .ok () after ∧ after.Anchors name watch stack := by
  obtain ⟨_, bindings, _, found, result⟩ := anchors.intact.sound.assign_ok key value
  exact ⟨_, result, anchors.withScope found harmless fun same => absurd same apart⟩

theorem resolve_ok (anchors : arena.Anchors name watch stack) (key : String) :
    ∃ found, arena.resolve key = .ok found ∧ Harmless name found := by
  obtain ⟨found, answer, bears⟩ := anchors.toBears.resolve_ok key
  exact ⟨found, answer, harmless_iff.mpr bears⟩

end Anchors

end Arena

namespace Run

/-- However a run ends, the watched scopes bind the name as before, and what it hands on is
harmless. -/
def Anchored (name : String) (watch : Watch) (stack : List Nat) {α : Type} [Capturing α]
    [Bearing α] : EStateM.Result Failure Machine α → Prop
  | .ok a machine => Harmless name a ∧ machine.arena.Anchors name watch stack
  | .error _ machine => machine.arena.Anchors name watch stack

/-- A run secures the name bound as it is in all scopes but those that it makes, and perhaps the one
that it stands in: a run that may bind the name there does so where this scope is not watched. -/
def Secures (name : String) (binds : Prop) {α : Type} [Capturing α] [Bearing α] (run : Run α) :
    Prop :=
  ∀ machine watch stack, machine.arena.Anchors name watch stack →
    (binds → watch (stack.head?.getD Arena.globalId) = none) →
      Anchored name watch stack (run machine)

section

variable {name : String} {watch : Watch} {stack : List Nat} {binds : Prop} {α β : Type}
  [Capturing α] [Bearing α] [Capturing β] [Bearing β]

namespace Secures

theorem mono {run : Run α} {more : Prop} (secures : Secures name binds run) (fewer : binds → more) :
    Secures name more run :=
  fun machine watch stack anchors inside =>
    secures machine watch stack anchors fun may => inside (fewer may)

theorem pure {a : α} (harmless : Harmless name a) : Secures name binds (Pure.pure a) :=
  fun _ _ _ anchors _ => ⟨harmless, anchors⟩

theorem bind {run : Run α} {rest : α → Run β} (first : Secures name binds run)
    (later : ∀ a, Harmless name a → Secures name binds (rest a)) :
    Secures name binds (run >>= rest) := by
  intro machine watch stack anchors inside
  have anchored := first machine watch stack anchors inside
  simp only [Bind.bind, EStateM.bind]
  cases result : run machine with
  | ok a after =>
      rw [result] at anchored
      exact later a anchored.1 after watch stack anchored.2 inside
  | error failure after =>
      rw [result] at anchored
      exact anchored

theorem rescue {run : Run α} {rest : α → Run β} {spare : String → Run β}
    (first : Secures name binds run) (later : ∀ a, Harmless name a → Secures name binds (rest a))
    (otherwise : ∀ message, Secures name binds (spare message)) :
    Secures name binds (Script.rescue Failure.caught? run rest spare) := by
  intro machine watch stack anchors inside
  have anchored := first machine watch stack anchors inside
  cases result : run machine with
  | ok a after =>
      rw [result] at anchored
      rw [Script.rescue_ok result]
      exact later a anchored.1 after watch stack anchored.2 inside
  | error failure after =>
      rw [result] at anchored
      cases caught : failure.caught? with
      | none =>
          rw [Script.rescue_uncaught result caught]
          exact anchored
      | some message =>
          rw [Script.rescue_caught result caught]
          exact otherwise message after watch stack anchored inside

theorem fail (failure : Failure) : Secures name binds (Run.fail failure : Run α) :=
  fun _ _ _ anchors _ => anchors

theorem note (event : Event) : Secures name binds (Run.note event) :=
  fun _ _ _ anchors _ => ⟨harmless_unit, anchors⟩

theorem visit (budget : Option Nat) (kind : Node.Kind) (place : Place) :
    Secures name binds (Run.visit budget kind place) := by
  intro machine watch stack anchors _
  rcases visit_cases budget kind place machine with ⟨limit, _, _, result⟩ | ⟨_, result⟩
  · rw [result]
    exact anchors
  · rw [result]
    exact ⟨harmless_unit, anchors⟩

theorem resolve (key : String) : Secures name binds (Run.resolve key) := by
  intro machine watch stack anchors _
  obtain ⟨found, answer, harmless⟩ := anchors.resolve_ok key
  simp only [Run.resolve, answer]
  exact ⟨harmless, anchors⟩

theorem declare {key : String} {value : Value} (harmless : Harmless name value) :
    Secures name (key = name) (Evaluation.declare key value) := by
  intro machine watch stack anchors inside
  obtain ⟨after, result, anchored⟩ := anchors.declare_ok harmless inside
  rw [Evaluation.declare, onArena_ok result]
  exact ⟨harmless_unit, anchored⟩

theorem assign {key : String} {value : Value} (harmless : Harmless name value)
    (apart : key ≠ name) : Secures name binds (Run.onArena (Arena.assign key value)) := by
  intro machine watch stack anchors _
  obtain ⟨after, result, anchored⟩ := anchors.assign_ok harmless apart
  rw [onArena_ok result]
  exact ⟨harmless_unit, anchored⟩

theorem carry (value : Value) : Secures name binds (Evaluation.carry value) :=
  fun _ _ _ anchors _ => ⟨harmless_unit, anchors.carry value⟩

theorem tidy (around : Surroundings) (value : Value) :
    Secures name binds (Evaluation.tidy around value) := by
  intro machine watch stack anchors _
  obtain ⟨count, after, result, anchored⟩ := anchors.collect_ok around.upkeep [value]
  rw [Evaluation.tidy_ok result]
  exact ⟨harmless_unit, anchored⟩

theorem capture : Secures name binds Run.capture := by
  intro machine watch stack anchors _
  have entered : machine.arena.stack = stack := anchors.intact.sound.stack_eq
  cases stack with
  | nil =>
      have result : Run.capture machine = .ok none machine := by
        simp [Run.capture, Arena.innermost?, entered]
      rw [result]
      exact ⟨harmless_of_nil rfl rfl, anchors⟩
  | cons id rest =>
      have result : Run.capture machine =
          .ok (some id) { machine with arena := machine.arena.pin id } := by
        simp [Run.capture, Arena.innermost?, entered]
      rw [result]
      have here : id ≠ Arena.globalId := by
        rintro rfl
        exact anchors.intact.sound.entered_local List.mem_cons_self
      refine ⟨⟨fun other member => ?_, List.forall_mem_nil _⟩, anchors.capture⟩
      obtain rfl := Option.mem_some.mp (Option.mem_toList.mp member)
      exact here

end Secures

theorem Anchored.inScope {upkeep : Arena.Upkeep} {enter : Arena → Arena} {body : Run α}
    (secures : Secures name binds body) {machine : Machine} {id : Nat}
    (entered : (enter machine.arena).Anchors name watch (id :: stack))
    (unwatched : binds → watch id = none) :
    Anchored name watch stack (Run.inScope upkeep enter body machine) := by
  -- the scope that was entered is left however the body ends
  have anchored := secures { machine with arena := enter machine.arena } watch (id :: stack) entered
    unwatched
  cases result : body { machine with arena := enter machine.arena } with
  | ok value after =>
      rw [result] at anchored
      obtain ⟨arena, left, anchors⟩ := anchored.2.pop_ok upkeep
      rw [inScope_ok result left]
      exact ⟨anchored.1, anchors⟩
  | error failure after =>
      rw [result] at anchored
      obtain ⟨arena, left, anchors⟩ := Arena.Anchors.pop_ok upkeep anchored
      rw [inScope_error result left]
      exact anchors

end

end Run

/-- The parts of an evaluator leave a name bound as it is, where no assignment aims at it. -/
structure Runner.Secures (name : String) (inner : Runner) : Prop where
  eval : ∀ expr, Run.Secures name False (inner.eval expr)
  exec : ∀ stmt, name ∉ stmt.targets → Run.Secures name (name ∈ stmt.binds) (inner.exec stmt)
  call : ∀ function arguments, Harmless name function → Harmless name arguments →
    Run.Secures name False (inner.call function arguments)

namespace Evaluation

variable {name : String} {around : Surroundings} {inner : Runner} {binds : Prop}

theorem visit_secures (kind : Node.Kind) (place : Place) :
    Run.Secures name binds (visit around kind place) :=
  .visit around.budget kind place

theorem lookup_secures (key : String) : Run.Secures name binds (lookup key) := by
  refine .bind (.resolve key) fun found harmless => ?_
  cases found with
  | none => exact .pure harmless_void
  | some value => exact .pure (harmless_some.mp harmless)

section

variable (parts : Runner.Secures name inner) (hosts : around.modules.Spares name)

/-! ### Modules -/

include parts in
theorem script_secures (script : Script) (within : script.Within Arena.locals)
    (spares : script.Spares name) :
    Run.Secures name False (script.run ⟨Run.emit, lookup, inner.call⟩ Failure.caught?) := by
  induction script with
  | give answer => exact .pure ⟨within, spares⟩
  | fail message => exact .pure (harmless_of_nil rfl rfl)
  | emit line next ih => exact .bind (.note _) fun _ _ => ih within spares
  | lookup key next ih =>
      refine .bind (lookup_secures key) fun value given => ?_
      exact ih value (within value given.held) (spares value given.spares)
  | invoke function arguments next ih =>
      have called : Harmless name function := ⟨within.1, spares.1⟩
      have handed : Harmless name arguments := ⟨within.2.1, spares.2.1⟩
      refine .bind (parts.call function arguments called handed) fun value given => ?_
      exact ih value (within.2.2 value given.held) (spares.2.2 value given.spares)
  | attempt function arguments next otherwise ih ih' =>
      obtain ⟨inside, insides, later, later'⟩ := within
      obtain ⟨spared, spareds, handed, handed'⟩ := spares
      refine .rescue (parts.call function arguments ⟨inside, spared⟩ ⟨insides, spareds⟩)
        (fun value given => ?_) fun message => ih' message (later' message) (handed' message)
      exact ih value (later value given.held) (handed value given.spares)

theorem answer_anchored (request : Request) {watch : Watch} {stack : List Nat}
    {result : EStateM.Result Failure Machine (Except String Host)}
    (anchored : Run.Anchored name watch stack result) :
    Run.Anchored name watch stack (answer request result) := by
  match result with
  | .error _ _ => exact anchored
  | .ok (.error _) _ => exact anchored.2
  | .ok (.ok host) _ =>
      simp only [answer]
      cases made : host.toValue with
      | error _ => exact anchored.2
      | ok value =>
          obtain ⟨⟨held, spares⟩, anchors⟩ := anchored
          refine ⟨⟨?_, ?_⟩, anchors⟩
          · simpa [Held, Capturing.captured, made] using held
          · simpa [Spares, Bearing.closures, made] using spares

include parts hosts in
theorem dispatch_secures (request : Request) (handed : Harmless name request.arguments) :
    Run.Secures name False (dispatch around inner request) := by
  cases found : around.modules.find? request.module with
  | none =>
      rw [dispatch_unknown found]
      exact .fail _
  | some entry =>
      have member := Table.mem_of_get? found
      have within := hosts.genuine _ member request handed.held
      have spares := hosts.spares _ member request handed.spares
      have served : Run.Secures name False (serve inner entry request) :=
        .bind (.note _) fun _ _ => script_secures parts _ within spares
      intro machine watch stack anchors inside
      rw [dispatch_found found]
      exact answer_anchored request (served machine watch stack anchors inside)

/-! ### Expressions -/

include parts in
theorem evalAll_secures (exprs : List Expr) : Run.Secures name False (evalAll inner exprs) := by
  induction exprs with
  | nil => exact .pure (harmless_of_nil rfl rfl)
  | cons expr rest ih =>
      refine .bind (parts.eval expr) fun value here => ?_
      exact .bind ih fun values behind => .pure (harmless_cons.mpr ⟨here, behind⟩)

include parts in
theorem evalEntries_secures (pairs : List (MapKey × Expr)) (entries : List (String × Value))
    (harmless : Harmless name entries) :
    Run.Secures name False (evalEntries around inner entries pairs) := by
  induction pairs generalizing entries with
  | nil => exact .pure harmless
  | cons pair rest ih =>
      refine .bind (parts.eval pair.2) fun value here => ?_
      refine .bind (visit_secures .literal pair.1.place) fun _ _ => ?_
      exact ih _ (harmless_put harmless _ here)

theorem lapse_secures (cause : Cause) (place : Place) :
    Run.Secures name binds
      (if around.settings.strict = true then failAt around cause place else pure Value.void) := by
  -- where strict settings fail, others go on without a value
  split
  · exact .fail _
  · exact .pure harmless_void

theorem evalName_secures (key : String) (place : Place) :
    Run.Secures name binds (evalName around key place) := by
  refine .bind (.resolve key) fun found harmless => ?_
  cases found with
  | some value => exact .pure (harmless_some.mp harmless)
  | none => exact lapse_secures _ place

include parts in
theorem evalBinary_secures (op : BinaryOp) (left right : Expr) (place : Place) :
    Run.Secures name False (evalBinary around inner op left right place) := by
  refine .bind (parts.eval left) fun first _ => ?_
  cases decided : if around.settings.shortCircuit = true then op.decided? first else none with
  | some value =>
      -- what the left operand decides alone holds no function
      by_cases short : around.settings.shortCircuit = true
      · rw [if_pos short] at decided
        rw [← BinaryOp.apply_of_decided? decided .void]
        exact .pure (harmless_binary op first .void)
      · simp [short] at decided
  | none =>
      refine .bind (parts.eval right) fun second _ => ?_
      split
      · exact .fail _
      · exact .pure (harmless_binary op first second)

include parts hosts in
theorem callElement_secures (callee : String) (arguments : List Value) (place : Place)
    (handed : Harmless name arguments) :
    Run.Secures name False (callElement around inner callee arguments place) := by
  simp only [callElement]
  split
  · exact dispatch_secures parts hosts _ handed
  · exact lapse_secures _ place

include parts hosts in
theorem callBound_secures (callee : String) (arguments : List Value) (place : Place)
    (handed : Harmless name arguments) :
    Run.Secures name False (callBound around inner callee arguments place) := by
  refine .bind (.resolve callee) fun found harmless => ?_
  cases found with
  | none => exact callElement_secures parts hosts callee arguments place handed
  | some value =>
      cases value with
      | function closure => exact parts.call _ arguments (harmless_some.mp harmless) handed
      | number _ | text _ | boolean _ | list _ | map _ | void =>
          exact callElement_secures parts hosts callee arguments place handed

include parts hosts in
theorem evalCall_secures (callee : String) (method : Option String) (arguments : List Expr)
    (place : Place) :
    Run.Secures name False (evalCall around inner callee method arguments place) := by
  refine .bind (evalAll_secures parts arguments) fun values handed => ?_
  cases method with
  | none => exact callBound_secures parts hosts callee values place handed
  | some method =>
      simp only
      split
      · exact dispatch_secures parts hosts _ handed
      · exact callBound_secures parts hosts callee values place handed

include parts hosts in
theorem compute_secures (expr : Expr) : Run.Secures name False (compute around inner expr) := by
  cases expr with
  | literal value place => exact .pure (harmless_ofLiteral value)
  | ident key place => exact evalName_secures key place
  | call callee method arguments place =>
      exact evalCall_secures parts hosts callee method arguments place
  | binary op left right place => exact evalBinary_secures parts op left right place
  | unary op operand place =>
      exact .bind (parts.eval operand) fun value _ => .pure (harmless_unary op value)
  | list items place =>
      exact .bind (evalAll_secures parts items) fun values given => .pure (harmless_list given)
  | map entries place =>
      have start : Harmless name ([] : List (String × Value)) := harmless_of_nil rfl rfl
      exact .bind (evalEntries_secures parts entries [] start) fun values given =>
        .pure (harmless_map given)
  | index target position place =>
      refine .bind (parts.eval target) fun value given => ?_
      exact .bind (parts.eval position) fun index _ => .pure (harmless_item given index)

include parts hosts in
theorem eval_secures (expr : Expr) : Run.Secures name False (eval around inner expr) :=
  .bind (visit_secures expr.kind expr.place) fun _ _ => compute_secures parts hosts expr

/-! ### Statements -/

include parts in
/-- In a scope the statements may bind the name as they like. -/
theorem execAll_secures (body : List Stmt) (last : Outcome) (harmless : Harmless name last)
    (apart : name ∉ Stmt.allTargets body) : Run.Secures name True (execAll inner last body) := by
  induction body generalizing last with
  | nil => exact .pure harmless
  | cons stmt rest ih =>
      rw [Stmt.allTargets, List.mem_append, not_or] at apart
      refine .bind ((parts.exec stmt apart.1).mono fun _ => trivial) fun outcome new => ?_
      split
      · exact .pure new
      · exact ih outcome new apart.2

include parts in
theorem execBody_secures (body : List Stmt) (apart : name ∉ Stmt.allTargets body) :
    Run.Secures name True (execBody inner body) :=
  execAll_secures parts body .normal harmless_normal apart

theorem inFresh_secures {body : Run Outcome} (secures : Run.Secures name True body) :
    Run.Secures name False (inFresh around body) := by
  intro machine watch stack anchors _
  have inside : Run.Secures name True (do
      let outcome ← body
      carry outcome.value
      pure outcome) :=
    .bind secures fun outcome harmless => .bind (.carry outcome.value) fun _ _ => .pure harmless
  exact Run.Anchored.inScope inside anchors.pushFresh fun _ => anchors.fresh_unwatched

theorem declareAll_secures (keys : List String) {value : Value} (harmless : Harmless name value) :
    Run.Secures name (name ∈ keys) (declareAll value keys) := by
  induction keys with
  | nil => exact .pure harmless_unit
  | cons key rest ih =>
      have first : Run.Secures name (name ∈ key :: rest) (declare key value) :=
        (Run.Secures.declare harmless).mono fun same => same ▸ List.mem_cons_self
      exact .bind first fun _ _ => ih.mono (List.mem_cons_of_mem key)

include parts in
theorem round_secures (index : Nat) (item : Option (String × Value)) (body : List Stmt)
    (harmless : ∀ entry ∈ item, Harmless name entry.2) (apart : name ∉ Stmt.allTargets body) :
    Run.Secures name False (round around inner index item body) := by
  have counts : Run.Secures name True
      (declareAll (.number (Float.ofNat index)) around.settings.loopIndex) :=
    (declareAll_secures _ (harmless_number _)).mono fun _ => trivial
  refine inFresh_secures (.bind counts fun _ _ => ?_)
  cases item with
  | none => exact execBody_secures parts body apart
  | some entry =>
      have declares : Run.Secures name True (declare entry.1 entry.2) :=
        (Run.Secures.declare (harmless entry rfl)).mono fun _ => trivial
      exact .bind declares fun _ _ => execBody_secures parts body apart

include parts in
theorem execRounds_secures (items : Items) (item : Option String) (body : List Stmt)
    (bodyPlace : Place) (harmless : ∀ index, Harmless name (items.item index))
    (apart : name ∉ Stmt.allTargets body) (left index : Nat) :
    Run.Secures name False (execRounds around inner items item body bodyPlace left index) := by
  induction left generalizing index with
  | zero => exact .pure harmless_normal
  | succ left ih =>
      have entry : ∀ entry ∈ item.map (fun name => (name, items.item index)),
          Harmless name entry.2 := by
        intro entry here
        obtain ⟨_, _, rfl⟩ := Option.map_eq_some_iff.mp here
        exact harmless index
      refine .bind (visit_secures .block bodyPlace) fun _ _ => ?_
      refine .bind (round_secures parts index _ body entry apart) fun outcome new => ?_
      split
      · exact .pure new
      · exact ih (index + 1)

include parts in
theorem execGuarded_secures (guard : Expr) (body : List Stmt) (apart : name ∉ Stmt.allTargets body)
    (left index : Nat) :
    Run.Secures name False (execGuarded around inner guard body left index) := by
  induction left generalizing index with
  | zero => exact .fail _
  | succ left ih =>
      refine .bind (parts.eval guard) fun value _ => ?_
      split
      · refine .bind (round_secures parts index none body nofun apart) fun outcome new => ?_
        split
        · exact .pure new
        · exact ih (index + 1)
      · exact .pure harmless_normal

include parts in
theorem execLoop_secures (head : LoopHead) (body : List Stmt) (bodyPlace : Place)
    (apart : name ∉ Stmt.allTargets body) :
    Run.Secures name False (execLoop around inner head body bodyPlace) := by
  cases head with
  | count rounds =>
      refine .bind (parts.eval rounds) fun value _ => ?_
      exact execRounds_secures parts _ none body bodyPlace (fun _ => harmless_number _) apart _ 0
  | each item list =>
      refine .bind (parts.eval list) fun value given => ?_
      exact execRounds_secures parts _ item body bodyPlace (harmless_ofValue given) apart _ 0
  | guard condition => exact execGuarded_secures parts condition body apart around.rounds 0

/-- A function that is defined assigns where its body does, and captures a local scope or none. -/
theorem define_secures (function byname : Option String) (params : List Param) (body : List Stmt)
    (bodyPlace : Place) (apart : name ∉ Stmt.allTargets body) :
    Run.Secures name (name ∈ function.toList ++ byname.toList)
      (define function byname params body bodyPlace) := by
  refine .bind .capture fun scope captured => declareAll_secures _ ⟨?_, ?_⟩
  · simpa [Held, Capturing.captured, Value.captured] using captured.held
  · simpa [Spares, Bearing.closures, Value.closures] using apart

include parts in
theorem evalOptional_secures (expr : Option Expr) :
    Run.Secures name False (evalOptional inner expr) := by
  cases expr with
  | none => exact .pure harmless_void
  | some expr => exact parts.eval expr

theorem emitTimes_secures (line : String) (place : Place) (first : Bool) (count : Nat) :
    Run.Secures name binds (emitTimes around line place first count) := by
  induction count generalizing first with
  | zero => exact .pure harmless_unit
  | succ count ih =>
      have emits : Run.Secures name binds
          (do Run.emit line; emitTimes around line place false count) :=
        .bind (.note _) fun _ _ => ih false
      cases first with
      -- the first line is emitted in the step of the statement, any other takes one more
      | true => exact emits
      | false => exact .bind (visit_secures .output place) fun _ _ => emits

include parts in
theorem execOutput_secures (what : Option (Expr × Option Expr)) (place : Place) :
    Run.Secures name False (execOutput around inner what place) := by
  rcases what with _ | ⟨expr, _ | count⟩
  · exact emitTimes_secures "" place true 1
  · exact .bind (parts.eval expr) fun value _ => emitTimes_secures _ place true 1
  · refine .bind (parts.eval expr) fun value _ => ?_
    exact .bind (parts.eval count) fun times _ => emitTimes_secures _ place true _

include parts in
theorem perform_secures (stmt : Stmt) (apart : name ∉ stmt.targets) :
    Run.Secures name (name ∈ stmt.binds) (perform around inner stmt) := by
  have normal : ∀ {binds : Prop}, Run.Secures name binds (pure Outcome.normal) :=
    .pure harmless_normal
  -- only a declaration and a definition may bind the name, and only an assignment may aim at it
  cases stmt with
  | expression expr =>
      refine .bind ((parts.eval expr).mono nofun) fun value given => ?_
      exact .pure (harmless_outcome.mpr given)
  | block body place =>
      exact (inFresh_secures (execBody_secures parts body apart)).mono nofun
  | declare key initial place =>
      refine .bind ((evalOptional_secures parts initial).mono nofun) fun value given => ?_
      have declares : Run.Secures name (name ∈ [key]) (declare key value) :=
        (Run.Secures.declare given).mono fun same => same ▸ List.mem_singleton_self key
      exact .bind declares fun _ _ => normal
  | assign key expr place =>
      have other : key ≠ name := fun same => apart (same ▸ List.mem_singleton_self key)
      refine .bind ((parts.eval expr).mono nofun) fun value given => ?_
      exact .bind (.assign given other) fun _ _ => normal
  | define function byname params body bodyPlace place =>
      exact .bind (define_secures function byname params body bodyPlace apart) fun _ _ => normal
  | conditional guard body bodyPlace otherwise place =>
      rw [Stmt.targets, List.mem_append, not_or] at apart
      refine .bind ((parts.eval guard).mono nofun) fun value _ => ?_
      split
      · exact (parts.exec (.block body bodyPlace) apart.1).mono nofun
      · cases otherwise with
        | absent => exact normal
        | block body place => exact (parts.exec (.block body place) apart.2).mono nofun
        | conditional guard body bodyPlace otherwise place =>
            have next := parts.exec (.conditional guard body bodyPlace otherwise place) apart.2
            exact next.mono nofun
  | loop head body bodyPlace place =>
      exact (execLoop_secures parts head body bodyPlace apart).mono nofun
  | giveBack expr place =>
      refine .bind ((evalOptional_secures parts expr).mono nofun) fun value given => ?_
      exact .pure (harmless_outcome.mpr given)
  | output what place =>
      exact .bind ((execOutput_secures parts what place).mono nofun) fun _ _ => normal

include parts in
theorem exec_secures (stmt : Stmt) (apart : name ∉ stmt.targets) :
    Run.Secures name (name ∈ stmt.binds) (exec around inner stmt) := by
  simp only [exec]
  cases stmt.head? with
  | none => exact perform_secures parts stmt apart
  | some head =>
      exact .bind (visit_secures head.1 head.2) fun _ _ => perform_secures parts stmt apart

/-! ### Functions -/

theorem bindParams_secures (params : List String) (arguments : List Value)
    (handed : Harmless name arguments) :
    Run.Secures name (name ∈ params) (bindParams params arguments) := by
  induction params generalizing arguments with
  | nil => exact .pure harmless_unit
  | cons param params ih =>
      have declares : ∀ {value : Value}, Harmless name value →
          Run.Secures name (name ∈ param :: params) (declare param value) := fun harmless =>
        (Run.Secures.declare harmless).mono fun same => same ▸ List.mem_cons_self
      cases arguments with
      | nil =>
          exact .bind (declares harmless_void) fun _ _ =>
            (ih [] handed).mono (List.mem_cons_of_mem param)
      | cons value values =>
          obtain ⟨first, later⟩ := harmless_cons.mp handed
          exact .bind (declares first) fun _ _ =>
            (ih values later).mono (List.mem_cons_of_mem param)

include parts in
theorem callBody_secures (closure : Closure) (arguments : List Value)
    (apart : name ∉ Stmt.allTargets closure.body) (handed : Harmless name arguments) :
    Run.Secures name False (callBody around inner closure arguments) := by
  refine .bind (inFresh_secures ?_) fun outcome new => .pure (harmless_outcome.mp new)
  exact .bind ((bindParams_secures closure.params arguments handed).mono fun _ => trivial)
    fun _ _ => execBody_secures parts closure.body apart

theorem inCaptured_secures (closure : Closure) (held : Held Arena.locals (Value.function closure))
    {body : Run Value} (secures : Run.Secures name False body) :
    Run.Secures name False (inCaptured around closure body) := by
  -- the scope that a function captured is a local one, whether it is still there or not
  cases scope : closure.scope with
  | none =>
      rw [inCaptured_none scope]
      exact secures
  | some id =>
      have here : id ∈ Arena.locals :=
        held id (by simp [Capturing.captured, Value.captured, scope])
      intro machine watch stack anchors inside
      by_cases live : machine.arena.isLive id = true
      · rw [inCaptured_entered scope live]
        have entered := (anchors.push live here).carry (.function closure)
        exact Run.Anchored.inScope secures entered nofun
      · rw [inCaptured_missed scope live]
        exact secures _ watch stack anchors inside

include parts in
theorem call_secures (function : Value) (arguments : List Value) (called : Harmless name function)
    (handed : Harmless name arguments) :
    Run.Secures name False (call around inner function arguments) := by
  cases function with
  | function closure =>
      have apart : name ∉ Stmt.allTargets closure.body :=
        called.spares closure (by simp [Bearing.closures, Value.closures])
      exact inCaptured_secures closure called.held
        (callBody_secures parts closure arguments apart handed)
  | number _ | text _ | boolean _ | list _ | map _ | void => exact .pure harmless_void

end

end Evaluation

/-! ### Programs -/

variable {name : String} {around : Surroundings}

theorem Runner.ofDepth_secures (hosts : around.modules.Spares name) (depth : Nat) :
    Runner.Secures name (.ofDepth around depth) := by
  -- a runner's parts are run by the runner of the depth below
  induction depth with
  | zero => exact ⟨fun _ => .fail _, fun _ _ => .fail _, fun _ _ _ _ => .fail _⟩
  | succ depth ih =>
      exact ⟨Evaluation.eval_secures ih hosts, Evaluation.exec_secures ih,
        Evaluation.call_secures ih⟩

end Parlance
