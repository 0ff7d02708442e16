import Parlance.Proofs.Running.Likeness

/-!
Runs that are alike. If the primitives of two evaluators are alike, then so are all their runs of
expressions, statements and functions, to any depth, and with them the runs of programs.
-/

namespace Parlance

namespace Likeness

variable {likeness : Likeness} {around around' : Surroundings}

open Evaluation

section

variable {inner inner' : Runner}
variable (quiet : likeness.Quiet around around') (links : likeness.Links around around')
variable (parts : likeness.Pairs inner inner')

include parts in
theorem evalAll_agree (exprs : List Expr) (known : Set Nat) (stack : List Nat) :
    likeness.Agree known stack (evalAll inner exprs)
      (evalAll inner' (Expr.movedAll likeness.relabelling.place exprs)) := by
  induction exprs generalizing known with
  | nil => exact agree_pure (a := []) (List.forall_mem_nil _)
  | cons expr rest ih =>
      apply agree_bind (parts.eval known stack expr)
      intro more _ value held
      apply agree_bind (ih more)
      intro further grows values helds
      exact agree_pure (held_cons.mpr ⟨held.mono grows, helds⟩)

include quiet parts in
theorem evalEntries_agree (pairs : List (MapKey × Expr)) (entries : List (String × Value))
    (known : Set Nat) (stack : List Nat) (held : Held known entries) :
    likeness.Agree known stack (evalEntries around inner entries pairs)
      (evalEntries around' inner' (Value.relabelEntries likeness.relabelling entries)
        (Expr.movedEntries likeness.relabelling.place pairs)) := by
  induction pairs generalizing known entries with
  | nil => exact agree_pure held
  | cons pair rest ih =>
      apply agree_bind (parts.eval known stack pair.2)
      intro more grows value new
      apply agree_bind (quiet.visit more stack .literal pair.1.place)
      intro further wider _ _
      have later := ih (Table.put pair.1.text value entries) further
        (held_put (held.mono (grows.trans wider)) _ (new.mono wider))
      rw [← Value.put_relabelEntries] at later
      exact later

include quiet in
theorem evalName_agree (name : String) (place : Place) (known : Set Nat) (stack : List Nat) :
    likeness.Agree known stack (evalName around name place)
      (evalName around' name (likeness.relabelling.place place)) := by
  apply agree_bind (quiet.resolve known stack name)
  intro more _ found held
  cases found with
  | some value =>
      exact agree_pure (a := value) fun id member =>
        held id (by simpa [Capturing.captured] using member)
  | none =>
      exact quiet.lapse more stack _ place .void (held_of_nil (by simp [Value.captured])) trivial

include quiet parts in
theorem evalBinary_agree (op : BinaryOp) (left right : Expr) (place : Place) (known : Set Nat)
    (stack : List Nat) :
    likeness.Agree known stack (evalBinary around inner op left right place)
      (evalBinary around' inner' op (left.moved likeness.relabelling.place)
        (right.moved likeness.relabelling.place) (likeness.relabelling.place place)) := by
  apply agree_bind (parts.eval known stack left)
  intro more _ first _
  have decides : (if around'.settings.shortCircuit = true then
        op.decided? (Labelled.relabel likeness.relabelling first) else none) =
      (if around.settings.shortCircuit = true then op.decided? first else none).map
        (Value.relabel likeness.relabelling) := by
    rw [quiet.shortCircuit_eq]
    split
    · exact Value.decided?_relabel _ op first
    · rfl
  rw [decides]
  -- a left operand that decides alone leaves a truth value, which captures nothing
  cases decided : if around.settings.shortCircuit = true then op.decided? first else none with
  | some value =>
      have none : value.captured = [] := by
        by_cases short : around.settings.shortCircuit = true
        · simp only [short, ↓reduceIte] at decided
          rw [← BinaryOp.apply_of_decided? decided .void, BinaryOp.captured_apply]
        · simp [short] at decided
      exact agree_pure (held_of_nil none)
  | none =>
      apply agree_bind (parts.eval more stack right)
      intro further _ second _
      have held : Held further (op.apply first second) :=
        held_of_nil (BinaryOp.captured_apply op first second)
      simp only [Labelled.relabel, Value.toNumber_relabel, Value.apply_relabel]
      by_cases divides : (op.isDivision && second.toNumber == 0) = true
      · simp only [divides, Bool.true_and]
        exact quiet.lapse further stack _ place _ held trivial
      · simp only [divides, Bool.false_and, Bool.false_eq_true, ↓reduceIte]
        exact agree_pure held

include quiet parts in
theorem callElement_agree (callee : String) (arguments : List Value) (place : Place)
    (known : Set Nat) (stack : List Nat) (held : Held known arguments) :
    likeness.Agree known stack (callElement around inner callee arguments place)
      (callElement around' inner' callee (Value.relabelItems likeness.relabelling arguments)
        (likeness.relabelling.place place)) := by
  simp only [callElement, quiet.capabilities_eq, quiet.hosts]
  by_cases element : (around.settings.capabilities.isElement callee &&
      around.modules.has around.settings.capabilities.elementModule) = true
  · have hosted : around.modules.has around.settings.capabilities.elementModule = true :=
      (Bool.and_eq_true_iff.mp element).2
    rw [if_pos element, if_pos element]
    exact quiet.dispatch inner inner' parts known stack _ hosted held
  · rw [if_neg element, if_neg element]
    exact quiet.lapse known stack _ place .void (held_of_nil (by simp [Value.captured])) trivial

include quiet parts in
theorem callBound_agree (callee : String) (arguments : List Value) (place : Place)
    (known : Set Nat) (stack : List Nat) (held : Held known arguments) :
    likeness.Agree known stack (callBound around inner callee arguments place)
      (callBound around' inner' callee (Value.relabelItems likeness.relabelling arguments)
        (likeness.relabelling.place place)) := by
  apply agree_bind (quiet.resolve known stack callee)
  intro more grows found bound
  cases found with
  | none => exact callElement_agree quiet parts callee arguments place more stack (held.mono grows)
  | some value =>
      have boundHeld : Held more value :=
        fun id member => bound id (by simpa [Capturing.captured] using member)
      cases value with
      | function closure => exact parts.call more stack _ arguments boundHeld (held.mono grows)
      | number _ | text _ | boolean _ | list _ | map _ | void =>
          exact callElement_agree quiet parts callee arguments place more stack (held.mono grows)

include quiet parts in
theorem evalCall_agree (callee : String) (method : Option String) (arguments : List Expr)
    (place : Place) (known : Set Nat) (stack : List Nat) :
    likeness.Agree known stack (evalCall around inner callee method arguments place)
      (evalCall around' inner' callee method
        (Expr.movedAll likeness.relabelling.place arguments)
        (likeness.relabelling.place place)) := by
  apply agree_bind (evalAll_agree parts arguments known stack)
  intro more _ values held
  cases method with
  | none => exact callBound_agree quiet parts callee values place more stack held
  | some method =>
      simp only [quiet.hosts]
      by_cases hosted : around.modules.has callee = true
      · rw [if_pos hosted, if_pos hosted]
        exact quiet.dispatch inner inner' parts more stack _ hosted held
      · rw [if_neg hosted, if_neg hosted]
        exact callBound_agree quiet parts callee values place more stack held

include quiet parts in
theorem compute_agree (expr : Expr) (known : Set Nat) (stack : List Nat) :
    likeness.Agree known stack (compute around inner expr)
      (compute around' inner' (expr.moved likeness.relabelling.place)) := by
  -- literals hold no scope; what is computed holds no more than its parts
  cases expr with
  | literal value place =>
      have held : Held known (Value.ofLiteral value) :=
        held_of_nil (Value.captured_ofLiteral value)
      have agree : likeness.Agree known stack (pure (Value.ofLiteral value))
          (pure ((Value.ofLiteral value).relabel likeness.relabelling)) := agree_pure held
      rw [Value.ofLiteral_relabel] at agree
      exact agree
  | ident name place => exact evalName_agree quiet name place known stack
  | call callee method arguments place =>
      exact evalCall_agree quiet parts callee method arguments place known stack
  | binary op left right place =>
      exact evalBinary_agree quiet parts op left right place known stack
  | unary op operand place =>
      apply agree_bind (parts.eval known stack operand)
      intro more _ value _
      simp only [Labelled.relabel, Value.unary_relabel]
      exact agree_pure (held_of_nil (UnaryOp.captured_apply op value))
  | list items place =>
      refine agree_bind (evalAll_agree parts items known stack) ?_
      intro more _ values held
      exact agree_pure (a := Value.list values) fun id member =>
        held id (by simpa [Capturing.captured, Value.captured] using member)
  | map entries place =>
      refine agree_bind (evalEntries_agree quiet parts entries [] known stack
        (List.forall_mem_nil _)) ?_
      intro more _ values held
      exact agree_pure (a := Value.map values) fun id member =>
        held id (by simpa [Capturing.captured, Value.captured] using member)
  | index target position place =>
      refine agree_bind (parts.eval known stack target) ?_
      intro more _ value held
      refine agree_bind (parts.eval more stack position) ?_
      intro further grows index _
      simp only [Labelled.relabel, Value.item_relabel]
      exact agree_pure (held_item (held.mono grows) index)

include quiet parts in
theorem eval_agree (expr : Expr) (known : Set Nat) (stack : List Nat) :
    likeness.Agree known stack (eval around inner expr)
      (eval around' inner' (expr.moved likeness.relabelling.place)) := by
  simp only [eval, Expr.kind_moved, Expr.place_moved]
  apply agree_bind (quiet.visit known stack expr.kind expr.place)
  intro more _ _ _
  exact compute_agree quiet parts expr more stack

/-! ### Statements -/

section

variable (execs : ∀ known stack stmt, likeness.Agree known stack (inner.exec stmt)
  (inner'.exec (stmt.moved likeness.relabelling.place)))

include execs in
theorem execAll_agree (body : List Stmt) (last : Outcome) (known : Set Nat) (stack : List Nat)
    (held : Held known last) :
    likeness.Agree known stack (execAll inner last body)
      (execAll inner' (last.relabel likeness.relabelling)
        (Stmt.movedAll likeness.relabelling.place body)) := by
  induction body generalizing known last with
  | nil => exact agree_pure held
  | cons stmt rest ih =>
      refine agree_bind (execs known stack stmt) ?_
      intro more _ outcome new
      simp only [Outcome.returned_relabel]
      by_cases returned : outcome.returned = true
      · simp only [returned, ↓reduceIte]
        exact agree_pure new
      · simp only [returned]
        exact ih outcome more new

include execs in
theorem execBody_agree (body : List Stmt) (known : Set Nat) (stack : List Nat) :
    likeness.Agree known stack (execBody inner body)
      (execBody inner' (Stmt.movedAll likeness.relabelling.place body)) :=
  execAll_agree execs body .normal known stack (held_normal known)

include quiet in
theorem declareAll_agree (names : List String) (value : Value) (known : Set Nat)
    (stack : List Nat) (held : Held known value) :
    likeness.Agree known stack (declareAll value names)
      (declareAll (value.relabel likeness.relabelling) names) := by
  induction names generalizing known with
  | nil => exact agree_pure (a := ()) (List.forall_mem_nil _)
  | cons name rest ih =>
      refine agree_bind (quiet.declare known stack name value held) ?_
      intro more grows _ _
      exact ih more (held.mono grows)

include quiet execs in
theorem round_agree (index : Nat) (item : Option (String × Value)) (body : List Stmt)
    (known : Set Nat) (stack : List Nat) (held : ∀ entry ∈ item, Held known entry.2) :
    likeness.Agree known stack (round around inner index item body)
      (round around' inner' index (item.map (Prod.map id (Value.relabel likeness.relabelling)))
        (Stmt.movedAll likeness.relabelling.place body)) := by
  refine quiet.inFresh known stack _ _ ?_
  intro id
  rw [quiet.loopIndex_eq]
  refine agree_bind (declareAll_agree quiet _ (.number (Float.ofNat index)) known _
    (held_of_nil (by simp [Value.captured]))) ?_
  intro more grows _ _
  cases item with
  | none => exact execBody_agree execs body more _
  | some entry =>
      have new : Held more entry.2 := (held entry rfl).mono grows
      refine agree_bind (quiet.declare more _ entry.1 entry.2 new) ?_
      intro further _ _ _
      exact execBody_agree execs body further _

include quiet execs in
theorem execRounds_agree (items : Items) (name : Option String) (body : List Stmt)
    (bodyPlace : Place) (left index : Nat) (known : Set Nat) (stack : List Nat)
    (held : name.isSome → ∀ index, Held known (items.item index)) :
    likeness.Agree known stack (execRounds around inner items name body bodyPlace left index)
      (execRounds around' inner' (items.relabel likeness.relabelling) name
        (Stmt.movedAll likeness.relabelling.place body) (likeness.relabelling.place bodyPlace)
        left index) := by
  induction left generalizing known index with
  | zero => exact agree_pure (a := Outcome.normal) (held_normal known)
  | succ left ih =>
      apply agree_bind (quiet.visit known stack .block bodyPlace)
      intro more grows _ _
      have entry : ∀ entry ∈ name.map (fun name => (name, items.item index)),
          Held more entry.2 := by
        intro entry here
        obtain ⟨key, named, rfl⟩ := Option.map_eq_some_iff.mp here
        exact (held (by simp [named]) index).mono grows
      have rounds := round_agree quiet execs index _ body more stack entry
      rw [Option.map_map] at rounds
      apply agree_bind rounds
      intro further wider outcome new
      simp only [Outcome.returned_relabel]
      by_cases returned : outcome.returned = true
      · simp only [returned, ↓reduceIte]
        exact agree_pure new
      · simp only [returned]
        exact ih (index + 1) further fun named index =>
          (held named index).mono (grows.trans wider)

end

theorem Bounds.zero {right : Nat} (bounds : likeness.Bounds 0 right) {α : Type} [Capturing α]
    [Labelled α] (known : Set Nat) (stack : List Nat) (body : Run α)
    (zero : right = 0 → body = Run.fail (.of .unbounded)) :
    likeness.Agree known stack (Run.fail (.of .unbounded)) body := by
  rcases bounds with ⟨same, fails⟩ | ⟨_, yields⟩
  · rw [zero same.symm]
    exact fails α known stack
  · exact yields α known stack body

theorem Bounds.succ {left right : Nat} (bounds : likeness.Bounds (left + 1) right) :
    ∃ less, right = less + 1 ∧ likeness.Bounds left less := by
  rcases bounds with ⟨same, fails⟩ | ⟨lesser, yields⟩
  · exact ⟨left, same.symm, Or.inl ⟨rfl, fails⟩⟩
  · exact ⟨right - 1, by omega, Or.inr ⟨by omega, yields⟩⟩

include quiet parts in
theorem execGuarded_agree (guard : Expr) (body : List Stmt) (left right index : Nat)
    (bounds : likeness.Bounds left right) (known : Set Nat) (stack : List Nat) :
    likeness.Agree known stack (execGuarded around inner guard body left index)
      (execGuarded around' inner' (guard.moved likeness.relabelling.place)
        (Stmt.movedAll likeness.relabelling.place body) right index) := by
  induction left generalizing right index known with
  | zero =>
      apply bounds.zero known stack _
      rintro rfl
      rfl
  | succ left ih =>
      obtain ⟨right, rfl, fewer⟩ := bounds.succ
      apply agree_bind (parts.eval known stack guard)
      intro more _ value _
      simp only [Labelled.relabel, Value.toBool_relabel]
      by_cases goes : value.toBool = true
      · simp only [goes, ↓reduceIte]
        apply agree_bind (round_agree quiet parts.exec index none body more stack nofun)
        intro further _ outcome new
        simp only [Outcome.returned_relabel]
        by_cases returned : outcome.returned = true
        · simp only [returned, ↓reduceIte]
          exact agree_pure new
        · simp only [returned]
          exact ih right (index + 1) fewer further
      · simp only [goes]
        exact agree_pure (a := Outcome.normal) (held_normal more)

include quiet parts in
theorem execLoop_agree (guarded : ∀ guard body known stack, likeness.Agree known stack
      (execGuarded around inner guard body around.rounds 0)
      (execGuarded around' inner' (guard.moved likeness.relabelling.place)
        (Stmt.movedAll likeness.relabelling.place body) around'.rounds 0)) (head : LoopHead)
    (body : List Stmt) (bodyPlace : Place) (known : Set Nat) (stack : List Nat) :
    likeness.Agree known stack (execLoop around inner head body bodyPlace)
      (execLoop around' inner' (head.moved likeness.relabelling.place)
        (Stmt.movedAll likeness.relabelling.place body)
        (likeness.relabelling.place bodyPlace)) := by
  cases head with
  | count count =>
      apply agree_bind (parts.eval known stack count)
      intro more _ value _
      simp only [Labelled.relabel, Value.toNumber_relabel]
      exact execRounds_agree quiet parts.exec _ none body bodyPlace _ 0 more stack nofun
  | each name list =>
      apply agree_bind (parts.eval known stack list)
      intro more _ value held
      simp only [Labelled.relabel, Items.ofValue_relabel]
      exact execRounds_agree quiet parts.exec _ name body bodyPlace _ 0 more stack
        fun _ => held_ofValue held
  | guard condition => exact guarded condition body known stack

include quiet in
theorem define_agree (name byname : Option String) (params : List Param) (body : List Stmt)
    (bodyPlace : Place) (known : Set Nat) (stack : List Nat) :
    likeness.Agree known stack (define name byname params body bodyPlace)
      (define name byname (params.map (Param.moved likeness.relabelling.place))
        (Stmt.movedAll likeness.relabelling.place body)
        (likeness.relabelling.place bodyPlace)) := by
  simp only [define, Param.names_moved]
  apply agree_bind (quiet.capture known stack)
  intro more _ scope held
  refine declareAll_agree quiet _ (.function ⟨name.getD "", params.map (·.name), body, bodyPlace,
    scope⟩) more stack ?_
  intro id member
  exact held id (by simpa [Capturing.captured, Value.captured] using member)

include parts in
theorem evalOptional_agree (expr : Option Expr) (known : Set Nat) (stack : List Nat) :
    likeness.Agree known stack (evalOptional inner expr)
      (evalOptional inner' (expr.map (Expr.moved likeness.relabelling.place))) := by
  cases expr with
  | none => exact agree_pure (a := Value.void) (held_of_nil (by simp [Value.captured]))
  | some expr => exact parts.eval known stack expr

include links in
theorem emitTimes_agree (line : String) (place : Place) (first : Bool) (count : Nat)
    (known : Set Nat) (stack : List Nat) :
    likeness.Agree known stack (emitTimes around line place first count)
      (emitTimes around' line (likeness.relabelling.place place) first count) := by
  induction count generalizing known first with
  | zero => exact agree_pure (a := ()) (List.forall_mem_nil _)
  | succ count ih =>
      -- the first line is emitted in the step of the statement, any other takes one more
      have emits : ∀ more, likeness.Agree more stack
          (do Run.emit line; emitTimes around line place false count)
          (do Run.emit line
              emitTimes around' line (likeness.relabelling.place place) false count) := by
        intro more
        apply agree_bind (links.emit more stack line)
        intro further _ _ _
        exact ih false further
      cases first with
      | true => exact emits known
      | false =>
          apply agree_bind (links.visit known stack .output place)
          intro more _ _ _
          exact emits more

include links parts in
theorem execOutput_agree (what : Option (Expr × Option Expr)) (place : Place) (known : Set Nat)
    (stack : List Nat) :
    likeness.Agree known stack (execOutput around inner what place)
      (execOutput around' inner'
        (what.map fun (value, count) => (value.moved likeness.relabelling.place,
          count.map (Expr.moved likeness.relabelling.place)))
        (likeness.relabelling.place place)) := by
  rcases what with _ | ⟨expr, _ | count⟩
  · exact emitTimes_agree links "" place true 1 known stack
  · apply agree_bind (parts.eval known stack expr)
    intro more _ value _
    simp only [Labelled.relabel, Value.toText_relabel]
    exact emitTimes_agree links value.toText place true 1 more stack
  · apply agree_bind (parts.eval known stack expr)
    intro more _ value _
    apply agree_bind (parts.eval more stack count)
    intro further _ times _
    simp only [Labelled.relabel, Value.toText_relabel, Value.toNumber_relabel]
    exact emitTimes_agree links value.toText place true _ further stack

include quiet parts in
/-- Loops that go by a guard and the emission of lines are left to whoever asks. -/
theorem perform_agree (guarded : ∀ guard body known stack, likeness.Agree known stack
      (execGuarded around inner guard body around.rounds 0)
      (execGuarded around' inner' (guard.moved likeness.relabelling.place)
        (Stmt.movedAll likeness.relabelling.place body) around'.rounds 0)) (stmt : Stmt)
    (outputs : ∀ what place, stmt = .output what place → ∀ known stack, likeness.Agree known stack
      (execOutput around inner what place)
      (execOutput around' inner'
        (what.map fun (value, count) => (value.moved likeness.relabelling.place,
          count.map (Expr.moved likeness.relabelling.place)))
        (likeness.relabelling.place place)))
    (known : Set Nat) (stack : List Nat) :
    likeness.Agree known stack (perform around inner stmt)
      (perform around' inner' (stmt.moved likeness.relabelling.place)) := by
  have normal : ∀ more, likeness.Agree more stack (pure Outcome.normal) (pure Outcome.normal) :=
    fun more => agree_pure (a := Outcome.normal) (held_normal more)
  -- the parts of each statement agree in turn; what one of them gives is held when the next is run
  cases stmt with
  | expression expr =>
      apply agree_bind (parts.eval known stack expr)
      intro more _ value held
      exact agree_pure (a := Outcome.mk value false) held
  | block body place =>
      exact quiet.inFresh known stack _ _ fun id => execBody_agree parts.exec body known _
  | declare name initial place =>
      apply agree_bind (evalOptional_agree parts initial known stack)
      intro more _ value held
      apply agree_bind (quiet.declare more stack name value held)
      intro last _ _ _
      exact normal last
  | assign name expr place =>
      apply agree_bind (parts.eval known stack expr)
      intro more _ value held
      apply agree_bind (quiet.assign more stack name value held)
      intro last _ _ _
      exact normal last
  | define name byname params body bodyPlace place =>
      apply agree_bind (define_agree quiet name byname params body bodyPlace known stack)
      intro last _ _ _
      exact normal last
  | conditional guard body bodyPlace otherwise place =>
      apply agree_bind (parts.eval known stack guard)
      intro more _ value _
      simp only [Labelled.relabel, Value.toBool_relabel, Branch.stmt?_moved]
      by_cases goes : value.toBool = true
      · simp only [goes, ↓reduceIte]
        exact parts.exec more stack (.block body bodyPlace)
      · simp only [goes]
        cases otherwise.stmt? with
        | some stmt => exact parts.exec more stack stmt
        | none => exact normal more
  | loop head body bodyPlace place =>
      exact execLoop_agree quiet parts guarded head body bodyPlace known stack
  | giveBack expr place =>
      apply agree_bind (evalOptional_agree parts expr known stack)
      intro more _ value held
      exact agree_pure (a := Outcome.mk value true) held
  | output what place =>
      apply agree_bind (outputs what place rfl known stack)
      intro more _ _ _
      exact normal more

include quiet in
theorem exec_agree_of_perform (stmt : Stmt)
    (performs : ∀ known stack, likeness.Agree known stack (perform around inner stmt)
      (perform around' inner' (stmt.moved likeness.relabelling.place))) (known : Set Nat)
    (stack : List Nat) :
    likeness.Agree known stack (exec around inner stmt)
      (exec around' inner' (stmt.moved likeness.relabelling.place)) := by
  simp only [exec, Stmt.head?_moved]
  cases stmt.head? with
  | none => exact performs known stack
  | some head =>
      apply agree_bind (quiet.visit known stack head.1 head.2)
      intro more _ _ _
      exact performs more stack

include links parts in
theorem exec_agree (rounds : likeness.Bounds around.rounds around'.rounds) (stmt : Stmt)
    (known : Set Nat) (stack : List Nat) :
    likeness.Agree known stack (exec around inner stmt)
      (exec around' inner' (stmt.moved likeness.relabelling.place)) := by
  refine exec_agree_of_perform links.toQuiet stmt ?_ known stack
  apply perform_agree links.toQuiet parts
  · intro guard body
    exact execGuarded_agree links.toQuiet parts guard body _ _ 0 rounds
  · intro what place _
    exact execOutput_agree links parts what place

/-! ### Functions -/

section

variable (execs : ∀ known stack stmt, likeness.Agree known stack (inner.exec stmt)
  (inner'.exec (stmt.moved likeness.relabelling.place)))

include quiet in
theorem bindParams_agree (params : List String) (arguments : List Value) (known : Set Nat)
    (stack : List Nat) (held : Held known arguments) :
    likeness.Agree known stack (bindParams params arguments)
      (bindParams params (Value.relabelItems likeness.relabelling arguments)) := by
  induction params generalizing known arguments with
  | nil => exact agree_pure (a := ()) (List.forall_mem_nil _)
  | cons param params ih =>
      cases arguments with
      | nil =>
          refine agree_bind
            (quiet.declare known stack param .void (held_of_nil (by simp [Value.captured]))) ?_
          intro more grows _ _
          exact ih [] more (held.mono grows)
      | cons value values =>
          have parts := held_cons.mp held
          apply agree_bind (quiet.declare known stack param value parts.1)
          intro more grows _ _
          exact ih values more (parts.2.mono grows)

include quiet execs in
theorem callBody_agree (closure : Closure) (arguments : List Value) (known : Set Nat)
    (stack : List Nat) (held : Held known arguments) :
    likeness.Agree known stack (callBody around inner closure arguments)
      (callBody around' inner' (closure.relabel likeness.relabelling)
        (Value.relabelItems likeness.relabelling arguments)) := by
  refine agree_bind (quiet.inFresh known stack _ _ fun id => ?_) ?_
  · apply agree_bind (bindParams_agree quiet closure.params arguments known _ held)
    intro more _ _ _
    exact execBody_agree execs closure.body more _
  · intro more _ outcome new
    exact agree_pure (a := outcome.value) new

include quiet execs in
theorem call_agree (function : Value) (arguments : List Value) (known : Set Nat)
    (stack : List Nat) (held : Held known function) (helds : Held known arguments) :
    likeness.Agree known stack (call around inner function arguments)
      (call around' inner' (function.relabel likeness.relabelling)
        (Value.relabelItems likeness.relabelling arguments)) := by
  cases function with
  | function closure =>
      exact quiet.inCaptured known stack closure _ _ held fun within =>
        callBody_agree quiet execs closure arguments known within helds
  | number _ | text _ | boolean _ | list _ | map _ | void =>
      exact agree_pure (a := Value.void) (held_of_nil (by simp [Value.captured]))

end

include links parts in
theorem runner_agree (rounds : likeness.Bounds around.rounds around'.rounds) :
    likeness.Pairs (runner around inner) (runner around' inner') where
  eval known stack expr := eval_agree links.toQuiet parts expr known stack
  exec known stack stmt := exec_agree links parts rounds stmt known stack
  call known stack function arguments held helds :=
    call_agree links.toQuiet parts.exec function arguments known stack held helds

end

/-! ### Programs -/

theorem ofDepth_agree_of
    (step : ∀ inner inner', likeness.Pairs inner inner' →
      likeness.Pairs (runner around inner) (runner around' inner'))
    (depth depth' : Nat) (bounds : likeness.Bounds depth depth') :
    likeness.Pairs (.ofDepth around depth) (.ofDepth around' depth') := by
  -- a runner's parts are run by the runner of the depth below
  induction depth generalizing depth' with
  | zero =>
      exact
        { eval := fun known stack expr =>
            bounds.zero known stack _ (by rintro rfl; rfl)
          exec := fun known stack stmt =>
            bounds.zero known stack _ (by rintro rfl; rfl)
          call := fun known stack function arguments _ _ =>
            bounds.zero known stack _ (by rintro rfl; rfl) }
  | succ depth ih =>
      obtain ⟨less, rfl, fewer⟩ := bounds.succ
      exact step _ _ (ih less fewer)

theorem ofDepth_agree (links : likeness.Links around around')
    (rounds : likeness.Bounds around.rounds around'.rounds) (depth depth' : Nat)
    (bounds : likeness.Bounds depth depth') :
    likeness.Pairs (.ofDepth around depth) (.ofDepth around' depth') :=
  ofDepth_agree_of (fun _ _ parts => runner_agree links parts rounds) depth depth' bounds

section

variable (quiet : likeness.Quiet around around')

include quiet in
theorem complete_agree {inner inner' : Runner} (parts : likeness.Pairs inner inner')
    (stmt : Stmt) (known : Set Nat) :
    likeness.Agree known [] (complete around inner stmt)
      (complete around' inner' (stmt.moved likeness.relabelling.place)) := by
  apply agree_bind (parts.exec known [] stmt)
  intro more _ outcome held
  apply agree_bind (quiet.tidy more outcome.value held)
  intro further wider _ _
  exact agree_pure (Held.mono (a := outcome) wider held)

include quiet in
theorem runFrom_agree {inner inner' : Runner} (parts : likeness.Pairs inner inner')
    (program : Program) (last : Value) (known : Set Nat) (held : Held known last) :
    likeness.Agree known [] (Program.runFrom around inner last program)
      (Program.runFrom around' inner' (last.relabel likeness.relabelling)
        (program.moved likeness.relabelling.place)) := by
  induction program generalizing known last with
  | nil => exact agree_pure held
  | cons stmt rest ih =>
      simp only [Program.moved, Stmt.movedAll]
      rw [Program.runFrom_cons, Program.runFrom_cons]
      apply agree_bind (complete_agree quiet parts stmt known)
      intro more _ outcome new
      simp only [Outcome.returned_relabel]
      by_cases returned : outcome.returned = true
      · simp only [returned, ↓reduceIte]
        exact agree_pure (a := outcome.value) new
      · simp only [returned]
        exact ih outcome.value more new

end

/-- Programs are alike if the primitives of their evaluators are. -/
theorem run_agree (links : likeness.Links around around')
    (rounds : likeness.Bounds around.rounds around'.rounds) (program : Program)
    (depth depth' : Nat) (bounds : likeness.Bounds depth depth') (known : Set Nat) :
    likeness.Agree known [] (program.run around depth)
      ((program.moved likeness.relabelling.place).run around' depth') :=
  runFrom_agree links.toQuiet (ofDepth_agree links rounds depth depth' bounds) program .void known
    (held_of_nil (by simp [Value.captured]))

end Likeness

end Parlance
