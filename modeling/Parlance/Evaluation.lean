import Parlance.Machine
import Parlance.Value.Operation

/-!
Running programs, depth first and from left to right. Expressions give a value; statements give
an outcome, which says besides whether it is on its way out of the function around it.

What a construct does is described in terms of a `Runner` for its parts, and a runner of some
depth uses one of a lesser depth for the parts, so a program that calls itself without end comes
to the end of the depth. Without strict settings a name that is not bound is void and a division
by zero is zero.
-/

namespace Parlance

structure Surroundings where
  settings : Settings
  modules : Registry
  budget : Option Nat
  /-- The text that strict errors quote, and its name. -/
  source : Option String
  sourceName : Option String
  upkeep : Arena.Upkeep
  /-- How many rounds a guarded loop may take. -/
  rounds : Nat

structure Outcome where
  value : Value
  returned : Bool

namespace Outcome

/-- Nothing to hand on. -/
def normal : Outcome := ⟨.void, false⟩

end Outcome

/-- Ways to run the parts of a program. -/
structure Runner where
  eval : Expr → Run Value
  exec : Stmt → Run Outcome
  call : Value → List Value → Run Value

namespace Runner

def exhausted : Runner :=
  ⟨fun _ => Run.fail (.of .unbounded), fun _ => Run.fail (.of .unbounded),
    fun _ _ => Run.fail (.of .unbounded)⟩

end Runner

namespace Evaluation

variable (around : Surroundings) (inner : Runner)

def visit (kind : Node.Kind) (place : Place) : Run Unit := Run.visit around.budget kind place

def failAt {α : Type} (cause : Cause) (place : Place) : Run α :=
  Run.fail ⟨cause, some (.ofPlace place around.source around.sourceName)⟩

def inScope {α : Type} (enter : Arena → Arena) (body : Run α) : Run α :=
  Run.inScope around.upkeep enter body

def declare (name : String) (value : Value) : Run Unit := Run.onArena (Arena.declare name value)

def carry (value : Value) : Run Unit := Run.change (Arena.carry value)

/-! ### Expressions -/

def evalAll : List Expr → Run (List Value)
  | [] => pure []
  | expr :: rest => do
      let value ← inner.eval expr
      let more ← evalAll rest
      pure (value :: more)

/-- The entries of a map; a value is evaluated before its key is visited. -/
def evalEntries (entries : List (String × Value)) :
    List (MapKey × Expr) → Run (List (String × Value))
  | [] => pure entries
  | (key, expr) :: rest => do
      let value ← inner.eval expr
      visit around .literal key.place
      evalEntries (Table.put key.text value entries) rest

def evalName (name : String) (place : Place) : Run Value := do
  match ← Run.resolve name with
  | some value => pure value
  | none =>
      if around.settings.strict then failAt around (.unresolvedName name) place
      else pure .void

def evalBinary (op : BinaryOp) (left right : Expr) (place : Place) : Run Value := do
  let first ← inner.eval left
  match if around.settings.shortCircuit then op.decided? first else none with
  | some value => pure value
  | none =>
      let second ← inner.eval right
      if op.isDivision && second.toNumber == 0 && around.settings.strict then
        failAt around (.divisionByZero op) place
      else pure (op.apply first second)

/-- The value of a name for a handler; void if it is not bound. -/
def lookup (name : String) : Run Value := do
  let value ← Run.resolve name
  pure (value.getD .void)

def dispatch (request : Request) : Run Value :=
  around.modules.dispatch ⟨Run.emit, lookup, inner.call⟩
    ⟨fun fault => .of (.dispatch fault), Failure.text,
      fun serial request => Run.note (.served serial request), Failure.caught?⟩
    request

/-- A call of what is neither a method of a module nor bound to a function: an element, or
nothing. -/
def callElement (callee : String) (arguments : List Value) (place : Place) : Run Value :=
  let capabilities := around.settings.capabilities
  if capabilities.isElement callee && around.modules.has capabilities.elementModule then
    dispatch around inner ⟨capabilities.elementModule, Unicode.lower callee, arguments⟩
  else if around.settings.strict then failAt around (.unresolvedCallee callee) place
  else pure .void

def callBound (callee : String) (arguments : List Value) (place : Place) : Run Value := do
  match ← Run.resolve callee with
  | some (.function closure) => inner.call (.function closure) arguments
  | _ => callElement around inner callee arguments place

/-- A call: of a registered module with a method, else of the function bound to the name, else of
an element. -/
def evalCall (callee : String) (method : Option String) (arguments : List Expr) (place : Place) :
    Run Value := do
  let values ← evalAll inner arguments
  match method with
  | some method =>
      if around.modules.has callee then dispatch around inner ⟨callee, method, values⟩
      else callBound around inner callee values place
  | none => callBound around inner callee values place

/-- What an expression comes to once its node is visited. -/
def compute : Expr → Run Value
  | .literal value _ => pure (.ofLiteral value)
  | .ident name place => evalName around name place
  | .call callee method arguments place => evalCall around inner callee method arguments place
  | .binary op left right place => evalBinary around inner op left right place
  | .unary op operand _ => do
      let value ← inner.eval operand
      pure (op.apply value)
  | .list items _ => do
      let values ← evalAll inner items
      pure (.list values)
  | .map entries _ => do
      let values ← evalEntries around inner [] entries
      pure (.map values)
  | .index target position _ => do
      let value ← inner.eval target
      let index ← inner.eval position
      pure (value.item index)

def eval (expr : Expr) : Run Value := do
  visit around expr.kind expr.place
  compute around inner expr

/-! ### Statements -/

/-- Statements up to the first that returns. -/
def execAll (last : Outcome) : List Stmt → Run Outcome
  | [] => pure last
  | stmt :: rest => do
      let outcome ← inner.exec stmt
      if outcome.returned then pure outcome else execAll outcome rest

/-- Runs in a fresh scope; the value that is left there is carried out of the scope. -/
def inFresh (body : Run Outcome) : Run Outcome :=
  inScope around Arena.pushFresh do
    let outcome ← body
    carry outcome.value
    pure outcome

def execBody (body : List Stmt) : Run Outcome := execAll inner .normal body

def declareAll (value : Value) : List String → Run Unit
  | [] => pure ()
  | name :: rest => do
      declare name value
      declareAll value rest

/-- One round of a loop in a scope of its own. -/
def round (index : Nat) (item : Option (String × Value)) (body : List Stmt) : Run Outcome :=
  inFresh around do
    declareAll (.number (Float.ofNat index)) around.settings.loopIndex
    match item with
    | some (name, value) => declare name value
    | none => pure ()
    execBody inner body

/-- What a loop with a known number of rounds goes over. -/
structure Items where
  count : Nat
  item : Nat → Value

def Items.ofList (values : List Value) : Items :=
  ⟨values.length, fun index => values[index]?.getD .void⟩

def Items.upTo (count : Nat) : Items := ⟨count, fun index => .number (Float.ofNat index)⟩

/-- The items of a list, the keys of a map in order, the characters of a text, or the numbers
below a number. -/
def Items.ofValue : Value → Items
  | .list values => .ofList values
  | .map entries => .ofList ((Text.sorted (Table.keys entries)).map .text)
  | .text s => .ofList (s.toList.map fun c => .text (String.singleton c))
  | .number x => .upTo (Value.countOf x)
  | _ => .ofList []

def execRounds (items : Items) (name : Option String) (body : List Stmt) (bodyPlace : Place) :
    (left : Nat) → (index : Nat) → Run Outcome
  | 0, _ => pure .normal
  | left + 1, index => do
      visit around .block bodyPlace
      let outcome ← round around inner index (name.map fun name => (name, items.item index)) body
      if outcome.returned then pure outcome
      else execRounds items name body bodyPlace left (index + 1)

def execGuarded (guard : Expr) (body : List Stmt) : (left : Nat) → (index : Nat) → Run Outcome
  | 0, _ => Run.fail (.of .unbounded)
  | left + 1, index => do
      let value ← inner.eval guard
      if value.toBool then
        let outcome ← round around inner index none body
        if outcome.returned then pure outcome else execGuarded guard body left (index + 1)
      else pure .normal

def execLoop (head : LoopHead) (body : List Stmt) (bodyPlace : Place) : Run Outcome := do
  match head with
  | .count rounds =>
      let value ← inner.eval rounds
      let items := Items.upTo (Value.countOf value.toNumber)
      execRounds around inner items none body bodyPlace items.count 0
  | .each name list =>
      let value ← inner.eval list
      let items := Items.ofValue value
      execRounds around inner items name body bodyPlace items.count 0
  | .guard condition => execGuarded around inner condition body around.rounds 0

def define (name byname : Option String) (params : List Param) (body : List Stmt)
    (bodyPlace : Place) : Run Unit := do
  let scope ← Run.capture
  let params := params.map (·.name)
  let function := Value.function ⟨name.getD "", params, body, bodyPlace, scope⟩
  declareAll function (name.toList ++ byname.toList)

def evalOptional : Option Expr → Run Value
  | none => pure .void
  | some expr => inner.eval expr

/-- Emits a line so many times; each time but the first is a step. -/
def emitTimes (line : String) (place : Place) (first : Bool) : Nat → Run Unit
  | 0 => pure ()
  | count + 1 => do
      if first then pure () else visit around .output place
      Run.emit line
      emitTimes line place false count

def execOutput (what : Option (Expr × Option Expr)) (place : Place) : Run Unit := do
  match what with
  | none => emitTimes around "" place true 1
  | some (expr, none) =>
      let value ← inner.eval expr
      emitTimes around value.toText place true 1
  | some (expr, some count) =>
      let value ← inner.eval expr
      let times ← inner.eval count
      emitTimes around value.toText place true (Value.countOf times.toNumber)

/-- What a statement does once its node is visited. -/
def perform : Stmt → Run Outcome
  | .expression expr => do
      let value ← inner.eval expr
      pure ⟨value, false⟩
  | .block body _ => inFresh around (execBody inner body)
  | .declare name initial _ => do
      let value ← evalOptional inner initial
      declare name value
      pure .normal
  | .assign name expr _ => do
      let value ← inner.eval expr
      Run.onArena (Arena.assign name value)
      pure .normal
  | .define name byname params body bodyPlace _ => do
      define name byname params body bodyPlace
      pure .normal
  | .conditional guard body bodyPlace otherwise _ => do
      let value ← inner.eval guard
      if value.toBool then inner.exec (.block body bodyPlace)
      else
        match otherwise.stmt? with
        | some stmt => inner.exec stmt
        | none => pure .normal
  | .loop head body bodyPlace _ => execLoop around inner head body bodyPlace
  | .giveBack expr _ => do
      let value ← evalOptional inner expr
      pure ⟨value, true⟩
  | .output what place => do
      execOutput around inner what place
      pure .normal

def exec (stmt : Stmt) : Run Outcome := do
  match stmt.head? with
  | some (kind, place) => visit around kind place
  | none => pure ()
  perform around inner stmt

/-! ### Functions -/

/-- Missing arguments are void, further ones are ignored. -/
def bindParams : List String → List Value → Run Unit
  | [], _ => pure ()
  | param :: params, [] => do
      declare param .void
      bindParams params []
  | param :: params, value :: values => do
      declare param value
      bindParams params values

def callBody (closure : Closure) (arguments : List Value) : Run Value := do
  let outcome ← inFresh around do
    bindParams closure.params arguments
    execBody inner closure.body
  pure outcome.value

/-- Runs with the scope that a function captured entered, if that is still there; the function
itself is carried, so that its scope stays. -/
def inCaptured (closure : Closure) (body : Run Value) : Run Value := do
  match closure.scope with
  | none => body
  | some id =>
      let arena ← Run.arena
      if arena.isLive id then
        inScope around (fun arena => Arena.carry (.function closure) (Arena.push id arena)) body
      else
        Run.noteStray closure.name
        body

/-- Calls a function in a fresh scope, beneath it the scope it captured. -/
def call (function : Value) (arguments : List Value) : Run Value := do
  match function with
  | .function closure => inCaptured around closure (callBody around inner closure arguments)
  | _ => pure .void

/-- Tidies the arena behind a statement that left a value. -/
def tidy (value : Value) : Run Unit := do
  let _ ← Run.onArena (Arena.collect around.upkeep [value])
  pure ()

def runner : Runner := ⟨eval around inner, exec around inner, call around inner⟩

end Evaluation

namespace Runner

/-- The runner for parts nested so deep. -/
def ofDepth (around : Surroundings) : Nat → Runner
  | 0 => exhausted
  | depth + 1 => Evaluation.runner around (ofDepth around depth)

end Runner

/-- Runs the statements of a program one by one and tidies the arena after each. The value is that
of the last statement run. -/
def Program.runFrom (around : Surroundings) (runner : Runner) (last : Value) :
    Program → Run Value
  | [] => pure last
  | stmt :: rest => do
      let outcome ← runner.exec stmt
      Evaluation.tidy around outcome.value
      if outcome.returned then pure outcome.value
      else runFrom around runner outcome.value rest

def Program.run (around : Surroundings) (depth : Nat) (program : Program) : Run Value :=
  Program.runFrom around (.ofDepth around depth) .void program

end Parlance
