import Parlance.Value.Host

/-!
Handlers of host modules. A handler answers a request by a script of actions: it may emit lines,
look names up and call functions of the program before it gives its answer or fails. Whoever
runs the script decides what these mean, and which failures of a function can be caught. A script
may go on behind one of these; any other ends it.
-/

namespace Parlance

/-- A call of a module as the program spells it. -/
structure Request where
  module : String
  method : String
  arguments : List Value

inductive Script where
  | give (answer : Host)
  | fail (message : String)
  | emit (line : String) (next : Script)
  | lookup (name : String) (next : Value → Script)
  | invoke (function : Value) (arguments : List Value) (next : Value → Script)
  /-- Goes on behind a failure too, with its message. -/
  | attempt (function : Value) (arguments : List Value) (next : Value → Script)
      (otherwise : String → Script)

abbrev Handler := Request → Script

/-- What a script may use of a running program. -/
structure Script.Context (ε σ : Type) where
  emit : String → EStateM ε σ Unit
  lookup : String → EStateM ε σ Value
  invoke : Value → List Value → EStateM ε σ Value

/-- Goes on with the value of a run, or with the message of an error that can be caught; the state
is the one that the error left. -/
def Script.rescue {ε σ α β : Type} (caught? : ε → Option String) (run : EStateM ε σ α)
    (next : α → EStateM ε σ β) (otherwise : String → EStateM ε σ β) : EStateM ε σ β := fun state =>
  match run state with
  | .ok value state => next value state
  | .error error state =>
      match caught? error with
      | some message => otherwise message state
      | none => .error error state

/-- Runs a script to its answer or to the message it fails with. -/
def Script.run {ε σ : Type} (context : Context ε σ) (caught? : ε → Option String) :
    Script → EStateM ε σ (Except String Host)
  | .give answer => pure (.ok answer)
  | .fail message => pure (.error message)
  | .emit line next => do
      context.emit line
      next.run context caught?
  | .lookup name next => do
      let value ← context.lookup name
      (next value).run context caught?
  | .invoke function arguments next => do
      let value ← context.invoke function arguments
      (next value).run context caught?
  | .attempt function arguments next otherwise =>
      rescue caught? (context.invoke function arguments)
        (fun value => (next value).run context caught?)
        fun message => (otherwise message).run context caught?

namespace Handler

def constant (answer : Host) : Handler := fun _ => .give answer

/-- Gives the method and the number of arguments. -/
def tally : Handler := fun request =>
  .give (.text (request.method ++ ":" ++ toString request.arguments.length))

def failing (message : String) : Handler := fun _ => .fail message

/-- Gives its arguments back. -/
def echo : Handler := fun request => .give (.list (request.arguments.map .value))

/-- Calls its first argument with the others. -/
def apply : Handler := fun request =>
  match request.arguments with
  | [] => .give .null
  | function :: arguments => .invoke function arguments fun value => .give (.value value)

/-- Calls a function with each item in turn and gives the list of results. -/
def applyEach (function : Value) : List Value → List Value → Script
  | [], done => .give (.list (done.reverse.map .value))
  | item :: rest, done =>
      .invoke function [item] fun value => applyEach function rest (value :: done)

/-- Calls its first argument with each item of the second. -/
def each : Handler := fun request =>
  match request.arguments with
  | function :: .list items :: _ => applyEach function items []
  | _ => .fail "not a list"

/-- Says what was asked of it and gives the value of the name that the method spells. -/
def lookup : Handler := fun request =>
  .emit (request.module ++ "." ++ request.method) <|
    .lookup request.method fun value => .give (.value value)

end Handler

end Parlance
