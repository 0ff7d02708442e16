import Parlance.Module.Handler
import Parlance.Text.Quoted

/-!
The registry of host modules, under names without regard to case and to blanks around them, and
the dispatch of a call to the handler. Whatever goes wrong in a handler stays a failure of
the dispatch.
-/

namespace Parlance

/-- A handler and its number among all that were ever registered. -/
structure Registered where
  serial : Nat
  handler : Handler

structure Registry where
  handlers : Table String Registered
  /-- How many handlers were ever registered. -/
  count : Nat

instance : Inhabited Registry := ⟨⟨[], 0⟩⟩

namespace Registry

inductive Error where
  | emptyName
  | notAHandler (name : String)
  deriving DecidableEq, Repr

def Error.message : Error → String
  | .emptyName => "Module name must not be empty"
  | .notAHandler name =>
      "Handler for " ++ Text.quoted name ++ " is neither a ModuleHandler nor callable"

def empty : Registry := ⟨[], 0⟩

def key (name : String) : String :=
  Unicode.lower (String.ofList (Unicode.trim name.toList))

/-- Registers a handler, in place of one that has the name already; `none` stands for an object
that cannot handle anything. -/
def register (name : String) (handler : Option Handler) (registry : Registry) :
    Except Error Registry :=
  if key name = "" then .error .emptyName
  else
    match handler with
    | none => .error (.notAHandler name)
    | some handler =>
        .ok ⟨Table.put (key name) ⟨registry.count, handler⟩ registry.handlers,
          registry.count + 1⟩

def unregister (name : String) (registry : Registry) : Registry :=
  { registry with handlers := Table.erase (key name) registry.handlers }

def find? (registry : Registry) (name : String) : Option Registered :=
  Table.get? (key name) registry.handlers

def has (registry : Registry) (name : String) : Bool := (registry.find? name).isSome

def names (registry : Registry) : List String := registry.handlers.keys

def size (registry : Registry) : Nat := registry.handlers.length

end Registry

namespace Dispatch

inductive Fault where
  | unknownModule (name : String)
  | failed (module method reason : String)
  | answerTooLarge
  deriving DecidableEq, Repr

def Fault.message : Fault → String
  | .unknownModule name => "Module not registered: " ++ Text.quoted name
  | .failed module method reason =>
      "Module " ++ Text.quoted module ++ " failed in " ++ Text.quoted method ++ ": " ++ reason
  | .answerTooLarge => Host.TooLarge.message

/-- How a dispatch reports to what runs it. -/
structure Reports (ε σ : Type) where
  fault : Fault → ε
  explain : ε → String
  served : Nat → Request → EStateM ε σ Unit
  /-- The message of an error that a handler can catch. -/
  caught? : ε → Option String := fun _ => none

end Dispatch

/-- Forwards a request to the handler of its module. An error raised while the handler runs is
wrapped with its text. -/
def Registry.dispatch {ε σ : Type} (registry : Registry) (context : Script.Context ε σ)
    (reports : Dispatch.Reports ε σ) (request : Request) : EStateM ε σ Value :=
  match registry.find? request.module with
  | none => throw (reports.fault (.unknownModule request.module))
  | some entry => fun state =>
      let failed (reason : String) :=
        reports.fault (.failed request.module request.method reason)
      let run := do
        reports.served entry.serial request
        (entry.handler request).run context reports.caught?
      match run state with
      | .error error state => .error (failed (reports.explain error)) state
      | .ok (.error reason) state => .error (failed reason) state
      | .ok (.ok answer) state =>
          match answer.toValue with
          | .ok value => .ok value state
          | .error _ => .error (reports.fault .answerTooLarge) state

end Parlance
