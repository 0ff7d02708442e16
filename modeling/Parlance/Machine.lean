import Parlance.Failure
import Parlance.Program.Node
import Parlance.Settings

/-!
The machine that runs programs: the arena, a count of steps, and a journal of what happened. Every
node visited, every round of a loop and every repeated line is a step.
-/

namespace Parlance

inductive Event where
  | visited (kind : Node.Kind) (place : Place)
  | emitted (line : String)
  | served (serial : Nat) (request : Request)

namespace Event

def line? : Event → Option String
  | .emitted line => some line
  | _ => none

def served? : Event → Option (Nat × Request)
  | .served serial request => some (serial, request)
  | _ => none

end Event

structure Machine where
  arena : Arena
  steps : Nat
  /-- What happened, the latest first. -/
  journal : List Event
  /-- The functions that were called without the scope they captured, since it had been given up;
  the latest first. -/
  strays : List String

instance : Inhabited Machine := ⟨⟨.empty, 0, [], []⟩⟩

abbrev Run (α : Type) := EStateM Failure Machine α

namespace Machine

def ofArena (arena : Arena) : Machine := ⟨arena, 0, [], []⟩

def events (machine : Machine) : List Event := machine.journal.reverse

end Machine

namespace Run

variable {α : Type}

def fail (failure : Failure) : Run α := fun machine => .error failure machine

def note (event : Event) : Run Unit := fun machine =>
  .ok () { machine with journal := event :: machine.journal }

def emit (line : String) : Run Unit := note (.emitted line)

/-- Notes a call without the captured scope. -/
def noteStray (name : String) : Run Unit := fun machine =>
  .ok () { machine with strays := name :: machine.strays }

/-- Counts a step and notes the node, unless the step is one too many. -/
def visit (budget : Option Nat) (kind : Node.Kind) (place : Place) : Run Unit := fun machine =>
  let machine := { machine with steps := machine.steps + 1 }
  match budget with
  | none => note (.visited kind place) machine
  | some limit =>
      if limit < machine.steps then
        .error ⟨.stepLimit limit, some (.ofPlace place none none)⟩ machine
      else note (.visited kind place) machine

def onArena (action : Arena.Action α) : Run α := fun machine =>
  match action machine.arena with
  | .ok value arena => .ok value { machine with arena }
  | .error fault arena => .error (.of (.arena fault)) { machine with arena }

/-- A change of the arena that cannot fail. -/
def change (f : Arena → Arena) : Run Unit := fun machine =>
  .ok () { machine with arena := f machine.arena }

def arena : Run Arena := fun machine => .ok machine.arena machine

/-- Pins the innermost scope, if one is entered, for a function that captures it. -/
def capture : Run (Option Nat) := fun machine =>
  match machine.arena.innermost? with
  | some id => .ok (some id) { machine with arena := machine.arena.pin id }
  | none => .ok none machine

def resolve (name : String) : Run (Option Value) := fun machine =>
  match machine.arena.resolve name with
  | .ok value => .ok value machine
  | .error fault => .error (.of (.arena fault)) machine

/-- Runs a body in a scope that `enter` puts on the stack, and leaves it, whatever the body did. -/
def inScope (upkeep : Arena.Upkeep) (enter : Arena → Arena) (body : Run α) : Run α :=
  fun machine =>
    let leave := onArena (Arena.pop upkeep)
    match body { machine with arena := enter machine.arena } with
    | .ok value machine =>
        match leave machine with
        | .ok _ machine => .ok value machine
        | .error failure machine => .error failure machine
    | .error failure machine =>
        match leave machine with
        | .ok _ machine => .error failure machine
        | .error failure machine => .error failure machine

end Run

end Parlance
