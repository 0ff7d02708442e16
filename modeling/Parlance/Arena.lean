import Parlance.Value

/-!
The arena of scopes. Scopes are addressed by number; the stack holds the numbers of those that
are entered, and the global scope, number zero, lies beneath it. A function captures the scope
it was defined in by its number, which pins that scope: when it leaves the stack it stays as long
as a function elsewhere in the arena, or in the value carried out of it, captures it. What such
a test cannot see, scopes that hold one another, `collect` finds by reachability.
-/

namespace Parlance

abbrev Bindings := Table String Value

structure Arena where
  scopes : Table Nat Bindings
  pinned : List Nat
  /-- Values on their way out of a scope, by its number. -/
  carried : Table Nat Value
  /-- The number of the next fresh scope; none is ever used twice. -/
  nextId : Nat
  /-- The entered scopes, the innermost first. -/
  stack : List Nat

instance : Inhabited Arena := ⟨⟨[], [], [], 0, []⟩⟩

namespace Arena

/-- Operations that the arena's state does not allow. -/
inductive Fault where
  | emptyStack
  | missing (id : Nat)
  deriving DecidableEq, Repr

def Fault.message : Fault → String
  | .emptyStack => "pop from empty list"
  | .missing id => toString id

/-- Whether a captured scope is given up once nothing can reach it, or kept for good. -/
inductive Upkeep where
  | reclaim | retain
  deriving DecidableEq, Repr, Inhabited

abbrev Action (α : Type) := EStateM Fault Arena α

def globalId : Nat := 0

def empty : Arena := ⟨[(globalId, [])], [], [], 1, []⟩

def isLive (arena : Arena) (id : Nat) : Bool := Table.has id arena.scopes

def size (arena : Arena) : Nat := arena.scopes.length

def innermost? (arena : Arena) : Option Nat := arena.stack.head?

/-- The bindings of a scope; none if it is not live. -/
def valuesOf (arena : Arena) (id : Nat) : List Value :=
  ((Table.get? id arena.scopes).getD []).values

def pushFresh (arena : Arena) : Arena :=
  { arena with
    scopes := Table.put arena.nextId [] arena.scopes
    nextId := arena.nextId + 1
    stack := arena.nextId :: arena.stack }

/-- Enters a scope once more. -/
def push (id : Nat) (arena : Arena) : Arena := { arena with stack := id :: arena.stack }

def pin (id : Nat) (arena : Arena) : Arena :=
  if id = globalId ∨ id ∈ arena.pinned then arena
  else { arena with pinned := arena.pinned ++ [id] }

/-- Notes a value that leaves the innermost scope, if it holds functions that captured one. -/
def carry (value : Value) (arena : Arena) : Arena :=
  match arena.stack with
  | id :: _ =>
      if value.captured.isEmpty then arena
      else { arena with carried := Table.put id value arena.carried }
  | [] => arena

/-- A function outside the scope captures it: one bound in another scope, or in a carried value. -/
def isCaptured (arena : Arena) (id : Nat) (carried : Option Value) : Bool :=
  let others := arena.scopes.filter fun scope => scope.1 ≠ id
  let bound := others.flatMap fun scope => scope.2.values
  (carried.toList ++ bound ++ arena.carried.values).any fun value => value.captured.contains id

/-- Leaves the innermost scope. It is given up unless it is entered elsewhere too or still
captured. -/
def pop (upkeep : Upkeep) : Action Unit := fun arena =>
  match arena.stack with
  | [] => .error .emptyStack arena
  | id :: stack =>
      let carried := Table.get? id arena.carried
      let arena := { arena with stack, carried := Table.erase id arena.carried }
      if stack.contains id then .ok () arena
      else if arena.pinned.contains id &&
          (upkeep = .retain || arena.isCaptured id carried) then .ok () arena
      else
        let arena := { arena with pinned := arena.pinned.filter (· ≠ id) }
        if arena.isLive id then .ok () { arena with scopes := Table.erase id arena.scopes }
        else .error (.missing id) arena

def popTimes (upkeep : Upkeep) : Nat → Action Unit
  | 0 => fun arena => .ok () { arena with carried := [] }
  | count + 1 => do
      pop upkeep
      popTimes upkeep count

def unwind (upkeep : Upkeep) : Action Unit := fun arena =>
  popTimes upkeep arena.stack.length arena

/-- Live scopes that functions bound in some scopes capture. -/
def capturedFrom (arena : Arena) (ids : List Nat) : List Nat :=
  (ids.flatMap fun id => (arena.valuesOf id).flatMap Value.captured).filter arena.isLive

/-- The scopes seen, and those that chains of captures from them lead to. -/
def reach (arena : Arena) : (rounds : Nat) → (seen : List Nat) → List Nat
  | 0, seen => seen
  | rounds + 1, seen =>
      match ((arena.capturedFrom seen).filter (· ∉ seen)).eraseDups with
      | [] => seen
      | fresh => reach arena rounds (seen ++ fresh)

/-- Scopes reachable from values and from the bindings of scopes. -/
def reachable (arena : Arena) (values : List Value) (ids : List Nat) : List Nat :=
  let bound := ids.flatMap arena.valuesOf
  let first := ((values ++ bound).flatMap Value.captured).filter arena.isLive
  reach arena arena.size first.eraseDups

/-- Gives up scopes one by one; one that is still entered is only unpinned. -/
def release : List Nat → Action Unit
  | [] => pure ()
  | id :: rest => fun arena =>
      let arena := { arena with pinned := arena.pinned.filter (· ≠ id) }
      if arena.stack.contains id then release rest arena
      else if arena.isLive id then
        release rest { arena with scopes := Table.erase id arena.scopes }
      else .error (.missing id) arena

/-- Gives up the pinned scopes that nothing reaches, from the values, the carried ones, the global
scope and the entered scopes. The answer is their number. -/
def collect (upkeep : Upkeep) (roots : List Value) : Action Nat := fun arena =>
  if arena.pinned.isEmpty || upkeep = .retain then .ok 0 arena
  else
    let entered := globalId :: arena.stack.reverse
    match entered.find? fun id => !arena.isLive id with
    | some id => .error (.missing id) arena
    | none =>
        let reached := arena.reachable (roots ++ arena.carried.values) entered
        let lost := (arena.pinned.filter (· ∉ reached)).mergeSort (· ≤ ·)
        match release lost arena with
        | .ok _ arena => .ok lost.length arena
        | .error fault arena => .error fault arena

/-- The scope that holds a name: the innermost entered one, or else the global one. -/
def holder? (arena : Arena) (name : String) : List Nat → Except Fault (Option Nat)
  | [] =>
      match Table.get? globalId arena.scopes with
      | none => .error (.missing globalId)
      | some bindings => .ok (if bindings.has name then some globalId else none)
  | id :: rest =>
      match Table.get? id arena.scopes with
      | none => .error (.missing id)
      | some bindings => if bindings.has name then .ok (some id) else arena.holder? name rest

def resolve (arena : Arena) (name : String) : Except Fault (Option Value) :=
  (arena.holder? name arena.stack).map fun holder =>
    holder.bind fun id => (Table.get? id arena.scopes).bind (Table.get? name)

def bind (id : Nat) (name : String) (value : Value) : Action Unit := fun arena =>
  match Table.get? id arena.scopes with
  | none => .error (.missing id) arena
  | some bindings =>
      .ok () { arena with scopes := Table.put id (Table.put name value bindings) arena.scopes }

def declare (name : String) (value : Value) : Action Unit := fun arena =>
  bind (arena.innermost?.getD globalId) name value arena

/-- Binds a name anew in the scope that holds it; if none does it is declared. -/
def assign (name : String) (value : Value) : Action Unit := fun arena =>
  match arena.holder? name arena.stack with
  | .error fault => .error fault arena
  | .ok (some id) => bind id name value arena
  | .ok none => declare name value arena

def bindings? (arena : Arena) (id : Nat) : Except Fault Bindings :=
  match Table.get? id arena.scopes with
  | none => .error (.missing id)
  | some bindings => .ok bindings

def globals (arena : Arena) : Bindings := (Table.get? globalId arena.scopes).getD []

/-- Gives up everything but the count of numbers used. -/
def reset (arena : Arena) : Arena := { empty with nextId := arena.nextId }

end Arena

end Parlance
