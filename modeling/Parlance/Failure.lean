import Parlance.Arena
import Parlance.Grammar.Recovery
import Parlance.Location
import Parlance.Module.Registry
import Parlance.Operator

/-!
Failures: why a program was refused or a run ended early, and where.
-/

namespace Parlance

inductive Cause where
  | unexpectedCharacter (c : Char)
  | flaw (flaw : Grammar.Flaw)
  | unresolvedName (name : String)
  | unresolvedCallee (name : String)
  | divisionByZero (op : BinaryOp)
  | stepLimit (limit : Nat)
  | dispatch (fault : Dispatch.Fault)
  /-- The program runs or calls itself without bound. -/
  | unbounded
  | arena (fault : Arena.Fault)
  deriving DecidableEq, Repr

def Cause.message : Cause → String
  | .unexpectedCharacter c => "Unexpected character: " ++ Text.quoted (String.singleton c)
  | .flaw broken => broken.message
  | .unresolvedName name => "Unresolved name: " ++ Text.quoted name
  | .unresolvedCallee name => "Unresolved callee: " ++ Text.quoted name
  | .divisionByZero op => op.name ++ " by zero"
  | .stepLimit limit => "Step limit of " ++ toString limit ++ " exceeded"
  | .dispatch fault => fault.message
  | .unbounded => "maximum recursion depth exceeded"
  | .arena fault => fault.message

structure Failure where
  cause : Cause
  location : Option Location
  deriving DecidableEq, Repr

namespace Failure

def of (cause : Cause) : Failure := ⟨cause, none⟩

def text (failure : Failure) : String := Location.report failure.location failure.cause.message

/-- The message of a failure that has a place, which handlers can catch. The others stand for a
fault of the host, or for a program without end. -/
def caught? (failure : Failure) : Option String :=
  failure.location.map fun _ => failure.cause.message

end Failure

end Parlance
