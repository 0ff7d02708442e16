import Parlance.Capabilities

/-!
Settings of the interpreter.
-/

namespace Parlance

structure Settings where
  /-- Flaws and anomalies are errors. -/
  strict : Bool
  /-- The right operand of a logical operator is skipped when the left one decides. -/
  shortCircuit : Bool
  /-- Names under which a loop binds the number of the round. -/
  loopIndex : List String
  /-- How many steps a run may take; zero sets no limit. -/
  maxSteps : Nat
  capabilities : Capabilities
  deriving DecidableEq, Repr, Inhabited

namespace Settings

def standardLoopIndex : List String := ["step", "loop_index"]

def standard : Settings := ⟨false, false, standardLoopIndex, 0, .standard⟩

end Settings

end Parlance
