import Parlance.Datum
import Parlance.Settings

/-!
Settings from data. What the data leave out stays at its standard; what they hold under a known
key must have the type that the key asks for, and other keys are passed over.
-/

namespace Parlance.Settings

inductive Flaw where
  | notAnInteger (key : String) (found : Bool)
  | wrongType (key found : String)
  | negativeSteps
  | noLoopIndex
  deriving DecidableEq, Repr

def Flaw.message : Flaw → String
  | .notAnInteger key found =>
      key ++ " must be an integer, got " ++ (if found then "True" else "False")
  | .wrongType key found => key ++ " has invalid type " ++ found
  | .negativeSteps => "interpreter.max_steps must be >= 0"
  | .noLoopIndex => "interpreter.loop_index needs at least one name"

abbrev Reader (α : Type) := Datum → Except Flaw α

def asTable (key : String) : Reader (Table String Datum)
  | .table entries => .ok entries
  | other => .error (.wrongType key other.typeName)

def asText (key : String) : Reader String
  | .text s => .ok s
  | other => .error (.wrongType key other.typeName)

def asFlag (key : String) : Reader Bool
  | .boolean b => .ok b
  | other => .error (.wrongType key other.typeName)

def asInteger (key : String) : Reader Int
  | .integer n => .ok n
  | .boolean b => .error (.notAnInteger key b)
  | other => .error (.wrongType key other.typeName)

def asTexts (key : String) : Reader (List String)
  | .list items => items.mapM (asText key)
  | other => .error (.wrongType key other.typeName)

/-- What a table holds under a key, read in its way, or else the standard. -/
def entryOr {α : Type} (standard : α) (read : Reader α) (key : String)
    (entries : Table String Datum) : Except Flaw α :=
  match Table.get? key entries with
  | none => .ok standard
  | some datum => read datum

/-- The settings that data describe. Of several flaws the one that is met first counts. -/
def ofData (data : Table String Datum) : Except Flaw Settings := do
  let interpreter ← entryOr [] (asTable "interpreter") "interpreter" data
  let granted ← entryOr [] (asTable "capabilities") "capabilities" data
  let steps ← entryOr 0 (asInteger "interpreter.max_steps") "max_steps" interpreter
  if steps < 0 then throw .negativeSteps
  let loopIndex ←
    entryOr standardLoopIndex (asTexts "interpreter.loop_index") "loop_index" interpreter
  if loopIndex.isEmpty then throw .noLoopIndex
  let modules ←
    entryOr Capabilities.standardModules (asTexts "capabilities.modules") "modules" granted
  let elements ←
    entryOr Capabilities.standardElements (asTexts "capabilities.elements") "elements" granted
  let elementModule ←
    entryOr "view" (asText "capabilities.element_module") "element_module" granted
  let strict ← entryOr false (asFlag "interpreter.strict") "strict" interpreter
  let shortCircuit ←
    entryOr false (asFlag "interpreter.short_circuit") "short_circuit" interpreter
  return ⟨strict, shortCircuit, loopIndex, steps.toNat, .ofNames modules elements elementModule⟩

end Parlance.Settings
