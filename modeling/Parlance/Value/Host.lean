import Parlance.Value

/-!
Host data: what host modules answer with, and what they see of values. Unlike values it tells
integers of any size from floats; a value may stand in it as it is.
-/

namespace Parlance

inductive Host where
  | null
  | boolean (b : Bool)
  | integer (n : Int)
  | float (x : Float)
  | text (s : String)
  | list (items : List Host)
  | dict (entries : List (String × Host))
  | value (v : Value)

instance : Inhabited Host := ⟨.null⟩

namespace Host

structure TooLarge where
  deriving DecidableEq, Repr

def TooLarge.message : String := "int too large to convert to float"

mutual

/-- The value that host data stands for; an integer takes the nearest number. -/
def toValue : Host → Except TooLarge Value
  | .null => .ok .void
  | .boolean b => .ok (.boolean b)
  | .integer n =>
      let x := Binary64.ofInt n
      if x.isFinite then .ok (.number x) else .error ⟨⟩
  | .float x => .ok (.number x)
  | .text s => .ok (.text s)
  | .list items => (toValues items).map .list
  | .dict entries => (toEntries entries).map fun entries => .map (Table.ofPairs entries)
  | .value v => .ok v

def toValues : List Host → Except TooLarge (List Value)
  | [] => .ok []
  | item :: rest => do
      let value ← item.toValue
      let more ← toValues rest
      pure (value :: more)

def toEntries : List (String × Host) → Except TooLarge (List (String × Value))
  | [] => .ok []
  | (key, item) :: rest => do
      let value ← item.toValue
      let more ← toEntries rest
      pure ((key, value) :: more)

end

end Host

namespace Value

mutual

/-- A value as host data: whole numbers become integers, functions stay values. -/
def toHost : Value → Host
  | .number x => if Binary64.isIntegral x then .integer (Binary64.truncate x) else .float x
  | .text s => .text s
  | .boolean b => .boolean b
  | .list items => .list (itemHosts items)
  | .map entries => .dict (entryHosts entries)
  | .void => .null
  | .function closure => .value (.function closure)

def itemHosts : List Value → List Host
  | [] => []
  | item :: rest => item.toHost :: itemHosts rest

def entryHosts : List (String × Value) → List (String × Host)
  | [] => []
  | (key, value) :: rest => (key, value.toHost) :: entryHosts rest

end

end Value

end Parlance
