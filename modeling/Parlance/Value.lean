import Parlance.Program
import Parlance.Table
import Parlance.Text.Order
import Parlance.Value.NumberText

/-!
Values of running programs, and how any of them reads as a text, a number or a truth value.
A map keeps its entries in insertion order; what shows them sorts them by key.
-/

namespace Parlance

/-- A function that a program defined. `scope` is the scope it was defined in, if that was not
the global one. -/
structure Closure where
  name : String
  params : List String
  body : List Stmt
  bodyPlace : Place
  scope : Option Nat

inductive Value where
  | number (x : Float)
  | text (s : String)
  | boolean (b : Bool)
  | list (items : List Value)
  | map (entries : List (String × Value))
  | void
  | function (closure : Closure)

instance : Inhabited Value := ⟨.void⟩

namespace Value

def ofLiteral : Literal → Value
  | .void => .void
  | .boolean b => .boolean b
  | .text s => .text s
  | .number x => .number x

def kindName : Value → String
  | .number _ => "number"
  | .text _ => "text"
  | .boolean _ => "boolean"
  | .list _ => "list"
  | .map _ => "map"
  | .void => "void"
  | .function _ => "function"

def isVoid : Value → Bool
  | .void => true
  | _ => false

def byKey (pairs : List (String × String)) : List (String × String) :=
  pairs.mergeSort fun a b => Text.atMost a.1 b.1

mutual

def toText : Value → String
  | .number x => numberText x
  | .text s => s
  | .boolean b => if b then "true" else "false"
  | .list items => "[" ++ ", ".intercalate (itemTexts items) ++ "]"
  | .map entries =>
      let shown := (byKey (entryTexts entries)).map fun (key, value) => key ++ ": " ++ value
      "\x7b" ++ ", ".intercalate shown ++ "\x7d"
  | .void => ""
  | .function closure => "function " ++ closure.name ++ "(" ++ ", ".intercalate closure.params ++ ")"

def itemTexts : List Value → List String
  | [] => []
  | item :: rest => item.toText :: itemTexts rest

def entryTexts : List (String × Value) → List (String × String)
  | [] => []
  | (key, value) :: rest => (key, value.toText) :: entryTexts rest

end

/-- The number a value stands for; what stands for none is zero. -/
def toNumber : Value → Float
  | .number x => x
  | .boolean b => if b then 1 else 0
  | .text s => numberOfText s
  | _ => 0

/-- Numbers other than zero, texts that are not empty and true itself are true. -/
def toBool : Value → Bool
  | .boolean b => b
  | .number x => x != 0
  | .text s => s ≠ ""
  | _ => false

mutual

/-- The scopes that functions anywhere in a value were defined in. -/
def captured : Value → List Nat
  | .function closure => closure.scope.toList
  | .list items => itemsCaptured items
  | .map entries => entriesCaptured entries
  | _ => []

def itemsCaptured : List Value → List Nat
  | [] => []
  | item :: rest => item.captured ++ itemsCaptured rest

def entriesCaptured : List (String × Value) → List Nat
  | [] => []
  | (_, value) :: rest => value.captured ++ entriesCaptured rest

end

/-- A finite positive number without its fraction; anything else counts nothing. -/
def countOf (x : Float) : Nat := if x.isFinite then (Binary64.truncate x).toNat else 0

/-- The position that an index stands for in a sequence; a negative one counts from the end. -/
def positionOf (index : Value) (size : Nat) : Option Nat :=
  let x := index.toNumber
  if x.isFinite then
    let whole := Binary64.truncate x
    let position := if whole < 0 then whole + size else whole
    if 0 ≤ position ∧ position < size then some position.toNat else none
  else none

def item (target index : Value) : Value :=
  match target with
  | .map entries => (Table.get? index.toText entries).getD .void
  | .list items => ((positionOf index items.length).bind (items[·]?)).getD .void
  | .text s =>
      let chars := s.toList
      (((positionOf index chars.length).bind (chars[·]?)).map fun c =>
        .text (String.singleton c)).getD .void
  | _ => .void

/-! ### Captured scopes -/

@[simp] theorem captured_ofLiteral (literal : Literal) : (ofLiteral literal).captured = [] := by
  cases literal <;> simp [ofLiteral, captured]

theorem mem_itemsCaptured (id : Nat) (items : List Value) :
    id ∈ itemsCaptured items ↔ ∃ item ∈ items, id ∈ item.captured := by
  induction items with
  | nil => simp [itemsCaptured]
  | cons item rest ih => simp [itemsCaptured, ih]

theorem mem_entriesCaptured (id : Nat) (entries : List (String × Value)) :
    id ∈ entriesCaptured entries ↔ ∃ entry ∈ entries, id ∈ entry.2.captured := by
  induction entries with
  | nil => simp [entriesCaptured]
  | cons entry rest ih => simp [entriesCaptured, ih]

/-- What is found at an index is an item of a list, an entry of a map, a text, or nothing. -/
theorem item_parts {P : Value → Prop} (void : P .void) (text : ∀ s, P (.text s))
    (target index : Value) (items : ∀ items, target = .list items → ∀ item ∈ items, P item)
    (entries : ∀ entries, target = .map entries → ∀ entry ∈ entries, P entry.2) :
    P (target.item index) := by
  cases target with
  | map pairs =>
      simp only [item]
      cases found : Table.get? index.toText pairs with
      | none => exact void
      | some value => exact entries pairs rfl _ (Table.mem_of_get? found)
  | list values =>
      simp only [item]
      cases found : (positionOf index values.length).bind (values[·]?) with
      | none => exact void
      | some value =>
          obtain ⟨position, _, here⟩ := Option.bind_eq_some_iff.mp found
          exact items values rfl value (List.mem_of_getElem? here)
  | text s =>
      simp only [item]
      cases (positionOf index s.toList.length).bind (s.toList[·]?) with
      | none => exact void
      | some c => exact text _
  | number _ | boolean _ | void | function _ => exact void

/-- An item captures nothing that its list, map or text does not. -/
theorem mem_captured_of_item {id : Nat} {target index : Value}
    (member : id ∈ (target.item index).captured) : id ∈ target.captured := by
  revert member
  apply item_parts (P := fun value => id ∈ value.captured → id ∈ target.captured)
  · simp [captured]
  · simp [captured]
  · rintro items rfl item here member
    simp only [captured, mem_itemsCaptured]
    exact ⟨item, here, member⟩
  · rintro entries rfl entry here member
    simp only [captured, mem_entriesCaptured]
    exact ⟨entry, here, member⟩

end Value

end Parlance
