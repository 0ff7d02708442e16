import Mathlib.Data.Prod.Basic
import Parlance.Module.Handler
import Parlance.Proofs.Relabelling.Program
import Parlance.Value.Operation

/-!
Values whose functions are relabelled: they capture other scopes, and the nodes of their bodies are
moved. Nothing that a program can see of a value changes: it reads as the same text, number and
truth value, and what the operators make of it is the same.
-/

namespace Parlance

namespace Table

variable {α β γ δ : Type} [DecidableEq α] [DecidableEq γ] {f : α → γ} (g : β → δ)

theorem get?_map (injective : f.Injective) (key : α) (table : Table α β) :
    get? (f key) (table.map (Prod.map f g)) = (get? key table).map g := by
  induction table with
  | nil => rfl
  | cons entry rest ih =>
      by_cases same : entry.1 = key <;> simp [get?, same, injective.eq_iff, ih]

theorem put_map (injective : f.Injective) (key : α) (value : β) (table : Table α β) :
    put (f key) (g value) (table.map (Prod.map f g)) =
      (put key value table).map (Prod.map f g) := by
  induction table with
  | nil => rfl
  | cons entry rest ih =>
      by_cases same : entry.1 = key <;> simp [put, same, injective.eq_iff, ih, Prod.map]

theorem erase_map (injective : f.Injective) (key : α) (table : Table α β) :
    erase (f key) (table.map (Prod.map f g)) = (erase key table).map (Prod.map f g) := by
  induction table with
  | nil => rfl
  | cons entry rest ih =>
      by_cases same : entry.1 = key <;> simp [erase, same, injective.eq_iff, ih, Prod.map]

theorem ofPairs_map (injective : f.Injective) (pairs : List (α × β)) :
    ofPairs (pairs.map (Prod.map f g)) = (ofPairs pairs).map (Prod.map f g) := by
  have onto : ∀ table : Table α β,
      (pairs.map (Prod.map f g)).foldl (fun table pair => put pair.1 pair.2 table)
          (table.map (Prod.map f g)) =
        (pairs.foldl (fun table pair => put pair.1 pair.2 table) table).map (Prod.map f g) := by
    induction pairs with
    | nil => intro table; rfl
    | cons pair rest ih =>
        intro table
        simp only [List.map_cons, List.foldl_cons, Prod.map_fst, Prod.map_snd,
          put_map g injective, ih]
  exact onto []

end Table

/-- Other numbers for scopes, and other places for nodes. -/
structure Relabelling where
  scope : Nat → Nat
  place : Place → Place

def Relabelling.none : Relabelling := ⟨id, id⟩

@[simp] theorem Relabelling.place_none : Relabelling.none.place = id := rfl

def Closure.relabel (r : Relabelling) (closure : Closure) : Closure where
  name := closure.name
  params := closure.params
  body := Stmt.movedAll r.place closure.body
  bodyPlace := r.place closure.bodyPlace
  scope := closure.scope.map r.scope

namespace Value

mutual

def relabel (r : Relabelling) : Value → Value
  | .number x => .number x
  | .text s => .text s
  | .boolean b => .boolean b
  | .list items => .list (relabelItems r items)
  | .map entries => .map (relabelEntries r entries)
  | .void => .void
  | .function closure => .function (closure.relabel r)

def relabelItems (r : Relabelling) : List Value → List Value
  | [] => []
  | item :: rest => item.relabel r :: relabelItems r rest

def relabelEntries (r : Relabelling) : List (String × Value) → List (String × Value)
  | [] => []
  | (key, value) :: rest => (key, value.relabel r) :: relabelEntries r rest

end

section

variable (r : Relabelling)

theorem relabelItems_eq_map (items : List Value) :
    relabelItems r items = items.map (relabel r) := by
  induction items with
  | nil => rfl
  | cons item rest ih => simp [relabelItems, ih]

theorem relabelEntries_eq_map (entries : List (String × Value)) :
    relabelEntries r entries = entries.map (Prod.map id (relabel r)) := by
  induction entries with
  | nil => rfl
  | cons entry rest ih => simp [relabelEntries, ih, Prod.map]

/-! ### What a program sees of a value -/

mutual

@[simp] theorem toText_relabel (value : Value) : (value.relabel r).toText = value.toText := by
  cases value with
  | number _ | text _ | boolean _ | void | function _ => rfl
  | list items => simp only [relabel, toText, itemTexts_relabel items]
  | map entries => simp only [relabel, toText, entryTexts_relabel entries]

theorem itemTexts_relabel (items : List Value) :
    itemTexts (relabelItems r items) = itemTexts items := by
  cases items with
  | nil => rfl
  | cons item rest =>
      simp only [relabelItems, itemTexts, item.toText_relabel, itemTexts_relabel rest]

theorem entryTexts_relabel (entries : List (String × Value)) :
    entryTexts (relabelEntries r entries) = entryTexts entries := by
  match entries with
  | [] => rfl
  | (key, value) :: rest =>
      simp only [relabelEntries, entryTexts, value.toText_relabel, entryTexts_relabel rest]

end

@[simp] theorem toNumber_relabel (value : Value) : (value.relabel r).toNumber = value.toNumber := by
  cases value <;> rfl

@[simp] theorem toBool_relabel (value : Value) : (value.relabel r).toBool = value.toBool := by
  cases value <;> rfl

@[simp] theorem ofLiteral_relabel (literal : Literal) :
    (ofLiteral literal).relabel r = ofLiteral literal := by
  cases literal <;> rfl

mutual

/-- A relabelled value captures the relabelled scopes, in the same order. -/
@[simp] theorem captured_relabel (value : Value) :
    (value.relabel r).captured = value.captured.map r.scope := by
  cases value with
  | number _ | text _ | boolean _ | void => simp [relabel, captured]
  | list items => simp only [relabel, captured, itemsCaptured_relabel items]
  | map entries => simp only [relabel, captured, entriesCaptured_relabel entries]
  | function closure => cases h : closure.scope <;> simp [relabel, captured, Closure.relabel, h]

theorem itemsCaptured_relabel (items : List Value) :
    itemsCaptured (relabelItems r items) = (itemsCaptured items).map r.scope := by
  cases items with
  | nil => rfl
  | cons item rest =>
      simp only [relabelItems, itemsCaptured, item.captured_relabel, itemsCaptured_relabel rest,
        List.map_append]

theorem entriesCaptured_relabel (entries : List (String × Value)) :
    entriesCaptured (relabelEntries r entries) = (entriesCaptured entries).map r.scope := by
  match entries with
  | [] => rfl
  | (key, value) :: rest =>
      simp only [relabelEntries, entriesCaptured, value.captured_relabel,
        entriesCaptured_relabel rest, List.map_append]

end

/-! ### Operators and items -/

theorem agrees_relabel (left right : Value) :
    (left.relabel r).agrees (right.relabel r) = left.agrees right := by
  cases left <;> cases right <;> rfl

theorem apply_relabel (op : BinaryOp) (left right : Value) :
    op.apply (left.relabel r) (right.relabel r) = (op.apply left right).relabel r := by
  cases op <;> simp [BinaryOp.apply, relabel, agrees_relabel]

theorem decided?_relabel (op : BinaryOp) (left : Value) :
    op.decided? (left.relabel r) = (op.decided? left).map (relabel r) := by
  cases op <;> simp only [BinaryOp.decided?, toBool_relabel] <;> (try split) <;> rfl

theorem unary_relabel (op : UnaryOp) (operand : Value) :
    op.apply (operand.relabel r) = (op.apply operand).relabel r := by
  cases op <;> simp [UnaryOp.apply, relabel]

theorem get?_relabelEntries (key : String) (entries : List (String × Value)) :
    Table.get? key (relabelEntries r entries) = (Table.get? key entries).map (relabel r) := by
  rw [relabelEntries_eq_map]
  exact Table.get?_map (relabel r) Function.injective_id key entries

theorem put_relabelEntries (key : String) (value : Value) (entries : List (String × Value)) :
    Table.put key (value.relabel r) (relabelEntries r entries) =
      relabelEntries r (Table.put key value entries) := by
  rw [relabelEntries_eq_map, relabelEntries_eq_map]
  exact Table.put_map (relabel r) Function.injective_id key value entries

theorem keys_relabelEntries (entries : List (String × Value)) :
    Table.keys (relabelEntries r entries) = Table.keys entries := by
  rw [relabelEntries_eq_map, Table.keys, List.map_map]
  rfl

theorem getElem?_relabelItems (items : List Value) (index : Nat) :
    (relabelItems r items)[index]? = items[index]?.map (relabel r) := by
  rw [relabelItems_eq_map, List.getElem?_map]

theorem length_relabelItems (items : List Value) :
    (relabelItems r items).length = items.length := by
  rw [relabelItems_eq_map, List.length_map]

theorem positionOf_relabel (index : Value) (size : Nat) :
    positionOf (index.relabel r) size = positionOf index size := by
  simp only [positionOf, toNumber_relabel]

theorem getD_void_relabel (found : Option Value) :
    (found.map (relabel r)).getD .void = (found.getD .void).relabel r := by
  cases found <;> rfl

theorem item_relabel (target index : Value) :
    (target.relabel r).item (index.relabel r) = (target.item index).relabel r := by
  cases target with
  | number _ | boolean _ | void | function _ => rfl
  | map entries =>
      simp only [relabel, item, toText_relabel, get?_relabelEntries, getD_void_relabel]
  | list items =>
      simp only [relabel, item, positionOf_relabel, length_relabelItems]
      cases positionOf index items.length with
      | none => rfl
      | some position =>
          simp only [Option.bind_some, getElem?_relabelItems, getD_void_relabel]
  | text s =>
      simp only [relabel, item, positionOf_relabel]
      cases (positionOf index s.toList.length).bind (s.toList[·]?) <;> rfl

end

/-! ### Relabellings that leave a value as it is -/

section

variable {scope : Nat → Nat}

mutual

theorem relabel_of_fixed (value : Value) (fixed : ∀ id ∈ value.captured, scope id = id) :
    value.relabel ⟨scope, id⟩ = value := by
  cases value with
  | number _ | text _ | boolean _ | void => rfl
  | list items =>
      simp only [captured] at fixed
      simp only [relabel, relabelItems_of_fixed items fixed]
  | map entries =>
      simp only [captured] at fixed
      simp only [relabel, relabelEntries_of_fixed entries fixed]
  | function closure =>
      obtain ⟨name, params, body, bodyPlace, captures⟩ := closure
      cases captures with
      | none => simp [relabel, Closure.relabel, Stmt.movedAll_id]
      | some id =>
          simp only [captured, Option.toList, List.forall_mem_singleton] at fixed
          simp [relabel, Closure.relabel, Stmt.movedAll_id, fixed]

theorem relabelItems_of_fixed (items : List Value)
    (fixed : ∀ id ∈ itemsCaptured items, scope id = id) :
    relabelItems ⟨scope, id⟩ items = items := by
  cases items with
  | nil => rfl
  | cons item rest =>
      simp only [itemsCaptured, List.forall_mem_append] at fixed
      simp only [relabelItems, item.relabel_of_fixed fixed.1, relabelItems_of_fixed rest fixed.2]

theorem relabelEntries_of_fixed (entries : List (String × Value))
    (fixed : ∀ id ∈ entriesCaptured entries, scope id = id) :
    relabelEntries ⟨scope, id⟩ entries = entries := by
  match entries with
  | [] => rfl
  | (key, value) :: rest =>
      simp only [entriesCaptured, List.forall_mem_append] at fixed
      simp only [relabelEntries, value.relabel_of_fixed fixed.1,
        relabelEntries_of_fixed rest fixed.2]

end

end

@[simp] theorem relabel_none (value : Value) : value.relabel .none = value :=
  value.relabel_of_fixed fun _ _ => rfl

@[simp] theorem relabelItems_none (items : List Value) : relabelItems .none items = items :=
  relabelItems_of_fixed items fun _ _ => rfl

@[simp] theorem relabelEntries_none (entries : List (String × Value)) :
    relabelEntries .none entries = entries :=
  relabelEntries_of_fixed entries fun _ _ => rfl

end Value

@[simp] theorem Closure.relabel_none (closure : Closure) : closure.relabel .none = closure :=
  Value.function.inj (Value.relabel_none (.function closure))

/-! ### Host data -/

namespace Host

mutual

def relabel (r : Relabelling) : Host → Host
  | .null => .null
  | .boolean b => .boolean b
  | .integer n => .integer n
  | .float x => .float x
  | .text s => .text s
  | .list items => .list (relabelItems r items)
  | .dict entries => .dict (relabelEntries r entries)
  | .value v => .value (v.relabel r)

def relabelItems (r : Relabelling) : List Host → List Host
  | [] => []
  | item :: rest => item.relabel r :: relabelItems r rest

def relabelEntries (r : Relabelling) : List (String × Host) → List (String × Host)
  | [] => []
  | (key, item) :: rest => (key, item.relabel r) :: relabelEntries r rest

end

section

variable (r : Relabelling)

mutual

theorem toValue_relabel (host : Host) :
    (host.relabel r).toValue = host.toValue.map (Value.relabel r) := by
  cases host with
  | null | boolean _ | float _ | text _ | value _ => rfl
  | integer n =>
      simp only [relabel, toValue]
      split <;> rfl
  | list items =>
      simp only [relabel, toValue, toValues_relabel items]
      cases toValues items <;> rfl
  | dict entries =>
      simp only [relabel, toValue, toEntries_relabel entries]
      cases toEntries entries with
      | error _ => rfl
      | ok values =>
          simp only [Except.map, Value.relabel, Value.relabelEntries_eq_map,
            Table.ofPairs_map _ Function.injective_id]

theorem toValues_relabel (items : List Host) :
    toValues (relabelItems r items) = (toValues items).map (Value.relabelItems r) := by
  cases items with
  | nil => rfl
  | cons item rest =>
      simp only [relabelItems, toValues, item.toValue_relabel, toValues_relabel rest]
      cases item.toValue with
      | error _ => rfl
      | ok value => cases toValues rest <;> rfl

theorem toEntries_relabel (entries : List (String × Host)) :
    toEntries (relabelEntries r entries) = (toEntries entries).map (Value.relabelEntries r) := by
  match entries with
  | [] => rfl
  | (key, item) :: rest =>
      simp only [relabelEntries, toEntries, item.toValue_relabel, toEntries_relabel rest]
      cases item.toValue with
      | error _ => rfl
      | ok value => cases toEntries rest <;> rfl

end

end

mutual

theorem relabel_none (host : Host) : host.relabel .none = host := by
  cases host with
  | null | boolean _ | integer _ | float _ | text _ => rfl
  | list items => simp only [relabel, relabelItems_none items]
  | dict entries => simp only [relabel, relabelEntries_none entries]
  | value v => simp only [relabel, v.relabel_none]

theorem relabelItems_none (items : List Host) : relabelItems .none items = items := by
  cases items with
  | nil => rfl
  | cons item rest => simp only [relabelItems, item.relabel_none, relabelItems_none rest]

theorem relabelEntries_none (entries : List (String × Host)) :
    relabelEntries .none entries = entries := by
  match entries with
  | [] => rfl
  | (key, item) :: rest =>
      simp only [relabelEntries, item.relabel_none, relabelEntries_none rest]

end

end Host

def Request.relabel (r : Relabelling) (request : Request) : Request where
  module := request.module
  method := request.method
  arguments := Value.relabelItems r request.arguments

@[simp] theorem Request.relabel_none (request : Request) : request.relabel .none = request := by
  simp only [relabel, Value.relabelItems_none]

end Parlance
