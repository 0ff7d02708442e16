import Mathlib
import Parlance.Proofs.Binary64.Range
import Parlance.Value.Host

/-!
Values as host data and back. A value that becomes host data and is taken back is the same, but for
the sign of zero; host data of exact numbers that becomes a value and is given back is equal, its
whole numbers being integers now. Main statement: `Host.round_trips`.
-/

namespace Parlance

namespace Value

/-! ### Maps -/

mutual

/-- No map, however deep in the value, has a key twice. -/
def Keyed : Value → Prop
  | .list items => AllKeyed items
  | .map entries => (Table.keys entries).Nodup ∧ EntriesKeyed entries
  | .number _ | .text _ | .boolean _ | .void | .function _ => True

def AllKeyed : List Value → Prop
  | [] => True
  | item :: rest => item.Keyed ∧ AllKeyed rest

def EntriesKeyed : List (String × Value) → Prop
  | [] => True
  | (_, value) :: rest => value.Keyed ∧ EntriesKeyed rest

end

/-! ### From values to values -/

mutual

def unsignedZeros : Value → Value
  | .number x => .number (if x == 0 then 0 else x)
  | .list items => .list (itemsUnsigned items)
  | .map entries => .map (entriesUnsigned entries)
  | .text s => .text s
  | .boolean b => .boolean b
  | .void => .void
  | .function closure => .function closure

def itemsUnsigned : List Value → List Value
  | [] => []
  | item :: rest => item.unsignedZeros :: itemsUnsigned rest

def entriesUnsigned : List (String × Value) → List (String × Value)
  | [] => []
  | (key, value) :: rest => (key, value.unsignedZeros) :: entriesUnsigned rest

end

theorem keys_entriesUnsigned (entries : List (String × Value)) :
    Table.keys (entriesUnsigned entries) = Table.keys entries := by
  induction entries with
  | nil => rfl
  | cons entry rest ih => exact congrArg (entry.1 :: ·) ih

theorem toValue_number (x : Float) :
    (Value.number x).toHost.toValue = .ok (.number (if x == 0 then 0 else x)) := by
  rw [toHost]
  split
  case isTrue integral =>
    have finite : (if x == 0 then 0 else x).isFinite = true := by
      split
      case isTrue => rfl
      case isFalse => exact (Binary64.isIntegral_iff.mp integral).1
    rw [Host.toValue, Binary64.ofInt_truncate integral]
    exact if_pos finite
  case isFalse part =>
    rw [Host.toValue, if_neg fun nought => part (Binary64.isIntegral_of_zero nought)]

mutual

theorem toValue_toHost (value : Value) (keyed : value.Keyed) :
    value.toHost.toValue = .ok value.unsignedZeros := by
  cases value with
  | number x => exact toValue_number x
  | text _ | boolean _ | void | function _ => rfl
  | list items =>
      rw [toHost, Host.toValue, toValues_itemHosts items keyed]
      rfl
  | map entries =>
      have once : (Table.keys (entriesUnsigned entries)).Nodup :=
        (keys_entriesUnsigned entries).symm ▸ keyed.1
      rw [toHost, Host.toValue, toEntries_entryHosts entries keyed.2]
      exact congrArg (fun entries => Except.ok (Value.map entries)) (Table.ofPairs_eq_self once)

theorem toValues_itemHosts (items : List Value) (keyed : AllKeyed items) :
    Host.toValues (itemHosts items) = .ok (itemsUnsigned items) := by
  cases items with
  | nil => rfl
  | cons item rest =>
      rw [itemHosts, Host.toValues, toValue_toHost item keyed.1, toValues_itemHosts rest keyed.2]
      rfl

theorem toEntries_entryHosts (entries : List (String × Value)) (keyed : EntriesKeyed entries) :
    Host.toEntries (entryHosts entries) = .ok (entriesUnsigned entries) := by
  match entries with
  | [] => rfl
  | (key, value) :: rest =>
      rw [entryHosts, Host.toEntries, toValue_toHost value keyed.1,
        toEntries_entryHosts rest keyed.2]
      rfl

end

end Value

namespace Host

/-! ### From host data to host data -/

mutual

/-- Host data without values, of numbers that are doubles. -/
def Exact : Host → Prop
  | .integer n => ∃ x : Float, x.isFinite = true ∧ Binary64.value x = n
  | .float x => x.isFinite = true
  | .list items => AllExact items
  | .dict entries => (Table.keys entries).Nodup ∧ EntriesExact entries
  | .null | .boolean _ | .text _ => True
  | .value _ => False

def AllExact : List Host → Prop
  | [] => True
  | item :: rest => item.Exact ∧ AllExact rest

def EntriesExact : List (String × Host) → Prop
  | [] => True
  | (_, item) :: rest => item.Exact ∧ EntriesExact rest

end

mutual

/-- Equal host data in which every whole number is an integer. -/
inductive Settles : Host → Host → Prop
  | null : Settles .null .null
  | boolean (b : Bool) : Settles (.boolean b) (.boolean b)
  | text (s : String) : Settles (.text s) (.text s)
  | integer (n : Int) : Settles (.integer n) (.integer n)
  | whole {x : Float} {n : Int} (same : Binary64.value x = n) : Settles (.float x) (.integer n)
  | fraction {x : Float} (part : ∀ n : Int, Binary64.value x ≠ n) : Settles (.float x) (.float x)
  | list {items settled : List Host} (each : ItemsSettle items settled) :
      Settles (.list items) (.list settled)
  | dict {entries settled : List (String × Host)} (each : EntriesSettle entries settled) :
      Settles (.dict entries) (.dict settled)

inductive ItemsSettle : List Host → List Host → Prop
  | nil : ItemsSettle [] []
  | cons {item settled : Host} {rest more : List Host} (first : Settles item settled)
      (later : ItemsSettle rest more) : ItemsSettle (item :: rest) (settled :: more)

inductive EntriesSettle : List (String × Host) → List (String × Host) → Prop
  | nil : EntriesSettle [] []
  | cons (key : String) {item settled : Host} {rest more : List (String × Host)}
      (first : Settles item settled) (later : EntriesSettle rest more) :
      EntriesSettle ((key, item) :: rest) ((key, settled) :: more)

end

theorem settles_float {x : Float} (finite : x.isFinite = true) :
    Settles (.float x) (Value.number x).toHost := by
  rw [Value.toHost]
  split
  case isTrue integral => exact .whole (Binary64.value_of_isIntegral integral)
  case isFalse part =>
    exact .fraction fun n whole => part (Binary64.isIntegral_of_value finite whole)

theorem settles_integer {n : Int} {x : Float} (finite : x.isFinite = true)
    (same : Binary64.value x = n) :
    ∃ value, (Host.integer n).toValue = .ok value ∧ Settles (.integer n) value.toHost := by
  have integral := Binary64.isIntegral_of_value finite same
  have whole : Binary64.truncate x = n :=
    Int.cast_injective ((Binary64.value_of_isIntegral integral).symm.trans same)
  have integer : (Value.number x).toHost = .integer n := by
    rw [Value.toHost, if_pos integral, whole]
  refine ⟨.number (if x == 0 then 0 else x), integer ▸ Value.toValue_number x, ?_⟩
  -- either zero is given back as the integer; every other number is the one that was taken
  split
  case isTrue nought =>
    have zero : ((0 : Float) == 0) = true := by decide
    rw [Binary64.truncate_of_zero nought] at whole
    rw [Value.toHost, if_pos (Binary64.isIntegral_of_zero zero), Binary64.truncate_of_zero zero,
      whole]
    exact .integer n
  case isFalse => exact integer ▸ .integer n

theorem EntriesSettle.keys {entries settled : List (String × Host)}
    (each : EntriesSettle entries settled) : Table.keys settled = Table.keys entries := by
  match each with
  | .nil => rfl
  | .cons key _ later => exact congrArg (key :: ·) later.keys

theorem keys_entryHosts (entries : List (String × Value)) :
    Table.keys (Value.entryHosts entries) = Table.keys entries := by
  induction entries with
  | nil => rfl
  | cons entry rest ih => exact congrArg (entry.1 :: ·) ih

mutual

theorem settles_back (host : Host) (exact : host.Exact) :
    ∃ value, host.toValue = .ok value ∧ host.Settles value.toHost := by
  cases host with
  | null => exact ⟨.void, rfl, .null⟩
  | boolean b => exact ⟨.boolean b, rfl, .boolean b⟩
  | text s => exact ⟨.text s, rfl, .text s⟩
  | value v => exact exact.elim
  | float x => exact ⟨.number x, rfl, settles_float exact⟩
  | integer n =>
      obtain ⟨x, finite, same⟩ := exact
      exact settles_integer finite same
  | list items =>
      obtain ⟨values, found, settled⟩ := items_settle_back items exact
      exact ⟨.list values, by rw [toValue, found]; rfl, .list settled⟩
  | dict entries =>
      obtain ⟨values, found, settled⟩ := entries_settle_back entries exact.2
      have once : (Table.keys values).Nodup := by
        rw [← keys_entryHosts, settled.keys]
        exact exact.1
      refine ⟨.map values, ?_, .dict settled⟩
      rw [toValue, found]
      exact congrArg (fun entries => Except.ok (Value.map entries)) (Table.ofPairs_eq_self once)

theorem items_settle_back (items : List Host) (exact : AllExact items) :
    ∃ values, toValues items = .ok values ∧ ItemsSettle items (Value.itemHosts values) := by
  cases items with
  | nil => exact ⟨[], rfl, .nil⟩
  | cons item rest =>
      obtain ⟨value, found, settled⟩ := item.settles_back exact.1
      obtain ⟨values, more, later⟩ := items_settle_back rest exact.2
      exact ⟨value :: values, by rw [toValues, found, more]; rfl, .cons settled later⟩

theorem entries_settle_back (entries : List (String × Host)) (exact : EntriesExact entries) :
    ∃ values, toEntries entries = .ok values ∧
      EntriesSettle entries (Value.entryHosts values) := by
  match entries with
  | [] => exact ⟨[], rfl, .nil⟩
  | (key, item) :: rest =>
      obtain ⟨value, found, settled⟩ := item.settles_back exact.1
      obtain ⟨values, more, later⟩ := entries_settle_back rest exact.2
      exact ⟨(key, value) :: values, by rw [toEntries, found, more]; rfl, .cons key settled later⟩

end

/-! ### Both ways -/

/-- A value that becomes host data and is taken back is the same, entry by entry in the same order,
but for the sign of zero. Host data of exact numbers becomes a value, and what this gives back is
equal, with every whole number an integer. -/
theorem round_trips :
    (∀ value : Value, value.Keyed → value.toHost.toValue = .ok value.unsignedZeros) ∧
      ∀ host : Host, host.Exact → ∃ value, host.toValue = .ok value ∧ host.Settles value.toHost :=
  ⟨Value.toValue_toHost, settles_back⟩

/-- A map with a zero that has a sign, a list, a function and what is no number in it, and host data
with whole numbers of both kinds. -/
theorem nested_round_trips :
    let value := Value.map [("b", .number (-0.0)),
      ("a", .list [.number 1e308, .number (0 / 0), .void,
        .function ⟨"f", ["x"], [], .start, some 3⟩, .map [("b", .text "b")]])]
    let host := Host.dict [("b", .float 2), ("a", .list [.integer (2 ^ 53), .float 0.5, .null])]
    value.Keyed ∧ host.Exact ∧ value.toHost.toValue = .ok value.unsignedZeros ∧
      ∃ value, host.toValue = .ok value ∧ host.Settles value.toHost := by
  intro value host
  have keyed : value.Keyed := by
    simp [value, Value.Keyed, Value.EntriesKeyed, Value.AllKeyed, Table.keys]
  have exact : host.Exact := by
    have whole : Binary64.value 9007199254740992 = (2 ^ 53 : Int) := by
      have truncated : Binary64.truncate 9007199254740992 = 2 ^ 53 := by decide +kernel
      rw [Binary64.value_of_isIntegral (by decide +kernel), truncated]
    have finite : [2, 9007199254740992, 0.5].all Float.isFinite = true := by decide +kernel
    have each := List.all_eq_true.mp finite
    exact ⟨by decide, each 2 (by simp), ⟨⟨_, each _ (by simp), whole⟩, each 0.5 (by simp), trivial,
      trivial⟩, trivial⟩
  exact ⟨keyed, exact, round_trips.1 value keyed, round_trips.2 host exact⟩

end Host

end Parlance
