import Mathlib
import Parlance.Evaluation
import Parlance.Proofs.Value.Host
import Parlance.Value.Operation

/-!
The order of the entries of a map. Values that are the same but for the order in which their maps,
however deep, hold their entries are not told apart by what a program can do with them: what shows
a map sorts its keys, and nothing else looks at their order. Main statement:
`Value.reordered_not_told_apart`.
-/

namespace Parlance

namespace Text

/-- Sorted by keys that tell its items apart, a list does not depend on its order. -/
theorem mergeSort_eq_of_perm {α : Type} (key : α → String) {items items' : List α}
    (apart : ∀ a ∈ items, ∀ b ∈ items, key a = key b → a = b) (order : items.Perm items') :
    items.mergeSort (fun a b => atMost (key a) (key b)) =
      items'.mergeSort fun a b => atMost (key a) (key b) := by
  let le (a b : α) : Bool := atMost (key a) (key b)
  have sorted := @List.pairwise_mergeSort α le (fun _ _ _ => atMost_trans)
    fun a b => atMost_total (key a) (key b)
  have same :=
    ((List.mergeSort_perm items le).trans order).trans (List.mergeSort_perm items' le).symm
  refine List.Perm.eq_of_pairwise ?_ (sorted items) (sorted items') same
  intro a b left right ab ba
  have left : a ∈ items := List.mem_mergeSort.mp left
  have right : b ∈ items := order.mem_iff.mpr (List.mem_mergeSort.mp right)
  exact apart a left b right (atMost_antisymm ab ba)

theorem sorted_eq_of_perm {texts texts' : List String} (order : texts.Perm texts') :
    sorted texts = sorted texts' :=
  mergeSort_eq_of_perm id (fun _ _ _ _ same => same) order

end Text

namespace Value

mutual

/-- The same value, but that its maps hold their entries in another order. -/
inductive Reordered : Value → Value → Prop
  | number (x : Float) : Reordered (.number x) (.number x)
  | text (s : String) : Reordered (.text s) (.text s)
  | boolean (b : Bool) : Reordered (.boolean b) (.boolean b)
  | void : Reordered .void .void
  | function (closure : Closure) : Reordered (.function closure) (.function closure)
  | list {items items' : List Value} (each : ItemsReordered items items') :
      Reordered (.list items) (.list items')
  | map {entries between entries' : List (String × Value)} (each : EntriesReordered entries between)
      (order : between.Perm entries') : Reordered (.map entries) (.map entries')

inductive ItemsReordered : List Value → List Value → Prop
  | nil : ItemsReordered [] []
  | cons {item item' : Value} {rest rest' : List Value} (first : Reordered item item')
      (later : ItemsReordered rest rest') : ItemsReordered (item :: rest) (item' :: rest')

/-- The keys in the same order, with values that are the same but for the order in them. -/
inductive EntriesReordered : List (String × Value) → List (String × Value) → Prop
  | nil : EntriesReordered [] []
  | cons (key : String) {value value' : Value} {rest rest' : List (String × Value)}
      (first : Reordered value value') (later : EntriesReordered rest rest') :
      EntriesReordered ((key, value) :: rest) ((key, value') :: rest')

end

theorem byKey_eq_of_perm {pairs pairs' : List (String × String)} (once : (Table.keys pairs).Nodup)
    (order : pairs.Perm pairs') : byKey pairs = byKey pairs' :=
  Text.mergeSort_eq_of_perm Prod.fst
    (fun _ left _ right => List.inj_on_of_nodup_map once left right) order

theorem entryTexts_eq_map (entries : List (String × Value)) :
    entryTexts entries = entries.map fun entry => (entry.1, entry.2.toText) := by
  induction entries with
  | nil => rfl
  | cons entry rest ih => simp [entryTexts, ih]

theorem keys_entryTexts (entries : List (String × Value)) :
    Table.keys (entryTexts entries) = Table.keys entries := by
  simp [entryTexts_eq_map, Table.keys]

theorem EntriesReordered.keys {entries entries' : List (String × Value)}
    (each : EntriesReordered entries entries') : Table.keys entries = Table.keys entries' := by
  match each with
  | .nil => rfl
  | .cons key _ later => exact congrArg (key :: ·) later.keys

mutual

theorem Reordered.toText_eq {value value' : Value} (same : Reordered value value')
    (keyed : value.Keyed) : value.toText = value'.toText := by
  match same with
  | .number _ | .text _ | .boolean _ | .void | .function _ => rfl
  | .list each => rw [toText, toText, each.itemTexts_eq keyed]
  | .map each order =>
      -- the entries are sorted by keys that occur once, so equal texts are enough
      have once := keyed.1
      rw [each.keys, ← keys_entryTexts] at once
      have texts := order.map fun entry => (entry.1, entry.2.toText)
      rw [← entryTexts_eq_map, ← entryTexts_eq_map] at texts
      rw [toText, toText, each.entryTexts_eq keyed.2, byKey_eq_of_perm once texts]

theorem ItemsReordered.itemTexts_eq {items items' : List Value} (same : ItemsReordered items items')
    (keyed : AllKeyed items) : itemTexts items = itemTexts items' := by
  match same with
  | .nil => rfl
  | .cons first later =>
      rw [itemTexts, itemTexts, first.toText_eq keyed.1, later.itemTexts_eq keyed.2]

theorem EntriesReordered.entryTexts_eq {entries entries' : List (String × Value)}
    (same : EntriesReordered entries entries') (keyed : EntriesKeyed entries) :
    entryTexts entries = entryTexts entries' := by
  match same with
  | .nil => rfl
  | .cons key first later =>
      rw [entryTexts, entryTexts, first.toText_eq keyed.1, later.entryTexts_eq keyed.2]

end

section

variable {value value' : Value} (same : Reordered value value')

include same

theorem Reordered.toNumber_eq : value.toNumber = value'.toNumber := by
  cases same <;> rfl

theorem Reordered.toBool_eq : value.toBool = value'.toBool := by
  cases same <;> rfl

theorem Reordered.agrees_eq {operand operand' : Value} (same' : Reordered operand operand') :
    value.agrees operand = value'.agrees operand' := by
  have left := same.toNumber_eq
  have right := same'.toNumber_eq
  cases same <;> cases same' <;> simp_all only [agrees]

end

/-! ### Entries and items -/

mutual

theorem Reordered.refl (value : Value) : Reordered value value := by
  cases value with
  | number x => exact .number x
  | text s => exact .text s
  | boolean b => exact .boolean b
  | void => exact .void
  | function closure => exact .function closure
  | list items => exact .list (ItemsReordered.refl items)
  | map entries => exact .map (EntriesReordered.refl entries) (.refl entries)

theorem ItemsReordered.refl (items : List Value) : ItemsReordered items items := by
  cases items with
  | nil => exact .nil
  | cons item rest => exact .cons (Reordered.refl item) (ItemsReordered.refl rest)

theorem EntriesReordered.refl (entries : List (String × Value)) :
    EntriesReordered entries entries := by
  match entries with
  | [] => exact .nil
  | (key, value) :: rest => exact .cons key (Reordered.refl value) (EntriesReordered.refl rest)

end

theorem ItemsReordered.length_eq {items items' : List Value} (each : ItemsReordered items items') :
    items.length = items'.length := by
  match each with
  | .nil => rfl
  | .cons _ later => exact congrArg (· + 1) later.length_eq

theorem ItemsReordered.at {items items' : List Value} (each : ItemsReordered items items')
    (index : Nat) : Reordered (items[index]?.getD .void) (items'[index]?.getD .void) := by
  match each, index with
  | .nil, _ => exact .void
  | .cons first _, 0 => exact first
  | .cons _ later, index + 1 => exact later.at index

theorem EntriesReordered.get? {entries entries' : List (String × Value)}
    (each : EntriesReordered entries entries') (key : String) :
    Reordered ((Table.get? key entries).getD .void) ((Table.get? key entries').getD .void) := by
  induction entries generalizing entries' with
  | nil =>
      cases each
      exact .void
  | cons entry rest ih =>
      cases each with
      | cons other first later =>
          by_cases same : other = key
          · simpa [Table.get?, same] using first
          · simpa [Table.get?, same] using ih later

theorem get?_eq_of_perm {entries entries' : List (String × Value)}
    (once : (Table.keys entries).Nodup) (order : entries.Perm entries') (key : String) :
    Table.get? key entries = Table.get? key entries' := by
  have once' : (Table.keys entries').Nodup := (order.map Prod.fst).nodup once
  refine Option.ext fun value => ?_
  rw [Table.get?_eq_some_iff once, Table.get?_eq_some_iff once', order.mem_iff]

theorem positionOf_eq {index index' : Value} (same : Reordered index index') (size : Nat) :
    positionOf index size = positionOf index' size := by
  simp only [positionOf, same.toNumber_eq]

theorem Reordered.item {target target' index index' : Value} (same : Reordered target target')
    (same' : Reordered index index') (keyed : target.Keyed) (keyed' : index.Keyed) :
    Reordered (target.item index) (target'.item index') := by
  cases same with
  | number _ | boolean _ | void | function _ => exact .void
  | text s =>
      simp only [Value.item, positionOf_eq same']
      exact .refl _
  | list each =>
      simp only [Value.item, positionOf_eq same', each.length_eq]
      cases positionOf index' _ with
      | none => exact .void
      | some position => exact each.at position
  | map each order =>
      have once := keyed.1
      rw [each.keys] at once
      simp only [Value.item, same'.toText_eq keyed', ← get?_eq_of_perm once order]
      exact each.get? _

mutual

theorem Reordered.mem_captured_iff {value value' : Value} (same : Reordered value value')
    (id : Nat) : id ∈ value.captured ↔ id ∈ value'.captured := by
  match same with
  | .number _ | .text _ | .boolean _ | .void | .function _ => exact Iff.rfl
  | .list each => exact each.mem_captured_iff id
  | .map each order =>
      rw [captured, captured, each.mem_captured_iff id, mem_entriesCaptured, mem_entriesCaptured]
      exact exists_congr fun entry => and_congr_left' order.mem_iff

theorem ItemsReordered.mem_captured_iff {items items' : List Value}
    (each : ItemsReordered items items') (id : Nat) :
    id ∈ itemsCaptured items ↔ id ∈ itemsCaptured items' := by
  match each with
  | .nil => exact Iff.rfl
  | .cons first later =>
      rw [itemsCaptured, itemsCaptured, List.mem_append, List.mem_append, first.mem_captured_iff id,
        later.mem_captured_iff id]

theorem EntriesReordered.mem_captured_iff {entries entries' : List (String × Value)}
    (each : EntriesReordered entries entries') (id : Nat) :
    id ∈ entriesCaptured entries ↔ id ∈ entriesCaptured entries' := by
  match each with
  | .nil => exact Iff.rfl
  | .cons key first later =>
      rw [entriesCaptured, entriesCaptured, List.mem_append, List.mem_append,
        first.mem_captured_iff id, later.mem_captured_iff id]

end

open Evaluation in
theorem Reordered.items {value value' : Value} (same : Reordered value value') :
    (Items.ofValue value).count = (Items.ofValue value').count ∧
      ∀ index,
        Reordered ((Items.ofValue value).item index) ((Items.ofValue value').item index) := by
  cases same with
  | number _ | text _ | boolean _ | void | function _ => exact ⟨rfl, fun _ => .refl _⟩
  | list each => exact ⟨each.length_eq, each.at⟩
  | map each order =>
      have keys := Text.sorted_eq_of_perm (order.map Prod.fst)
      have same := congrArg Text.sorted each.keys
      simp only [Items.ofValue, same.trans keys]
      exact ⟨rfl, fun _ => .refl _⟩

/-! ### Operators -/

section

variable {left left' right right' : Value} (same : Reordered left left')
  (same' : Reordered right right')

include same same'

theorem Reordered.applyBinary_eq (keyword : Keyword) :
    keyword.applyBinary left right = keyword.applyBinary left' right' := by
  have apply (op : BinaryOp) : op.apply left right = op.apply left' right' := by
    cases op <;> simp only [BinaryOp.apply, same.toNumber_eq, same'.toNumber_eq, same.toBool_eq,
      same'.toBool_eq, same.agrees_eq same']
  simp only [Keyword.applyBinary, apply]

end

theorem Reordered.applyUnary_eq {operand operand' : Value} (same : Reordered operand operand')
    (keyword : Keyword) : keyword.applyUnary operand = keyword.applyUnary operand' := by
  have apply (op : UnaryOp) : op.apply operand = op.apply operand' := by
    cases op <;> simp only [UnaryOp.apply, same.toNumber_eq, same.toBool_eq]
  simp only [Keyword.applyUnary, apply]

/-! ### Equal up to an order -/

/-- Another order of the entries may be taken before or behind. -/
theorem EntriesReordered.perm {entries middle : List (String × Value)}
    (order : entries.Perm middle) :
    ∀ {entries'}, EntriesReordered entries entries' →
      ∃ middle', EntriesReordered middle middle' ∧ entries'.Perm middle' := by
  induction order with
  | nil =>
      rintro _ ⟨⟩
      exact ⟨[], .nil, .nil⟩
  | cons entry order ih =>
      rintro _ (⟨⟩ | ⟨key, first, later⟩)
      obtain ⟨middle', each, order'⟩ := ih later
      exact ⟨_, .cons key first each, order'.cons _⟩
  | swap entry other rest =>
      rintro _ (⟨⟩ | ⟨key, first, ⟨⟩ | ⟨key', second, later⟩⟩)
      exact ⟨_, .cons key' second (.cons key first later), .swap _ _ _⟩
  | trans before behind ih ih' =>
      intro _ each
      obtain ⟨between, each, order⟩ := ih each
      obtain ⟨middle', each, order'⟩ := ih' each
      exact ⟨middle', each, order.trans order'⟩

mutual

theorem Reordered.symm {value value' : Value} (same : Reordered value value') :
    Reordered value' value := by
  match same with
  | .number x => exact .number x
  | .text s => exact .text s
  | .boolean b => exact .boolean b
  | .void => exact .void
  | .function closure => exact .function closure
  | .list each => exact .list each.symm
  | .map each order =>
      obtain ⟨between, each, order⟩ := EntriesReordered.perm order each.symm
      exact .map each order.symm

theorem ItemsReordered.symm {items items' : List Value} (each : ItemsReordered items items') :
    ItemsReordered items' items := by
  match each with
  | .nil => exact .nil
  | .cons first later => exact .cons first.symm later.symm

theorem EntriesReordered.symm {entries entries' : List (String × Value)}
    (each : EntriesReordered entries entries') : EntriesReordered entries' entries := by
  match each with
  | .nil => exact .nil
  | .cons key first later => exact .cons key first.symm later.symm

end

mutual

theorem Reordered.trans {value between value' : Value} (same : Reordered value between)
    (same' : Reordered between value') : Reordered value value' := by
  match same, same' with
  | .number x, .number _ => exact .number x
  | .text s, .text _ => exact .text s
  | .boolean b, .boolean _ => exact .boolean b
  | .void, .void => exact .void
  | .function closure, .function _ => exact .function closure
  | .list each, .list each' => exact .list (each.trans each')
  | .map each order, .map each' order' =>
      -- both changes of the entries come before both changes of their order
      obtain ⟨between, each', order⟩ := EntriesReordered.perm order.symm each'
      exact .map (each.trans each') (order.symm.trans order')

theorem ItemsReordered.trans {items between items' : List Value}
    (each : ItemsReordered items between) (each' : ItemsReordered between items') :
    ItemsReordered items items' := by
  match each, each' with
  | .nil, .nil => exact .nil
  | .cons first later, .cons first' later' => exact .cons (first.trans first') (later.trans later')

theorem EntriesReordered.trans {entries between entries' : List (String × Value)}
    (each : EntriesReordered entries between) (each' : EntriesReordered between entries') :
    EntriesReordered entries entries' := by
  match each, each' with
  | .nil, .nil => exact .nil
  | .cons key first later, .cons _ first' later' =>
      exact .cons key (first.trans first') (later.trans later')

end

theorem reordered_equivalence : Equivalence Reordered := ⟨.refl, .symm, .trans⟩

open Evaluation in
/-- Whatever a program does with values, the order of entries is not seen: not in their text, number
or truth value, not by any operator, index or loop, nor in the scopes that they keep. -/
theorem reordered_not_told_apart {left left' right right' : Value} (same : Reordered left left')
    (same' : Reordered right right') (keyed : left.Keyed) (keyed' : right.Keyed) :
    (left.toText = left'.toText ∧ left.toNumber = left'.toNumber ∧ left.toBool = left'.toBool) ∧
      left.agrees right = left'.agrees right' ∧
      (∀ keyword : Keyword, keyword.applyBinary left right = keyword.applyBinary left' right' ∧
        keyword.applyUnary left = keyword.applyUnary left') ∧
      Reordered (left.item right) (left'.item right') ∧
      ((Items.ofValue left).count = (Items.ofValue left').count ∧ ∀ index,
        Reordered ((Items.ofValue left).item index) ((Items.ofValue left').item index)) ∧
      ∀ id, id ∈ left.captured ↔ id ∈ left'.captured :=
  ⟨⟨same.toText_eq keyed, same.toNumber_eq, same.toBool_eq⟩, same.agrees_eq same',
    fun keyword => ⟨same.applyBinary_eq same' keyword, same.applyUnary_eq keyword⟩,
    same.item same' keyed keyed', same.items, same.mem_captured_iff⟩

/-- A map in a list in a map, both in another order. -/
theorem nested_maps_not_told_apart :
    let left := Value.map [("b", .number 1), ("a", .list [.map [("x", .void), ("y", .text "y")]])]
    let left' := Value.map [("a", .list [.map [("y", .text "y"), ("x", .void)]]), ("b", .number 1)]
    let right := Value.text "a"
    Reordered left left' ∧ left.Keyed ∧ right.Keyed ∧ left.toText = left'.toText ∧
      Reordered (left.item right) (left'.item right) := by
  intro left left' right
  have inner : Reordered (.map [("x", .void), ("y", .text "y")])
      (.map [("y", .text "y"), ("x", .void)]) := .map (.refl _) (.swap _ _ _)
  have same : Reordered left left' :=
    .map (.cons "b" (.number 1) (.cons "a" (.list (.cons inner .nil)) .nil)) (.swap _ _ _)
  have keyed : left.Keyed := by simp [left, Keyed, EntriesKeyed, AllKeyed, Table.keys]
  obtain ⟨⟨text, _⟩, _, _, item, _⟩ := reordered_not_told_apart same (.refl right) keyed trivial
  exact ⟨same, keyed, trivial, text, item⟩

end Value

end Parlance
