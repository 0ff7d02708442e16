/-!
Tables in insertion order: a new key goes to the end, a key that is there already keeps its
place and takes the new value.
-/

namespace Parlance

abbrev Table (α β : Type) := List (α × β)

namespace Table

variable {α β : Type} [DecidableEq α]

def get? (key : α) : Table α β → Option β
  | [] => none
  | (k, v) :: rest => if k = key then some v else get? key rest

def put (key : α) (value : β) : Table α β → Table α β
  | [] => [(key, value)]
  | (k, v) :: rest => if k = key then (k, value) :: rest else (k, v) :: put key value rest

def erase (key : α) : Table α β → Table α β
  | [] => []
  | (k, v) :: rest => if k = key then rest else (k, v) :: erase key rest

def has (key : α) (table : Table α β) : Bool := (get? key table).isSome

def keys (table : Table α β) : List α := table.map Prod.fst

def values (table : Table α β) : List β := table.map Prod.snd

/-- The table that results from putting the pairs one after the other. -/
def ofPairs (pairs : List (α × β)) : Table α β :=
  pairs.foldl (fun table pair => put pair.1 pair.2 table) []

@[simp] theorem get?_nil (key : α) : get? key ([] : Table α β) = none := rfl

@[simp] theorem get?_put_self (key : α) (value : β) (table : Table α β) :
    get? key (put key value table) = some value := by
  induction table with
  | nil => simp [put, get?]
  | cons entry rest ih => by_cases same : entry.1 = key <;> simp [put, get?, same, ih]

theorem get?_put_of_ne {key other : α} (differ : other ≠ key) (value : β) (table : Table α β) :
    get? other (put key value table) = get? other table := by
  induction table with
  | nil => simp [put, get?, differ.symm]
  | cons entry rest ih =>
      by_cases same : entry.1 = key
      · simp [put, get?, same, differ.symm]
      · simp [put, get?, same, ih]

theorem get?_erase_of_ne {key other : α} (differ : other ≠ key) (table : Table α β) :
    get? other (erase key table) = get? other table := by
  induction table with
  | nil => rfl
  | cons entry rest ih =>
      by_cases same : entry.1 = key
      · simp [erase, get?, same, differ.symm]
      · simp [erase, get?, same, ih]

theorem get?_put (key other : α) (value : β) (table : Table α β) :
    get? other (put key value table) = if other = key then some value else get? other table := by
  by_cases same : other = key
  · subst same
    simp
  · simp [same, get?_put_of_ne same]

theorem has_put (key other : α) (value : β) (table : Table α β) :
    has other (put key value table) = (decide (other = key) || has other table) := by
  by_cases same : other = key <;> simp [has, get?_put, same]

theorem mem_keys_iff (key : α) (table : Table α β) : key ∈ keys table ↔ has key table = true := by
  induction table with
  | nil => simp [keys, has]
  | cons entry rest ih =>
      by_cases same : entry.1 = key
      · simp [keys, has, get?, same]
      · simp only [keys, has] at ih
        simp [keys, has, get?, same, ← ih, Ne.symm same]

theorem keys_put (key : α) (value : β) (table : Table α β) :
    keys (put key value table) =
      if has key table = true then keys table else keys table ++ [key] := by
  induction table with
  | nil => simp [put, keys, has]
  | cons entry rest ih =>
      by_cases same : entry.1 = key
      · simp [put, keys, has, get?, same]
      · simp only [keys, has] at ih
        by_cases present : (get? key rest).isSome <;>
          simp [put, keys, has, get?, same, ih, present]

theorem nodup_put {table : Table α β} (once : (keys table).Nodup) (key : α) (value : β) :
    (keys (put key value table)).Nodup := by
  rw [keys_put]
  split
  · exact once
  · rename_i absent
    rw [← mem_keys_iff] at absent
    rw [List.nodup_append]
    refine ⟨once, by simp, ?_⟩
    intro present member last new same
    rw [List.mem_singleton] at new
    exact absent (new ▸ same ▸ member)

theorem keys_erase (key : α) (table : Table α β) :
    keys (erase key table) = (keys table).erase key := by
  induction table with
  | nil => rfl
  | cons entry rest ih =>
      by_cases same : entry.1 = key
      · simp [erase, keys, same]
      · simp only [keys] at ih
        simp [erase, keys, same, ih]

theorem nodup_erase {table : Table α β} (once : (keys table).Nodup) (key : α) :
    (keys (erase key table)).Nodup := by
  rw [keys_erase]
  exact once.erase key

theorem get?_erase_self {table : Table α β} (once : (keys table).Nodup) (key : α) :
    get? key (erase key table) = none := by
  have absent : key ∉ keys (erase key table) := by
    rw [keys_erase, once.mem_erase_iff]
    simp
  rw [mem_keys_iff] at absent
  simpa [has] using absent

theorem get?_erase {table : Table α β} (once : (keys table).Nodup) (key other : α) :
    get? other (erase key table) = if other = key then none else get? other table := by
  by_cases same : other = key
  · subst same
    simp [get?_erase_self once]
  · simp [same, get?_erase_of_ne same]

theorem mem_of_get? {key : α} {value : β} {table : Table α β} (found : get? key table = some value) :
    (key, value) ∈ table := by
  induction table with
  | nil => cases found
  | cons entry rest ih =>
      by_cases same : entry.1 = key
      · simp only [get?, same, ↓reduceIte, Option.some.injEq] at found
        rw [← same, ← found]
        exact List.mem_cons_self
      · simp only [get?, same, ↓reduceIte] at found
        exact List.mem_cons_of_mem entry (ih found)

theorem mem_of_mem_erase {key : α} {table : Table α β} {entry : α × β}
    (member : entry ∈ erase key table) : entry ∈ table := by
  induction table with
  | nil => cases member
  | cons first rest ih =>
      by_cases same : first.1 = key
      · simp only [erase, same, ↓reduceIte] at member
        exact List.mem_cons_of_mem first member
      · simp only [erase, same, ↓reduceIte, List.mem_cons] at member
        rcases member with head | tail
        · exact head ▸ List.mem_cons_self
        · exact List.mem_cons_of_mem first (ih tail)

theorem mem_put {key : α} {value : β} {table : Table α β} {entry : α × β}
    (member : entry ∈ put key value table) : entry = (key, value) ∨ entry ∈ table := by
  induction table with
  | nil => simpa [put] using member
  | cons first rest ih =>
      by_cases same : first.1 = key
      · simp only [put, same, ↓reduceIte, List.mem_cons] at member
        rcases member with new | old
        · exact Or.inl new
        · exact Or.inr (List.mem_cons_of_mem first old)
      · simp only [put, same, ↓reduceIte, List.mem_cons] at member
        rcases member with head | tail
        · exact Or.inr (head ▸ List.mem_cons_self)
        · exact (ih tail).imp_right (List.mem_cons_of_mem first)

theorem put_of_absent {key : α} {table : Table α β} (absent : key ∉ keys table) (value : β) :
    put key value table = table ++ [(key, value)] := by
  induction table with
  | nil => rfl
  | cons entry rest ih =>
      rw [keys, List.map_cons, List.mem_cons, not_or] at absent
      obtain ⟨first, later⟩ := absent
      simp [put, Ne.symm first, ih later]

/-- Pairs with different keys are a table already. -/
theorem ofPairs_eq_self {pairs : List (α × β)} (once : (keys pairs).Nodup) :
    ofPairs pairs = pairs := by
  have behind : ∀ (more : List (α × β)) (table : Table α β), (keys (table ++ more)).Nodup →
      more.foldl (fun table pair => put pair.1 pair.2 table) table = table ++ more := by
    intro more
    induction more with
    | nil => simp
    | cons pair more ih =>
        intro table once
        have absent : pair.1 ∉ keys table := by
          simp only [keys, List.map_append, List.map_cons, List.nodup_append] at once
          exact fun member => once.2.2 _ member _ List.mem_cons_self rfl
        rw [List.foldl_cons, put_of_absent absent, ih _ (by simpa using once)]
        simp
  exact behind pairs [] once

theorem get?_eq_some_iff {table : Table α β} (once : (keys table).Nodup) (key : α) (value : β) :
    get? key table = some value ↔ (key, value) ∈ table := by
  induction table with
  | nil => simp
  | cons entry rest ih =>
      obtain ⟨absent, once⟩ := List.nodup_cons.mp once
      by_cases same : entry.1 = key
      · have other : (key, value) ∉ rest := fun member =>
          absent (List.mem_map.mpr ⟨_, member, same.symm⟩)
        subst same
        simp [get?, other, Prod.ext_iff, eq_comm]
      · have other : (key, value) ≠ entry := fun here => same (congrArg Prod.fst here).symm
        simp [get?, same, ih once, other]

end Table

end Parlance
