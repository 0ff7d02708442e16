import Parlance.Proofs.Arena.Leaving

/-!
What a name resolves to. The entered scopes are searched from the innermost outward and the global
scope last, and the first that binds the name holds it. So a name that was just bound resolves to
the value that it was bound to, and goes on to do so as long as these scopes bind it alike.
-/

namespace Parlance.Arena

variable {arena : Arena} {stack : List Nat} {name : String}

def boundIn (arena : Arena) (name : String) (id : Nat) : Option Value :=
  (Table.get? id arena.scopes).bind (Table.get? name)

theorem boundIn_withScope (id : Nat) (bindings : Bindings) (other : Nat) :
    (arena.withScope id bindings).boundIn name other =
      if other = id then Table.get? name bindings else arena.boundIn name other := by
  simp only [boundIn, withScope, Table.get?_put]
  split <;> rfl

def scopeOrder (stack : List Nat) : List Nat := stack ++ [globalId]

def firstHolder (arena : Arena) (name : String) (ids : List Nat) : Option Nat :=
  ids.find? fun id => (arena.boundIn name id).isSome

def lookup (arena : Arena) (name : String) (ids : List Nat) : Option Value :=
  (arena.firstHolder name ids).bind (arena.boundIn name)

theorem lookup_cons (arena : Arena) (name : String) (id : Nat) (ids : List Nat) :
    arena.lookup name (id :: ids) = (arena.boundIn name id).or (arena.lookup name ids) := by
  cases bound : arena.boundIn name id <;> simp [lookup, firstHolder, bound]

theorem lookup_congr {other : Arena} {ids : List Nat}
    (same : ∀ id ∈ ids, other.boundIn name id = arena.boundIn name id) :
    other.lookup name ids = arena.lookup name ids := by
  induction ids with
  | nil => rfl
  | cons id rest ih =>
      obtain ⟨here, behind⟩ := List.forall_mem_cons.mp same
      rw [lookup_cons, lookup_cons, here, ih behind]

theorem holder?_eq (global : arena.isLive globalId = true)
    (entered : ∀ id ∈ stack, arena.isLive id = true) :
    arena.holder? name stack = .ok (arena.firstHolder name (scopeOrder stack)) := by
  induction stack with
  | nil =>
      obtain ⟨bindings, found⟩ := (isLive_iff arena globalId).mp global
      cases held : Table.get? name bindings <;>
        simp [holder?, firstHolder, scopeOrder, boundIn, found, Table.has, held]
  | cons id rest ih =>
      obtain ⟨bindings, found⟩ := (isLive_iff arena id).mp (entered id List.mem_cons_self)
      have further := ih fun other member => entered other (List.mem_cons_of_mem id member)
      simp only [firstHolder, scopeOrder] at further
      cases held : Table.get? name bindings <;>
        simp [holder?, firstHolder, scopeOrder, boundIn, found, Table.has, held, further]

theorem Sound.holder?_eq (sound : arena.Sound stack) (name : String) :
    arena.holder? name stack = .ok (arena.firstHolder name (scopeOrder stack)) :=
  Arena.holder?_eq sound.global_live sound.entered_live

theorem Sound.resolve_eq (sound : arena.Sound stack) (name : String) :
    arena.resolve name = .ok (arena.lookup name (scopeOrder stack)) := by
  simp only [resolve, sound.stack_eq, sound.holder?_eq name]
  rfl

theorem Sound.resolve_congr {other : Arena} (sound : arena.Sound stack) (sound' : other.Sound stack)
    (same : ∀ id ∈ scopeOrder stack, other.boundIn name id = arena.boundIn name id) :
    other.resolve name = arena.resolve name := by
  rw [sound.resolve_eq, sound'.resolve_eq, lookup_congr same]

/-- Giving up scopes changes nothing for a name, as long as those that are searched stay. -/
theorem Shrinks.resolve_eq {after : Arena} (shrinks : Shrinks arena after)
    (sound : arena.Sound stack) (sound' : after.Sound stack) :
    after.resolve name = arena.resolve name := by
  refine sound.resolve_congr sound' fun id member => ?_
  have live : after.isLive id = true := by
    rcases List.mem_append.mp member with entered | global
    · exact sound'.entered_live id entered
    · exact List.mem_singleton.mp global ▸ sound'.global_live
  obtain ⟨bindings, found⟩ := (isLive_iff after id).mp live
  simp only [boundIn, found, shrinks.scopes_old id bindings found]

/-- What is entered last is searched first. -/
theorem Sound.resolve_cons {id : Nat} (sound : arena.Sound (id :: stack)) (name : String) :
    arena.resolve name =
      .ok ((arena.boundIn name id).or (arena.lookup name (scopeOrder stack))) := by
  rw [sound.resolve_eq, scopeOrder, List.cons_append, lookup_cons, scopeOrder]

/-- A name that is bound anew where it is held, or where it is held nowhere in the innermost scope,
resolves to the value. -/
theorem Sound.resolve_withScope (sound : arena.Sound stack) {holder : Nat}
    (holds : (arena.firstHolder name (scopeOrder stack)).getD (stack.head?.getD globalId) = holder)
    (bindings : Bindings) (value : Value) :
    (arena.withScope holder (Table.put name value bindings)).resolve name = .ok (some value) := by
  have here : (arena.withScope holder (Table.put name value bindings)).boundIn name holder =
      some value := by
    rw [boundIn_withScope, if_pos rfl, Table.get?_put_self]
  have first : (arena.withScope holder (Table.put name value bindings)).firstHolder name
      (scopeOrder stack) = some holder := by
    refine List.find?_eq_some_iff_append.mpr ⟨by rw [here, Option.isSome_some], ?_⟩
    cases found : arena.firstHolder name (scopeOrder stack) with
    | some id =>
        obtain rfl : id = holder := by simpa [found] using holds
        obtain ⟨holds, front, back, split, before⟩ := List.find?_eq_some_iff_append.mp found
        refine ⟨front, back, split, fun other member => ?_⟩
        have unbound := before other member
        have apart : other ≠ id := by
          rintro rfl
          simp [holds] at unbound
        rwa [boundIn_withScope, if_neg apart]
    | none =>
        have innermost : stack.head?.getD globalId = holder := by simpa [found] using holds
        refine ⟨[], (scopeOrder stack).tail, ?_, List.forall_mem_nil _⟩
        cases stack <;> simp_all [scopeOrder]
  rw [(sound.withScope holder _).resolve_eq, lookup, first, Option.bind_some, here]

theorem Sound.resolve_innermost {value : Value} (sound : arena.Sound stack)
    (bound : arena.boundIn name (stack.head?.getD globalId) = some value) :
    arena.resolve name = .ok (some value) := by
  cases stack with
  | nil =>
      have global : arena.boundIn name globalId = some value := bound
      rw [sound.resolve_eq, scopeOrder, List.nil_append, lookup_cons, global, Option.some_or]
  | cons id rest =>
      have innermost : arena.boundIn name id = some value := bound
      rw [sound.resolve_cons, innermost, Option.some_or]

theorem Sound.declare_resolves (sound : arena.Sound stack) (name : String) (value : Value) :
    ∃ bindings, Table.get? (stack.head?.getD globalId) arena.scopes = some bindings ∧
      let after := arena.withScope (stack.head?.getD globalId) (Table.put name value bindings)
      declare name value arena = .ok () after ∧ after.resolve name = .ok (some value) := by
  obtain ⟨bindings, found, result⟩ := sound.declare_ok name value
  refine ⟨bindings, found, result, (sound.withScope _ _).resolve_innermost ?_⟩
  rw [boundIn_withScope, if_pos rfl, Table.get?_put_self]

theorem Sound.assign_resolves (sound : arena.Sound stack) (name : String) (value : Value) :
    ∃ holder bindings, Table.get? holder arena.scopes = some bindings ∧
      let after := arena.withScope holder (Table.put name value bindings)
      assign name value arena = .ok () after ∧ after.resolve name = .ok (some value) := by
  obtain ⟨holder, bindings, answer, found, result⟩ := sound.assign_ok name value
  obtain rfl : arena.firstHolder name (scopeOrder stack) = holder :=
    Except.ok.inj ((sound.holder?_eq name).symm.trans answer)
  exact ⟨_, bindings, found, result, sound.resolve_withScope rfl bindings value⟩

end Parlance.Arena
