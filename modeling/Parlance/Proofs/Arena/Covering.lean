import Mathlib.Data.Set.Insert
import Parlance.Proofs.Arena.Leaving

/-!
Reclaiming against retaining. An arena that gives up scopes covers less and less of one that
retains every scope once pinned, but the scopes that both still have are bound alike: names are
resolved alike, and bindings made alike keep it so.
-/

namespace Parlance

namespace Arena

/-- The right arena has retained what values and bindings capture; the left one may have given up
some of it. -/
structure Covers (upkeep : Upkeep) (known : Set Nat) (stack : List Nat) (left right : Arena) :
    Prop where
  left_sound : left.Sound stack
  right_sound : right.Sound stack
  nextId_eq : right.nextId = left.nextId
  scopes_kept : ∀ id bindings, Table.get? id left.scopes = some bindings →
    Table.get? id right.scopes = some bindings
  pins_kept : ∀ id ∈ left.pinned, id ∈ right.pinned
  captures : right.CapturesIn known
  known_pinned : ∀ id ∈ known, id ∈ right.pinned
  /-- An arena that retains scopes has given up none. -/
  retained : upkeep = .retain → ∀ id ∈ right.pinned, id ∈ left.pinned

namespace Covers

variable {upkeep : Upkeep} {known : Set Nat} {stack : List Nat} {left right : Arena}

theorem empty (upkeep : Upkeep) : Covers upkeep ∅ [] Arena.empty Arena.empty where
  left_sound := empty_sound
  right_sound := empty_sound
  nextId_eq := rfl
  scopes_kept _ _ found := found
  pins_kept _ member := member
  captures := empty_capturesIn ∅
  known_pinned _ member := member.elim
  retained _ _ member := member

theorem uncaptured (covers : Covers upkeep known stack left right) : globalId ∉ known :=
  fun member => covers.right_sound.pinned_local (covers.known_pinned globalId member)

theorem right_live (covers : Covers upkeep known stack left right) {id : Nat}
    (member : id ∈ known) : right.isLive id = true :=
  covers.right_sound.pinned_live id (covers.known_pinned id member)

theorem left_live (covers : Covers .retain known stack left right) {id : Nat}
    (member : id ∈ known) : left.isLive id = true :=
  covers.left_sound.pinned_live id (covers.retained rfl id (covers.known_pinned id member))

theorem get?_eq (covers : Covers upkeep known stack left right) {id : Nat}
    (live : left.isLive id = true) : Table.get? id left.scopes = Table.get? id right.scopes := by
  obtain ⟨bindings, found⟩ := (isLive_iff left id).mp live
  rw [found, covers.scopes_kept id bindings found]

theorem holder?_eq (covers : Covers upkeep known stack left right) (name : String) :
    left.holder? name stack = right.holder? name stack :=
  holder?_congr name stack (covers.get?_eq covers.left_sound.global_live)
    fun id member => covers.get?_eq (covers.left_sound.entered_live id member)

theorem globals_eq (covers : Covers upkeep known stack left right) :
    left.globals = right.globals := by
  rw [globals, globals, covers.get?_eq covers.left_sound.global_live]

theorem resolve_eq (covers : Covers upkeep known stack left right) (name : String) :
    left.resolve name = right.resolve name := by
  obtain ⟨holder, answer, within⟩ := holder?_ok name stack covers.left_sound.global_live
    covers.left_sound.entered_live
  have other : right.holder? name stack = .ok holder := covers.holder?_eq name ▸ answer
  simp only [resolve, covers.left_sound.stack_eq, covers.right_sound.stack_eq, answer, other]
  cases holder with
  | none => rfl
  | some id =>
      have live : left.isLive id = true := by
        rcases List.mem_cons.mp (within id rfl) with same | entered
        · exact same ▸ covers.left_sound.global_live
        · exact covers.left_sound.entered_live id entered
      simp [Except.map, covers.get?_eq live]

theorem of_same (covers : Covers upkeep known stack left right) {left' right' : Arena}
    (left_sound : left'.Sound stack) (right_sound : right'.Sound stack)
    (left_scopes : left'.scopes = left.scopes) (right_scopes : right'.scopes = right.scopes)
    (left_pinned : left'.pinned = left.pinned) (right_pinned : right'.pinned = right.pinned)
    (left_next : left'.nextId = left.nextId) (right_next : right'.nextId = right.nextId) :
    Covers upkeep known stack left' right' where
  left_sound := left_sound
  right_sound := right_sound
  nextId_eq := by rw [left_next, right_next, covers.nextId_eq]
  scopes_kept := by rw [left_scopes, right_scopes]; exact covers.scopes_kept
  pins_kept := by rw [left_pinned, right_pinned]; exact covers.pins_kept
  captures := by
    intro id bindings found
    exact covers.captures id bindings (right_scopes ▸ found)
  known_pinned := by rw [right_pinned]; exact covers.known_pinned
  retained := by rw [left_pinned, right_pinned]; exact covers.retained

theorem carry (covers : Covers upkeep known stack left right) (value : Value) :
    Covers upkeep known stack (left.carry value) (right.carry value) :=
  covers.of_same (covers.left_sound.carry value) (covers.right_sound.carry value)
    (carry_scopes value left) (carry_scopes value right) (carry_pinned value left)
    (carry_pinned value right) (carry_nextId value left) (carry_nextId value right)

theorem pushFresh (covers : Covers upkeep known stack left right) :
    Covers upkeep known (left.nextId :: stack) left.pushFresh right.pushFresh where
  left_sound := covers.left_sound.pushFresh
  right_sound := covers.nextId_eq ▸ covers.right_sound.pushFresh
  nextId_eq := by simp [Arena.pushFresh, covers.nextId_eq]
  scopes_kept := by
    intro id bindings found
    simp only [Arena.pushFresh, Table.get?_put, covers.nextId_eq] at found ⊢
    split
    · rename_i fresh
      simpa [fresh] using found
    · rename_i old
      exact covers.scopes_kept id bindings (by simpa [old] using found)
  pins_kept := covers.pins_kept
  captures := covers.captures.pushFresh
  known_pinned := covers.known_pinned
  retained := covers.retained

theorem push (covers : Covers upkeep known stack left right) {id : Nat}
    (live : left.isLive id = true) (member : id ∈ known) :
    Covers upkeep known (id :: stack) (Arena.push id left) (Arena.push id right) where
  left_sound := covers.left_sound.push live fun same => covers.uncaptured (same ▸ member)
  right_sound :=
    covers.right_sound.push (covers.right_live member) fun same => covers.uncaptured (same ▸ member)
  nextId_eq := covers.nextId_eq
  scopes_kept := covers.scopes_kept
  pins_kept := covers.pins_kept
  captures := covers.captures
  known_pinned := covers.known_pinned
  retained := covers.retained

theorem capture {id : Nat} (covers : Covers upkeep known (id :: stack) left right) :
    Covers upkeep (insert id known) (id :: stack) (left.pin id) (right.pin id) where
  left_sound := covers.left_sound.pin (covers.left_sound.entered_live id List.mem_cons_self)
  right_sound := covers.right_sound.pin (covers.right_sound.entered_live id List.mem_cons_self)
  nextId_eq := by rw [pin_nextId, pin_nextId, covers.nextId_eq]
  scopes_kept := by rw [pin_scopes, pin_scopes]; exact covers.scopes_kept
  pins_kept := by
  -- the innermost scope is pinned on both sides before a function captures it
    intro other
    rw [mem_pin_pinned, mem_pin_pinned]
    exact Or.imp_left (covers.pins_kept other)
  captures := by
    intro other bindings found
    rw [pin_scopes] at found
    exact covers.captures.mono (Set.subset_insert id known) other bindings found
  known_pinned := by
    intro other member
    rw [mem_pin_pinned]
    rcases member with same | old
    · refine Or.inr ⟨same, ?_⟩
      rintro rfl
      exact covers.left_sound.entered_local List.mem_cons_self
    · exact Or.inl (covers.known_pinned other old)
  retained := by
    intro retain other
    rw [mem_pin_pinned, mem_pin_pinned]
    exact Or.imp_left (covers.retained retain other)

theorem withScope (covers : Covers upkeep known stack left right) {id : Nat} {bindings : Bindings}
    (found : Table.get? id left.scopes = some bindings) (name : String) {value : Value}
    (held : value.CapturesIn known) :
    Covers upkeep known stack (left.withScope id (Table.put name value bindings))
      (right.withScope id (Table.put name value bindings)) where
  left_sound := covers.left_sound.withScope id _
  right_sound := covers.right_sound.withScope id _
  nextId_eq := covers.nextId_eq
  scopes_kept := by
    intro other others here
    simp only [Arena.withScope, Table.get?_put] at here ⊢
    split
    · rename_i same
      simpa [same] using here
    · rename_i differ
      exact covers.scopes_kept other others (by simpa [differ] using here)
  pins_kept := covers.pins_kept
  captures := covers.captures.withScope (covers.scopes_kept id bindings found) held
  known_pinned := covers.known_pinned
  retained := covers.retained

theorem declare_ok (covers : Covers upkeep known stack left right) (name : String) {value : Value}
    (held : value.CapturesIn known) :
    ∃ left' right', declare name value left = .ok () left' ∧
      declare name value right = .ok () right' ∧ Covers upkeep known stack left' right' := by
  obtain ⟨bindings, found, result⟩ := covers.left_sound.declare_ok name value
  obtain ⟨others, found', result'⟩ := covers.right_sound.declare_ok name value
  obtain rfl : bindings = others :=
    Option.some.inj ((covers.scopes_kept _ bindings found).symm.trans found')
  exact ⟨_, _, result, result', covers.withScope found name held⟩

theorem assign_ok (covers : Covers upkeep known stack left right) (name : String) {value : Value}
    (held : value.CapturesIn known) :
    ∃ left' right', assign name value left = .ok () left' ∧
      assign name value right = .ok () right' ∧ Covers upkeep known stack left' right' := by
  obtain ⟨holder, bindings, answer, found, result⟩ := covers.left_sound.assign_ok name value
  obtain ⟨holder', others, answer', found', result'⟩ := covers.right_sound.assign_ok name value
  obtain rfl : holder = holder' :=
    Except.ok.inj ((answer.symm.trans (covers.holder?_eq name)).trans answer')
  obtain rfl : bindings = others :=
    Option.some.inj ((covers.scopes_kept _ bindings found).symm.trans found')
  exact ⟨_, _, result, result', covers.withScope found name held⟩

/-- When a scope is left the left arena may give it up where the right one retains it, but never
the other way round. -/
theorem pop_ok {id : Nat} (covers : Covers upkeep known (id :: stack) left right) :
    ∃ left' right', pop upkeep left = .ok () left' ∧ pop .retain right = .ok () right' ∧
      Covers upkeep known stack left' right' := by
  have here : id ≠ globalId :=
    fun same => covers.left_sound.entered_local (same ▸ List.mem_cons_self)
  have off : Covers upkeep known stack (left.popped id stack) (right.popped id stack) :=
    { left_sound := covers.left_sound.popped
      right_sound := covers.right_sound.popped
      nextId_eq := covers.nextId_eq
      scopes_kept := covers.scopes_kept
      pins_kept := covers.pins_kept
      captures := covers.captures
      known_pinned := covers.known_pinned
      retained := covers.retained }
  have once := off.left_sound.scopes_once
  have once' := off.right_sound.scopes_once
  -- four cases; the right arena never gives up a scope that the left one keeps
  rcases covers.left_sound.pop_cases upkeep with ⟨result, stays⟩ | ⟨result, gone, unpinned⟩
  · rcases covers.right_sound.pop_cases .retain with ⟨result', _⟩ | ⟨_, gone, unpinned⟩
    · exact ⟨_, _, result, result', off⟩
    -- what keeps the scope on the left keeps it on the right, so this cannot be
    · rcases stays with entered | pinned
      · exact absurd entered gone
      · exact absurd (covers.pins_kept id pinned) (unpinned rfl)
  · have shrinks := without_shrinks once id
    rcases covers.right_sound.pop_cases .retain with ⟨result', _⟩ | ⟨result', _, unpinned'⟩
    · exact ⟨_, _, result, result',
        { left_sound := off.left_sound.without gone here
          right_sound := off.right_sound
          nextId_eq := off.nextId_eq
          scopes_kept := fun other bindings found =>
            off.scopes_kept other bindings (shrinks.scopes_old other bindings found)
          pins_kept := fun other member => off.pins_kept other (shrinks.pinned_old other member)
          captures := off.captures
          known_pinned := off.known_pinned
          retained := by
            intro retain other member
            have pinned := off.retained retain other member
            have differ : other ≠ id := fun same => unpinned retain (same ▸ pinned)
            exact List.mem_filter.mpr ⟨pinned, by simpa using differ⟩ }⟩
    · exact ⟨_, _, result, result',
        { left_sound := off.left_sound.without gone here
          right_sound := off.right_sound.without gone here
          nextId_eq := off.nextId_eq
          scopes_kept := by
            intro other bindings found
            simp only [Arena.without, Table.get?_erase once, Table.get?_erase once'] at found ⊢
            split
            · rename_i same
              simp [same] at found
            · rename_i differ
              exact off.scopes_kept other bindings (by simpa [differ] using found)
          pins_kept := by
            intro other member
            obtain ⟨pinned, differ⟩ := List.mem_filter.mp member
            exact List.mem_filter.mpr ⟨off.pins_kept other pinned, differ⟩
          captures := (without_shrinks once' id).capturesIn off.captures
          -- the right arena gave up a scope that was not pinned, so nothing captures it
          known_pinned := by
            intro other member
            have pinned := off.known_pinned other member
            have differ : other ≠ id := fun same => unpinned' rfl (same ▸ pinned)
            exact List.mem_filter.mpr ⟨pinned, by simpa using differ⟩
          retained := by
            intro retain other member
            obtain ⟨pinned, differ⟩ := List.mem_filter.mp member
            exact List.mem_filter.mpr ⟨off.retained retain other pinned, differ⟩ }⟩

theorem collect_ok (covers : Covers upkeep known stack left right) (roots : List Value) :
    ∃ count left' , collect upkeep roots left = .ok count left' ∧
      collect .retain roots right = .ok 0 right ∧ Covers upkeep known stack left' right := by
  -- only the left arena is tidied
  obtain ⟨count, left', result, sound, shrinks, same⟩ :=
    covers.left_sound.collect_ok upkeep roots
  refine ⟨count, left', result, by simp [collect], ?_⟩
  exact
    { covers with
      left_sound := sound
      nextId_eq := covers.nextId_eq.trans shrinks.nextId_eq.symm
      scopes_kept := fun other bindings found =>
        covers.scopes_kept other bindings (shrinks.scopes_old other bindings found)
      pins_kept := fun other member => covers.pins_kept other (shrinks.pinned_old other member)
      retained := by
        intro retain other member
        rw [same retain]
        exact covers.retained retain other member }

end Covers

end Arena

end Parlance
