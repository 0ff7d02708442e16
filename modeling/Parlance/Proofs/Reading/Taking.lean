import Parlance.Proofs.Reading.Parenthesis

/-!
What rules take. A rule that notes nothing takes the tokens between the cursor it began at and the
one it leaves. What is known of those tokens and of the value that is made of them is put together
along the rule: from what its parts take, and, where it calls itself, by induction.
-/

namespace Parlance.Grammar

open Rule

/-- What holds of a rule that is tied holds of it by induction on the number of tokens ahead: what
is granted to a round has fewer. -/
theorem tie_induction {γ β : Type} {mode : Mode} {cursor : Cursor} {resort : γ → Rule β}
    {round : (γ → Rule β) → γ → Rule β} {bound : Nat} (holds : γ → Cursor → Rule β → Prop)
    (congr : ∀ {goal cursor} {rule rule' : Rule β}, rule mode cursor = rule' mode cursor →
      holds goal cursor rule' → holds goal cursor rule)
    (rounds : ∀ cursor, cursor.rest.length < bound → ∀ self,
      (∀ goal next, next.rest.length < cursor.rest.length → holds goal next (self goal)) →
        ∀ goal, holds goal cursor (round self goal))
    (goal : γ) (below : cursor.rest.length < bound) :
    holds goal cursor (tie resort round goal) := by
  induction ahead : cursor.rest.length using Nat.strongRecOn generalizing goal cursor with
  | ind length ih =>
      subst ahead
      refine congr (tie_apply resort round goal mode cursor) ?_
      refine rounds cursor below _ (fun goal next shorter => ?_) goal
      refine congr ?_ (ih _ shorter goal (Nat.lt_trans shorter below) rfl)
      simp only [granted, shorter, ↓reduceIte]

/-- If nothing is noted, the rule takes tokens of which, and of its value, something is known. It
never takes a closing one. -/
def Takes (mode : Mode) (cursor : Cursor) {α : Type} (rule : Rule α)
    (known : List Token → α → Prop) : Prop :=
  ∀ ⦃value next⦄, rule mode cursor = .done value next [] →
    ∃ taken, cursor.rest = taken ++ next.rest ∧ (∀ token ∈ taken, token.kind ≠ .finish) ∧
      known taken value

section

variable {α β : Type} {mode : Mode} {cursor : Cursor} {known : List Token → β → Prop}

theorem length_lt_of_taken {cursor next : Cursor} {taken : List Token}
    (split : cursor.rest = taken ++ next.rest) (some' : taken ≠ []) :
    next.rest.length < cursor.rest.length := by
  have longer := List.length_pos_iff.mpr some'
  rw [split, List.length_append]
  omega

theorem length_le_of_taken {cursor next : Cursor} {taken : List Token}
    (split : cursor.rest = taken ++ next.rest) : next.rest.length ≤ cursor.rest.length := by
  rw [split, List.length_append]
  exact Nat.le_add_left _ _

namespace Takes

theorem pure {value : β} (holds : known [] value) :
    Takes mode cursor (Pure.pure value) known := by
  intro _ _ read
  obtain ⟨rfl, rfl, _⟩ := Reading.done.inj read
  exact ⟨[], rfl, nofun, holds⟩

theorem mono {rule : Rule β} {more : List Token → β → Prop} (takes : Takes mode cursor rule known)
    (holds : ∀ taken value, known taken value → more taken value) :
    Takes mode cursor rule more := by
  intro value next read
  obtain ⟨taken, split, inner, here⟩ := takes read
  exact ⟨taken, split, inner, holds taken value here⟩

/-- What follows a rule may count on how that rule was read. -/
theorem bind_read {rule : Rule α} {more : α → Rule β} {between : List Token → α → Prop}
    (first : Takes mode cursor rule between)
    (later : ∀ taken value next, rule mode cursor = .done value next [] →
      cursor.rest = taken ++ next.rest → between taken value →
        Takes mode next (more value) fun rest => known (taken ++ rest)) :
    Takes mode cursor (rule >>= more) known := by
  intro value next read
  obtain ⟨_, middle, read, goesOn⟩ := Reading.andThen_clean read
  obtain ⟨taken, split, inner, holds⟩ := first read
  obtain ⟨rest, split', inner', holds'⟩ := later taken _ middle read split holds goesOn
  exact ⟨taken ++ rest, by rw [split, split', List.append_assoc],
    List.forall_mem_append.mpr ⟨inner, inner'⟩, holds'⟩

theorem bind {rule : Rule α} {more : α → Rule β} {between : List Token → α → Prop}
    (first : Takes mode cursor rule between)
    (later : ∀ taken value next, cursor.rest = taken ++ next.rest → between taken value →
      Takes mode next (more value) fun rest => known (taken ++ rest)) :
    Takes mode cursor (rule >>= more) known :=
  bind_read first fun taken value next _ => later taken value next

theorem here {more : Cursor → Rule β} (later : Takes mode cursor (more cursor) known) :
    Takes mode cursor (Rule.here >>= more) known := by
  intro value next read
  rw [bind_apply, Rule.here, Reading.done_andThen] at read
  exact later read

theorem knowing {more : Capabilities → Rule β}
    (later : Takes mode cursor (more mode.capabilities) known) :
    Takes mode cursor (Rule.capabilities >>= more) known := by
  intro value next read
  rw [bind_apply, Rule.capabilities, Reading.done_andThen] at read
  exact later read

theorem taking {rule : Rule α} {more : α → Rule β} {value : α}
    (reads : rule mode cursor = .done value cursor.advance [])
    (other : cursor.current.kind ≠ .finish)
    (later : cursor.advance.rest.length < cursor.rest.length →
      Takes mode cursor.advance (more value) fun rest => known (cursor.current :: rest)) :
    Takes mode cursor (rule >>= more) known := by
  have split := Cursor.rest_eq_cons other
  have shorter : cursor.advance.rest.length < cursor.rest.length := by
    rw [split]
    exact Nat.lt_succ_self _
  intro last next read
  rw [bind_apply, reads, Reading.done_andThen] at read
  obtain ⟨rest, split', inner, holds⟩ := later shorter read
  exact ⟨cursor.current :: rest, by rw [split, split', List.cons_append],
    List.forall_mem_cons.mpr ⟨other, inner⟩, holds⟩

theorem next {more : Token → Rule β} (other : cursor.current.kind ≠ .finish)
    (later : cursor.advance.rest.length < cursor.rest.length →
      Takes mode cursor.advance (more cursor.current)
        fun rest => known (cursor.current :: rest)) :
    Takes mode cursor (Rule.next >>= more) known :=
  taking rfl other later

theorem tested {test : Bool} {rule : Rule Bool} {more : Bool → Rule β}
    (reads : rule mode cursor =
      if test then .done true cursor.advance [] else .done false cursor [])
    (yes : test = true → Takes mode cursor (rule >>= more) known)
    (no : Takes mode cursor (more false) known) : Takes mode cursor (rule >>= more) known := by
  cases test with
  | true => exact yes rfl
  | false =>
      intro last next read
      rw [bind_apply, reads] at read
      exact no (by simpa using read)

theorem accept {keyword : Keyword} {more : Bool → Rule β}
    (yes : cursor.current.keyword? = some keyword →
      cursor.advance.rest.length < cursor.rest.length →
        Takes mode cursor.advance (more true) fun rest => known (cursor.current :: rest))
    (no : Takes mode cursor (more false) known) :
    Takes mode cursor (Rule.accept keyword >>= more) known := by
  refine tested rfl (fun found => ?_) no
  have spelt : cursor.current.keyword? = some keyword := of_decide_eq_true found
  exact taking (by simp [Rule.accept, found]) (Token.ne_finish_of_keyword? spelt) (yes spelt)

theorem acceptSymbol {symbol : String} {more : Bool → Rule β}
    (yes : cursor.current.isSymbol symbol = true →
      cursor.advance.rest.length < cursor.rest.length →
        Takes mode cursor.advance (more true) fun rest => known (cursor.current :: rest))
    (no : Takes mode cursor (more false) known) :
    Takes mode cursor (Rule.acceptSymbol symbol >>= more) known := by
  refine tested rfl (fun found => ?_) no
  exact taking (by simp [Rule.acceptSymbol, found]) (Token.ne_finish_of_isSymbol found) (yes found)

theorem recover {flaw : Flaw} {more : Unit → Rule β} :
    Takes mode cursor (Rule.recover flaw >>= more) known := by
  intro value next read
  obtain ⟨_, _, read, _⟩ := Reading.andThen_clean read
  exact absurd read recover_noted

theorem tie {γ : Type} {resort : γ → Rule β} {round : (γ → Rule β) → γ → Rule β} {bound : Nat}
    (known : γ → List Token → β → Prop)
    (rounds : ∀ cursor, cursor.rest.length < bound → ∀ self,
      (∀ goal next, next.rest.length < cursor.rest.length →
        Takes mode next (self goal) (known goal)) →
          ∀ goal, Takes mode cursor (round self goal) (known goal))
    (goal : γ) (below : cursor.rest.length < bound) :
    Takes mode cursor (Rule.tie resort round goal) (known goal) :=
  tie_induction (fun goal cursor rule => Takes mode cursor rule (known goal))
    (fun same takes _ _ read => takes (same ▸ read)) rounds goal below

end Takes

end

end Parlance.Grammar
