import Parlance.Proofs.Drawing.Node
import Parlance.Proofs.Progress.Cursor
import Parlance.Proofs.Reading.Taking

/-!
What rules draw from. Whatever is noted on the way, a rule takes tokens one after the other, and the
nodes that it makes stand where tokens ahead do. Their calls are kept account of: a name that may be
called pays for one call when it is taken, and what was made before goes on as a credit.
-/

namespace Parlance

namespace Grammar

open Rule

/-- A closing token is ahead of the cursor, and where a token ahead stands, something does. -/
structure Cursor.Amid (stands : Place → Prop) (cursor : Cursor) : Prop where
  closed : cursor.Closed
  places : ∀ token ∈ cursor.rest, stands token.place

section

variable {stands : Place → Prop} {cursor next : Cursor} {taken : List Token}

theorem Cursor.Amid.current (amid : cursor.Amid stands) : stands cursor.current.place := by
  obtain ⟨rest, ahead⟩ := amid.closed.current_cons
  exact amid.places _ (ahead ▸ List.mem_cons_self)

theorem Cursor.Amid.behind (amid : cursor.Amid stands) (split : cursor.rest = taken ++ next.rest)
    (inner : ∀ token ∈ taken, token.kind ≠ .finish) : next.Amid stands where
  closed := by
    have reaches : cursor.Reaches false next := ⟨taken, split, inner, nofun⟩
    exact reaches.closed amid.closed
  places token found := amid.places token (split ▸ List.mem_append_right taken found)

end

/-- The rule takes tokens, none of them a closing one. The nodes of what it makes stand where tokens
ahead do, and their calls are paid for by what is there already and by the names among the tokens
taken. -/
def Draws (stands : Place → Prop) (mode : Mode) (behindWord : Bool) (credit : Multiset Node.Call)
    (cursor : Cursor) {α : Type} (rule : Rule α) (nodes : α → List Node) : Prop :=
  cursor.Amid stands → ∀ ⦃value next noted⦄, rule mode cursor = .done value next noted →
    ∃ taken, cursor.rest = taken ++ next.rest ∧ (∀ token ∈ taken, token.kind ≠ .finish) ∧
      Node.AllAt stands (nodes value) ∧
      Node.allCalls (nodes value) ≤
        credit + Token.calls mode.capabilities behindWord taken

theorem Reading.andThen_read {α β : Type} {reading : Reading α} {more : α → Cursor → Reading β}
    {value : β} {last : Cursor} {noted : List Recovery}
    (read : reading.andThen more = .done value last noted) :
    ∃ inner next early late, reading = .done inner next early ∧
      more inner next = .done value last late := by
  cases reading with
  | refused first => cases read
  | done inner next early =>
      simp only [Reading.andThen] at read
      split at read
      · cases read
      · rename_i later
        obtain ⟨rfl, rfl, rfl⟩ := Reading.done.inj read
        exact ⟨inner, next, early, _, rfl, later⟩

section

variable {α β : Type} {stands : Place → Prop} {mode : Mode} {behindWord : Bool}
  {credit : Multiset Node.Call} {cursor : Cursor} {nodes : β → List Node}

namespace Draws

theorem pure {value : β} (places : Node.AllAt stands (nodes value))
    (paid : Node.allCalls (nodes value) ≤ credit) :
    Draws stands mode behindWord credit cursor (Pure.pure value) nodes := by
  intro _ _ _ _ read
  obtain ⟨rfl, rfl, _⟩ := Reading.done.inj read
  exact ⟨[], rfl, List.forall_mem_nil _, places, le_trans paid (Multiset.le_add_right _ _)⟩

theorem unworded {rule : Rule β} (draws : Draws stands mode false credit cursor rule nodes) :
    Draws stands mode behindWord credit cursor rule nodes := by
  intro amid value next noted read
  obtain ⟨taken, split, inner, places, paid⟩ := draws amid read
  exact ⟨taken, split, inner, places,
    le_trans paid (add_le_add le_rfl (Token.calls_false_le taken))⟩

/-- A larger credit need not be used up. -/
theorem credited {credit' : Multiset Node.Call} {rule : Rule β}
    (draws : Draws stands mode behindWord credit cursor rule nodes) (le : credit ≤ credit') :
    Draws stands mode behindWord credit' cursor rule nodes := by
  intro amid value next noted read
  obtain ⟨taken, split, inner, places, paid⟩ := draws amid read
  exact ⟨taken, split, inner, places, le_trans paid (add_le_add le le_rfl)⟩

theorem placed {rule : Rule β}
    (draws : stands cursor.current.place → Draws stands mode behindWord credit cursor rule nodes) :
    Draws stands mode behindWord credit cursor rule nodes :=
  fun amid => draws amid.current amid

/-- What follows a rule has the calls of what it made for its own, in place of the credit that the
rule was given. -/
theorem bind_spending {rule : Rule α} {more : α → Rule β} {between : α → List Node}
    {spent : Multiset Node.Call} (first : Draws stands mode behindWord spent cursor rule between)
    (later : ∀ value next, Node.AllAt stands (between value) →
      Draws stands mode false (credit + Node.allCalls (between value)) next (more value) nodes) :
    Draws stands mode behindWord (credit + spent) cursor (rule >>= more) nodes := by
  intro amid value last noted read
  obtain ⟨inner, next, _, _, read, goesOn⟩ := Reading.andThen_read read
  obtain ⟨taken, split, open', places, paid⟩ := first amid read
  obtain ⟨rest, split', open'', places', paid'⟩ :=
    later inner next places (amid.behind split open') goesOn
  refine ⟨taken ++ rest, by rw [split, split', List.append_assoc],
    List.forall_mem_append.mpr ⟨open', open''⟩, places', le_trans paid' ?_⟩
  calc credit + Node.allCalls (between inner) + Token.calls mode.capabilities false rest
      ≤ credit + (spent + Token.calls mode.capabilities behindWord taken) +
          Token.calls mode.capabilities false rest :=
        add_le_add (add_le_add le_rfl paid) le_rfl
    _ = credit + spent + (Token.calls mode.capabilities behindWord taken +
          Token.calls mode.capabilities false rest) := by
        simp only [add_assoc]
    _ ≤ credit + spent + Token.calls mode.capabilities behindWord (taken ++ rest) :=
        add_le_add le_rfl (Token.calls_append taken rest)

theorem bind {rule : Rule α} {more : α → Rule β} {between : α → List Node}
    (first : Draws stands mode behindWord 0 cursor rule between)
    (later : ∀ value next, Node.AllAt stands (between value) →
      Draws stands mode false (credit + Node.allCalls (between value)) next (more value) nodes) :
    Draws stands mode behindWord credit cursor (rule >>= more) nodes := by
  have spending := bind_spending first later
  rwa [add_zero] at spending

theorem map {α : Type} {rule : Rule α} (f : α → β)
    (draws : Draws stands mode behindWord credit cursor rule fun value => nodes (f value)) :
    Draws stands mode behindWord credit cursor (f <$> rule) nodes := by
  intro amid last next noted read
  rw [Rule.map_apply] at read
  obtain ⟨value, _, _, _, found, done⟩ := Reading.andThen_read read
  obtain ⟨rfl, rfl, _⟩ := Reading.done.inj done
  exact draws amid found

theorem here {more : Cursor → Rule β}
    (later : Draws stands mode behindWord credit cursor (more cursor) nodes) :
    Draws stands mode behindWord credit cursor (Rule.here >>= more) nodes := by
  intro amid value next noted read
  rw [bind_apply, Rule.here, Reading.done_andThen] at read
  exact later amid read

theorem knowing {more : Capabilities → Rule β}
    (later : Draws stands mode behindWord credit cursor (more mode.capabilities) nodes) :
    Draws stands mode behindWord credit cursor (Rule.capabilities >>= more) nodes := by
  intro amid value next noted read
  rw [bind_apply, Rule.capabilities, Reading.done_andThen] at read
  exact later amid read

theorem recover {flaw : Flaw} {more : Unit → Rule β}
    (later : Draws stands mode behindWord credit cursor (more ()) nodes) :
    Draws stands mode behindWord credit cursor (Rule.recover flaw >>= more) nodes := by
  intro amid value next noted read
  rw [bind_apply, Rule.recover, recoverAt] at read
  split at read
  · cases read
  · obtain ⟨_, _, _, _, first, goesOn⟩ := Reading.andThen_read read
    obtain ⟨rfl, rfl, _⟩ := Reading.done.inj first
    exact later amid goesOn

theorem noting {flaw : Flaw} {nodes : Unit → List Node} (none : nodes () = []) :
    Draws stands mode behindWord credit cursor (Rule.recover flaw) nodes := by
  intro amid value next noted read
  rw [Rule.recover, recoverAt] at read
  split at read
  · cases read
  · obtain ⟨rfl, rfl, _⟩ := Reading.done.inj read
    have nothing : Node.allCalls (nodes ()) = 0 := by rw [none, Node.allCalls_nil]
    exact ⟨[], rfl, List.forall_mem_nil _, by simp [none], nothing ▸ Multiset.zero_le _⟩

/-- The token at the cursor is taken, and pays for what the rest may be given besides. -/
theorem taking {rule : Rule α} {more : α → Rule β} {value : α} (behindNext : Bool)
    (gain : Multiset Node.Call) (other : cursor.current.kind ≠ .finish)
    (reads : rule mode cursor = .done value cursor.advance [])
    (pays : ∀ rest, gain + Token.calls mode.capabilities behindNext rest ≤
      Token.calls mode.capabilities behindWord (cursor.current :: rest))
    (later : Draws stands mode behindNext (credit + gain) cursor.advance (more value) nodes) :
    Draws stands mode behindWord credit cursor (rule >>= more) nodes := by
  intro amid last next noted read
  rw [bind_apply, reads, Reading.done_andThen] at read
  have split := Cursor.rest_eq_cons other
  have inner : ∀ token ∈ [cursor.current], token.kind ≠ .finish :=
    List.forall_mem_singleton.mpr other
  have behind : cursor.advance.Amid stands := amid.behind split inner
  obtain ⟨rest, split', inner', places, paid⟩ := later behind read
  refine ⟨cursor.current :: rest, by rw [split, split', List.cons_append],
    List.forall_mem_cons.mpr ⟨other, inner'⟩, places, le_trans paid ?_⟩
  rw [add_assoc]
  exact add_le_add le_rfl (pays rest)

/-- A closing token is read but not taken. -/
theorem next {more : Token → Rule β}
    (later : stands cursor.current.place →
      Draws stands mode false credit cursor.advance (more cursor.current) nodes) :
    Draws stands mode behindWord credit cursor (Rule.next >>= more) nodes := by
  apply placed
  intro place
  by_cases finish : cursor.current.kind = .finish
  · -- the cursor does not move, so what follows draws from where it stands
    have ends : cursor.atEnd = true := decide_eq_true finish
    have stays := Cursor.advance_atEnd ends
    have here := later place
    rw [stays] at here
    intro amid value next noted read
    rw [bind_apply, Rule.next, Reading.done_andThen, stays] at read
    exact here.unworded amid read
  · refine taking false 0 finish rfl (fun rest => ?_) (by simpa using later place)
    rw [zero_add]
    exact le_trans (Token.calls_false_le rest) (Token.calls_tail _ _ rest)

theorem nextWord {more : Token → Rule β} (word : cursor.current.keyword? = some .call)
    (later : Draws stands mode true credit cursor.advance (more cursor.current) nodes) :
    Draws stands mode behindWord credit cursor (Rule.next >>= more) nodes := by
  rw [← add_zero credit] at later
  refine taking true 0 (Token.ne_finish_of_keyword? word) rfl (fun rest => ?_) later
  rw [zero_add]
  simpa [word] using Token.calls_tail behindWord cursor.current rest

/-- A name that may be called is taken, and pays for a call. -/
theorem nextCallee {more : Token → Rule β} (named : cursor.current.mayName = true)
    (allowed : behindWord = true ∨
      mode.capabilities.allowsImplicitCall cursor.current.lexeme = true)
    (later : stands cursor.current.place → Draws stands mode false (credit + {cursor.current.call})
      cursor.advance (more cursor.current) nodes) :
    Draws stands mode behindWord credit cursor (Rule.next >>= more) nodes := by
  apply placed
  intro place
  exact taking false _ (Token.ne_finish_of_mayName named) rfl (Token.calls_callee named allowed)
    (later place)

theorem tested {test : Bool} {rule : Rule Bool} {more : Bool → Rule β}
    (reads : rule mode cursor =
      if test then .done true cursor.advance [] else .done false cursor [])
    (other : test = true → cursor.current.kind ≠ .finish)
    (yes : Draws stands mode false credit cursor.advance (more true) nodes)
    (no : Draws stands mode behindWord credit cursor (more false) nodes) :
    Draws stands mode behindWord credit cursor (rule >>= more) nodes := by
  cases test with
  | true =>
      refine taking false 0 (other rfl) (by simpa using reads) (fun rest => ?_) (by simpa using yes)
      rw [zero_add]
      exact le_trans (Token.calls_false_le rest) (Token.calls_tail _ _ rest)
  | false =>
      intro amid value next noted read
      rw [bind_apply, reads] at read
      exact no amid (by simpa using read)

theorem accept {keyword : Keyword} {more : Bool → Rule β}
    (yes : Draws stands mode false credit cursor.advance (more true) nodes)
    (no : Draws stands mode behindWord credit cursor (more false) nodes) :
    Draws stands mode behindWord credit cursor (Rule.accept keyword >>= more) nodes :=
  tested rfl (fun found => Token.ne_finish_of_keyword? (of_decide_eq_true found)) yes no

theorem acceptSymbol {symbol : String} {more : Bool → Rule β}
    (yes : Draws stands mode false credit cursor.advance (more true) nodes)
    (no : Draws stands mode behindWord credit cursor (more false) nodes) :
    Draws stands mode behindWord credit cursor (Rule.acceptSymbol symbol >>= more) nodes :=
  tested rfl Token.ne_finish_of_isSymbol yes no

end Draws

def Drawing (stands : Place → Prop) (mode : Mode) (credit : Multiset Node.Call) (rule : Rule β)
    (nodes : β → List Node) : Prop :=
  ∀ cursor, Draws stands mode false credit cursor rule nodes

/-- A rule that calls itself draws so, if its last resort does and each of its rounds, where the
calls that are granted do. The induction is on the number of tokens ahead. -/
theorem drawing_tie {γ : Type} {resort : γ → Rule β} {round : (γ → Rule β) → γ → Rule β}
    (admits : γ → Prop) (credit : γ → Multiset Node.Call)
    (resorts : ∀ goal, admits goal → Drawing stands mode (credit goal) (resort goal) nodes)
    (rounds : ∀ self, (∀ goal, admits goal → Drawing stands mode (credit goal) (self goal) nodes) →
      ∀ goal, admits goal → Drawing stands mode (credit goal) (round self goal) nodes)
    (goal : γ) (admitted : admits goal) :
    Drawing stands mode (credit goal) (tie resort round goal) nodes := by
  intro cursor
  induction ahead : cursor.rest.length using Nat.strongRecOn generalizing goal cursor with
  | ind length ih =>
      subst ahead
      have selves : ∀ goal, admits goal → Drawing stands mode (credit goal)
          (granted cursor (tie resort round) resort goal) nodes := by
        intro goal admitted next amid value last noted read
        simp only [granted] at read
        split at read
        · rename_i shorter
          exact ih _ shorter goal admitted next rfl amid read
        · exact resorts goal admitted next amid read
      intro amid value next noted read
      rw [tie_apply] at read
      exact rounds _ selves goal admitted cursor amid read

end

end Grammar

end Parlance
