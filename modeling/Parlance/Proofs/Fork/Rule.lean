import Parlance.Proofs.Fork.Cursor
import Parlance.Proofs.Reading.Agree
import Parlance.Proofs.Reading.Callee

/-!
Rules of two readers. A rule follows another if, at cursors side by side, it reads what the other
reads without a note; where both find the same behind the tokens that they share, it follows with
the notes as well. The names that are called are names that both readers treat alike.
-/

namespace Parlance.Grammar

open Rule

/-- At cursors side by side: what the left rule reads without a note, or in an exact comparison
whatever it reads, the right one reads too, the names it calls are common, and the cursors behind
are side by side again. -/
def FollowsAt (fork : Fork) (cursor cursor' : Cursor) {α : Type} [Calling α]
    (left right : Rule α) : Prop :=
  ∀ ⦃value next noted⦄, left fork.leftMode cursor = .done value next noted →
    noted = [] ∨ fork.Exact → fork.Common (callees value) ∧
      ∃ next', right fork.rightMode cursor' = .done value next' noted ∧ fork.Beside next next'

def Follows (fork : Fork) {α : Type} [Calling α] (left right : Rule α) : Prop :=
  ∀ ⦃cursor cursor'⦄, fork.Beside cursor cursor' → FollowsAt fork cursor cursor' left right

section

variable {α β : Type} [Calling α] [Calling β] {fork : Fork} {cursor cursor' : Cursor}

namespace FollowsAt

theorem pure {value : α} (beside : fork.Beside cursor cursor')
    (common : fork.Common (callees value)) :
    FollowsAt fork cursor cursor' (Pure.pure value) (Pure.pure value) := by
  intro value' next noted read _
  obtain ⟨rfl, rfl, rfl⟩ := Reading.done.inj read
  exact ⟨common, cursor', rfl, beside⟩

theorem bind_known {left right : Rule α} {more more' : α → Rule β}
    (first : FollowsAt fork cursor cursor' left right)
    (later : ∀ value next noted, left fork.leftMode cursor = .done value next noted →
      fork.Common (callees value) → ∀ next', fork.Beside next next' →
        FollowsAt fork next next' (more value) (more' value)) :
    FollowsAt fork cursor cursor' (left >>= more) (right >>= more') := by
  intro value last noted read quiet
  rw [bind_apply] at read
  -- the left reader went on behind what it read first, and either part is as quiet as the whole
  cases result : left fork.leftMode cursor with
  | refused first => simp [result, Reading.andThen] at read
  | done value' next noted' =>
      cases goesOn : more value' fork.leftMode next with
      | refused first => simp [result, Reading.andThen, goesOn] at read
      | done value'' last' noted'' =>
          simp only [result, Reading.andThen, goesOn] at read
          obtain ⟨rfl, rfl, rfl⟩ := Reading.done.inj read
          obtain ⟨quiet', quiet''⟩ : (noted' = [] ∨ fork.Exact) ∧ (noted'' = [] ∨ fork.Exact) := by
            simpa only [List.append_eq_nil_iff, and_or_right] using quiet
          obtain ⟨common, next', result', beside⟩ := first result quiet'
          obtain ⟨common', last', goesOn', beside'⟩ :=
            later value' next noted' result common next' beside goesOn quiet''
          exact ⟨common', last', by simp [result', Reading.andThen, goesOn'], beside'⟩

theorem bind {left right : Rule α} {more more' : α → Rule β}
    (first : FollowsAt fork cursor cursor' left right)
    (later : ∀ value next next', fork.Beside next next' → fork.Common (callees value) →
      FollowsAt fork next next' (more value) (more' value)) :
    FollowsAt fork cursor cursor' (left >>= more) (right >>= more') :=
  bind_known first fun value next _ _ common next' beside => later value next next' beside common

theorem map {left right : Rule α} (f : α → β)
    (follows : FollowsAt fork cursor cursor' left right)
    (keeps : ∀ value, fork.Common (callees value) → fork.Common (callees (f value))) :
    FollowsAt fork cursor cursor' (f <$> left) (f <$> right) :=
  bind follows fun value _ _ beside common => pure beside (keeps value common)

theorem here {more more' : Cursor → Rule β}
    (later : FollowsAt fork cursor cursor' (more cursor) (more' cursor')) :
    FollowsAt fork cursor cursor' (Rule.here >>= more) (Rule.here >>= more') := by
  intro value next noted read quiet
  rw [bind_apply, Rule.here, Reading.done_andThen] at read
  rw [bind_apply, Rule.here, Reading.done_andThen]
  exact later read quiet

theorem knowing {more more' : Capabilities → Rule β}
    (later : FollowsAt fork cursor cursor' (more fork.left) (more' fork.right)) :
    FollowsAt fork cursor cursor' (Rule.capabilities >>= more)
      (Rule.capabilities >>= more') := by
  intro value next noted read quiet
  rw [bind_apply, Rule.capabilities, Reading.done_andThen] at read
  rw [bind_apply, Rule.capabilities, Reading.done_andThen]
  exact later read quiet

theorem next {more more' : Token → Rule β} (beside : fork.Beside cursor cursor')
    (other : cursor.current.kind ≠ .finish)
    (later : fork.Beside cursor.advance cursor'.advance →
      FollowsAt fork cursor.advance cursor'.advance (more cursor.current)
        (more' cursor.current)) :
    FollowsAt fork cursor cursor' (Rule.next >>= more) (Rule.next >>= more') := by
  intro value last noted read quiet
  rw [bind_apply, Rule.next, Reading.done_andThen] at read
  rw [bind_apply, Rule.next, Reading.done_andThen, beside.current_eq other]
  exact later (beside.advance other) read quiet

/-- A token is taken by both if it passes a test that is the same for both, and no closing one
does. -/
theorem tested {test : Bool} {left right : Rule Bool} {more more' : Bool → Rule β}
    (beside : fork.Beside cursor cursor')
    (reads : left fork.leftMode cursor =
      if test then .done true cursor.advance [] else .done false cursor [])
    (reads' : right fork.rightMode cursor' =
      if test then .done true cursor'.advance [] else .done false cursor' [])
    (other : test = true → cursor.current.kind ≠ .finish)
    (yes : fork.Beside cursor.advance cursor'.advance →
      FollowsAt fork cursor.advance cursor'.advance (more true) (more' true))
    (no : FollowsAt fork cursor cursor' (more false) (more' false)) :
    FollowsAt fork cursor cursor' (left >>= more) (right >>= more') := by
  intro value last noted read quiet
  rw [bind_apply, reads] at read
  rw [bind_apply, reads']
  cases test with
  | true =>
      simp only [↓reduceIte, Reading.done_andThen] at read ⊢
      exact yes (beside.advance (other rfl)) read quiet
  | false =>
      simp only [Bool.false_eq_true, ↓reduceIte, Reading.done_andThen] at read ⊢
      exact no read quiet

theorem accept {keyword : Keyword} {more more' : Bool → Rule β}
    (beside : fork.Beside cursor cursor')
    (yes : fork.Beside cursor.advance cursor'.advance →
      FollowsAt fork cursor.advance cursor'.advance (more true) (more' true))
    (no : FollowsAt fork cursor cursor' (more false) (more' false)) :
    FollowsAt fork cursor cursor' (Rule.accept keyword >>= more)
      (Rule.accept keyword >>= more') :=
  tested beside rfl (by rw [Rule.accept, beside.isAt_eq])
    (fun found => Token.ne_finish_of_keyword? (of_decide_eq_true found)) yes no

theorem accepting {keyword : Keyword} (beside : fork.Beside cursor cursor') :
    FollowsAt fork cursor cursor' (Rule.accept keyword) (Rule.accept keyword) := by
  have both : FollowsAt fork cursor cursor' (Rule.accept keyword >>= Pure.pure)
      (Rule.accept keyword >>= Pure.pure) :=
    accept beside (fun beside => pure beside Fork.common_nil) (pure beside Fork.common_nil)
  intro value next noted read quiet
  simpa only [bind_apply, pure_apply, Reading.andThen_done] using
    both (by simpa only [bind_apply, pure_apply, Reading.andThen_done] using read) quiet

theorem acceptSymbol {symbol : String} {more more' : Bool → Rule β}
    (beside : fork.Beside cursor cursor') (other : symbol ≠ ";")
    (yes : fork.Beside cursor.advance cursor'.advance →
      FollowsAt fork cursor.advance cursor'.advance (more true) (more' true))
    (no : FollowsAt fork cursor cursor' (more false) (more' false)) :
    FollowsAt fork cursor cursor' (Rule.acceptSymbol symbol >>= more)
      (Rule.acceptSymbol symbol >>= more') :=
  tested beside rfl (by rw [Rule.acceptSymbol, beside.isAtSymbol_eq other])
    Token.ne_finish_of_isSymbol yes no

/-- Only in an exact comparison something is claimed behind a note, and there the cursors are the
same. -/
theorem recover {flaw flaw' : Flaw} {more more' : Unit → Rule β}
    (beside : fork.Beside cursor cursor') (same : cursor' = cursor → flaw' = flaw)
    (later : cursor' = cursor → FollowsAt fork cursor cursor' (more ()) (more' ())) :
    FollowsAt fork cursor cursor' (Rule.recover flaw >>= more)
      (Rule.recover flaw' >>= more') := by
  intro value next noted read quiet
  have left : Rule.recover flaw fork.leftMode cursor =
      .done () cursor [⟨flaw, cursor.current.place⟩] := rfl
  rw [bind_apply, left, Reading.andThen] at read
  cases goesOn : more () fork.leftMode cursor with
  | refused first => simp [goesOn] at read
  | done value' next' noted' =>
      simp only [goesOn] at read
      obtain ⟨rfl, rfl, rfl⟩ := Reading.done.inj read
      have exact' : fork.Exact := quiet.resolve_left (by simp)
      have cursors := beside.eq_of_exact exact'
      obtain ⟨common, last, goesOn', beside'⟩ := later cursors goesOn (Or.inr exact')
      refine ⟨common, last, ?_, beside'⟩
      have right : Rule.recover flaw' fork.rightMode cursor' =
          .done () cursor' [⟨flaw, cursor.current.place⟩] := by
        rw [same cursors, cursors]
        rfl
      simp [right, Reading.andThen, goesOn']

/-- Where the cursors differ nothing is claimed of a left rule that notes something. -/
theorem parted {flaw : Flaw} {more : Unit → Rule β} {right : Rule β}
    (beside : fork.Beside cursor cursor') (differ : cursor' ≠ cursor) :
    FollowsAt fork cursor cursor' (Rule.recover flaw >>= more) right := by
  intro value next noted read quiet
  rcases quiet with rfl | exact'
  · obtain ⟨_, _, read, _⟩ := Reading.andThen_clean read
    exact absurd read recover_noted
  · exact absurd (beside.eq_of_exact exact') differ

theorem noting (flaw : Flaw) (beside : fork.Beside cursor cursor') :
    FollowsAt fork cursor cursor' (Rule.recover flaw) (Rule.recover flaw) := by
  intro value next noted read quiet
  obtain ⟨rfl, rfl, rfl⟩ := Reading.done.inj (show Reading.done () cursor _ = _ from read)
  obtain rfl := beside.eq_of_exact (quiet.resolve_left (by simp))
  exact ⟨Fork.common_nil, _, rfl, beside⟩

theorem tie {γ : Type} (allowed : γ → Cursor → Prop) {resort resort' : γ → Rule β}
    {round round' : (γ → Rule β) → γ → Rule β}
    (resorts : ∀ ⦃goal cursor cursor'⦄, allowed goal cursor → fork.Beside cursor cursor' →
      FollowsAt fork cursor cursor' (resort goal) (resort' goal))
    (rounds : ∀ self self',
      (∀ ⦃goal cursor cursor'⦄, allowed goal cursor → fork.Beside cursor cursor' →
        FollowsAt fork cursor cursor' (self goal) (self' goal)) →
      ∀ ⦃goal cursor cursor'⦄, allowed goal cursor → fork.Beside cursor cursor' →
        FollowsAt fork cursor cursor' (round self goal) (round' self' goal))
    {goal : γ} (held : allowed goal cursor) (beside : fork.Beside cursor cursor') :
    FollowsAt fork cursor cursor' (Rule.tie resort round goal) (Rule.tie resort' round' goal) := by
  -- rules that call themselves: the induction is on the number of tokens ahead of the left reader,
  -- and the rules are asked for what is allowed where they begin
  induction ahead : cursor.rest.length using Nat.strongRecOn generalizing goal cursor cursor' with
  | ind length ih =>
      subst ahead
      have granted : ∀ ⦃goal next next'⦄, allowed goal next → fork.Beside next next' →
          FollowsAt fork next next' (granted cursor (Rule.tie resort round) resort goal)
            (granted cursor' (Rule.tie resort' round') resort' goal) := by
        intro goal next next' held beside' value last noted read quiet
        simp only [Rule.granted] at read ⊢
        -- the readers may have different numbers of tokens ahead, but take the same number
        by_cases shorter : next.rest.length < cursor.rest.length
        · have shorter' := (beside'.shorter_iff beside).mpr shorter
          simp only [shorter, ↓reduceIte] at read
          simp only [shorter', ↓reduceIte]
          exact ih _ shorter held beside' rfl read quiet
        · have longer' := mt (beside'.shorter_iff beside).mp shorter
          simp only [shorter, ↓reduceIte] at read
          simp only [longer', ↓reduceIte]
          exact resorts held beside' read quiet
      intro value next noted read quiet
      rw [tie_apply] at read ⊢
      exact rounds _ _ granted held beside read quiet

theorem loop {resort resort' : Unit → Rule β} {round round' : (Unit → Rule β) → Unit → Rule β}
    (resorts : Follows fork (resort ()) (resort' ()))
    (rounds : ∀ self self', Follows fork (self ()) (self' ()) →
      Follows fork (round self ()) (round' self' ()))
    (beside : fork.Beside cursor cursor') :
    FollowsAt fork cursor cursor' (Rule.tie resort round ()) (Rule.tie resort' round' ()) :=
  tie (fun _ _ => True) (fun _ _ _ _ beside => resorts beside)
    (fun self self' selves _ _ _ _ beside =>
      rounds self self' (fun _ _ beside => selves trivial beside) beside) trivial beside

theorem quiet {value : α} (beside : fork.Beside cursor cursor') (none : callees value = []) :
    FollowsAt fork cursor cursor' (Pure.pure value) (Pure.pure value) :=
  pure beside (none ▸ Fork.common_nil)

end FollowsAt

end

end Parlance.Grammar
