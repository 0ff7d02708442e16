import Parlance.Proofs.Spelling.Token

/-!
Readings of tokens spelled anew. Two readings are similar if their values are related, the tokens
behind them are still the same but for their spelling, and the recoveries are of the same kinds at
the same places. Each way to build a rule from others keeps similarity.
-/

namespace Parlance.Grammar

/-- Of the same kind and at the same place; the messages may spell keywords differently. -/
structure Recovery.Similar (left right : Recovery) : Prop where
  kind_eq : right.kind = left.kind
  place_eq : right.place = left.place

variable {α β γ : Type} {same : α → α → Prop} {same' : β → β → Prop}

def Reading.Similar (same : α → α → Prop) : Reading α → Reading α → Prop
  | .done value next noted, .done value' next' noted' =>
      same value value' ∧ next.Respelt next' ∧ List.Forall₂ Recovery.Similar noted noted'
  | .refused first, .refused first' => first.Similar first'
  | _, _ => False

/-- Similar readings are both refused or both done. -/
theorem Reading.Similar.cases {left right : Reading α} (similar : Reading.Similar same left right) :
    (∃ first first', left = .refused first ∧ right = .refused first' ∧ first.Similar first') ∨
      ∃ value value' next next' noted noted', left = .done value next noted ∧
        right = .done value' next' noted' ∧ same value value' ∧ next.Respelt next' ∧
          List.Forall₂ Recovery.Similar noted noted' := by
  cases left with
  | refused first =>
      cases right with
      | refused first' => exact Or.inl ⟨first, first', rfl, rfl, similar⟩
      | done value' next' noted' => exact similar.elim
  | done value next noted =>
      cases right with
      | refused first' => exact similar.elim
      | done value' next' noted' =>
          exact Or.inr ⟨value, value', next, next', noted, noted', rfl, rfl, similar⟩

theorem Reading.Similar.andThen {left right : Reading α} {more more' : α → Cursor → Reading β}
    (first : Reading.Similar same left right)
    (later : ∀ value value' next next', same value value' → next.Respelt next' →
      Reading.Similar same' (more value next) (more' value' next')) :
    Reading.Similar same' (left.andThen more) (right.andThen more') := by
  rcases first.cases with ⟨refusal, refusal', rfl, rfl, alike⟩ |
    ⟨value, value', next, next', noted, noted', rfl, rfl, related, near, notes⟩
  · exact alike
  · have second := later value value' next next' related near
    rcases second.cases with ⟨refusal, refusal', stops, stops', alike⟩ |
      ⟨last, last', behind, behind', added, added', ends, ends', related', near', notes'⟩
    · simp only [Reading.andThen, stops, stops']
      exact alike
    · simp only [Reading.andThen, ends, ends']
      exact ⟨related', near', List.rel_append notes notes'⟩

/-- Rules that read similarly wherever the tokens ahead differ in spelling alone. -/
def Rule.Resembles (mode : Mode) (same : α → α → Prop) (left right : Rule α) : Prop :=
  ∀ cursor cursor' : Cursor, cursor.Respelt cursor' →
    Reading.Similar same (left mode cursor) (right mode cursor')

namespace Rule

open Reading (Similar)

variable {mode : Mode} {cursor cursor' : Cursor}

theorem similar_pure (near : cursor.Respelt cursor') {value value' : α}
    (related : same value value') :
    Similar same ((pure value : Rule α) mode cursor) ((pure value' : Rule α) mode cursor') :=
  ⟨related, near, .nil⟩

theorem similar_bind {left right : Rule α} {more more' : α → Rule β}
    (first : Similar same (left mode cursor) (right mode cursor'))
    (later : ∀ value value' next next', same value value' → next.Respelt next' →
      Similar same' (more value mode next) (more' value' mode next')) :
    Similar same' ((left >>= more) mode cursor) ((right >>= more') mode cursor') :=
  first.andThen later

theorem similar_map {left right : Rule α} (f : α → β)
    (first : Similar same (left mode cursor) (right mode cursor'))
    (maps : ∀ value value', same value value' → same' (f value) (f value')) :
    Similar same' ((f <$> left) mode cursor) ((f <$> right) mode cursor') :=
  similar_bind first fun value value' _ _ related near => ⟨maps value value' related, near, .nil⟩

theorem similar_here {more more' : Cursor → Rule β}
    (later : Similar same' (more cursor mode cursor) (more' cursor' mode cursor')) :
    Similar same' ((here >>= more) mode cursor) ((here >>= more') mode cursor') := by
  -- whatever looks at where a rule begins is compared there
  simpa only [bind_apply, here, Reading.done_andThen] using later

theorem similar_capabilities {more more' : Capabilities → Rule β}
    (later : Similar same' (more mode.capabilities mode cursor)
      (more' mode.capabilities mode cursor')) :
    Similar same' ((capabilities >>= more) mode cursor)
      ((capabilities >>= more') mode cursor') := by
  simpa only [bind_apply, capabilities, Reading.done_andThen] using later

theorem similar_next {more more' : Token → Rule β}
    (later : Similar same' (more cursor.current mode cursor.advance)
      (more' cursor'.current mode cursor'.advance)) :
    Similar same' ((next >>= more) mode cursor) ((next >>= more') mode cursor') := by
  -- the token read is the one at the cursor
  simpa only [bind_apply, next, Reading.done_andThen] using later

theorem similar_accept (keyword : Keyword) (near : cursor.Respelt cursor') :
    Similar Eq (accept keyword mode cursor) (accept keyword mode cursor') := by
  simp only [accept, near.isAt_eq]
  split
  · exact ⟨rfl, near.advance, .nil⟩
  · exact ⟨rfl, near, .nil⟩

theorem similar_acceptSymbol (symbol : String) (near : cursor.Respelt cursor') :
    Similar Eq (acceptSymbol symbol mode cursor) (acceptSymbol symbol mode cursor') := by
  simp only [acceptSymbol, near.isAtSymbol_eq]
  split
  · exact ⟨rfl, near.advance, .nil⟩
  · exact ⟨rfl, near, .nil⟩

theorem similar_recover {flaw flaw' : Flaw} (kind : flaw'.kind = flaw.kind)
    (near : cursor.Respelt cursor') :
    Similar Eq (recover flaw mode cursor) (recover flaw' mode cursor') := by
  have noted : Recovery.Similar ⟨flaw, cursor.current.place⟩ ⟨flaw', cursor'.current.place⟩ :=
    ⟨kind, near.current.place_eq⟩
  simp only [recover, recoverAt]
  split
  · exact noted
  · exact ⟨rfl, near, .cons noted .nil⟩

theorem similar_recover_pure {flaw flaw' : Flaw} (kind : flaw'.kind = flaw.kind)
    (near : cursor.Respelt cursor') {value value' : α} (related : same value value') :
    Similar same ((recover flaw >>= fun _ => pure value) mode cursor)
      ((recover flaw' >>= fun _ => pure value') mode cursor') :=
  similar_bind (similar_recover kind near) fun _ _ _ _ _ behind => similar_pure behind related

theorem similar_goTo {target target' : Cursor} (near : target.Respelt target') :
    Similar Eq (goTo target mode cursor) (goTo target' mode cursor') :=
  ⟨rfl, near, .nil⟩

theorem similar_within {inner inner' : Rule α} {tokens tokens' : List Token}
    (inners : Rule.Resembles mode same inner inner') (respelt : Token.AllRespelt tokens tokens')
    (near : cursor.Respelt cursor') :
    Similar same (within tokens inner mode cursor) (within tokens' inner' mode cursor') := by
  have read := inners (.ofTokens tokens) (.ofTokens tokens') ⟨respelt, rfl⟩
  simp only [within]
  rcases read.cases with ⟨refusal, refusal', stops, stops', alike⟩ |
    ⟨value, value', next, next', noted, noted', ends, ends', related, _, notes⟩
  · rw [stops, stops']
    exact alike
  · rw [ends, ends']
    exact ⟨related, near, notes⟩

/-! ### Rules that call themselves -/

theorem similar_tie (goals : γ → γ → Prop) {resort resort' : γ → Rule β}
    {step step' : (γ → Rule β) → γ → Rule β}
    (resorts : ∀ goal goal', goals goal goal' →
      Rule.Resembles mode same' (resort goal) (resort' goal'))
    (steps : ∀ self self',
      (∀ goal goal', goals goal goal' → Rule.Resembles mode same' (self goal) (self' goal')) →
        ∀ goal goal', goals goal goal' →
          Rule.Resembles mode same' (step self goal) (step' self' goal'))
    {goal goal' : γ} (related : goals goal goal') :
    Rule.Resembles mode same' (tie resort step goal) (tie resort' step' goal') := by
  -- a rule in terms of itself: what holds of the calls that the step makes holds of the step. The
  -- depth is the number of tokens ahead, which spelling does not change
  have bounded : ∀ depth goal goal', goals goal goal' → Rule.Resembles mode same'
      (tieWithin resort step depth goal) (tieWithin resort' step' depth goal') := by
    intro depth
    induction depth with
    | zero => exact resorts
    | succ depth ih =>
        intro goal goal' related cursor cursor' near
        refine steps _ _ ?_ goal goal' related cursor cursor' near
        intro inner inner' related' next next' near'
        simp only [granted, near.length_eq, near'.length_eq]
        split
        · exact ih inner inner' related' next next' near'
        · exact resorts inner inner' related' next next' near'
  intro cursor cursor' near
  simp only [tie, near.length_eq]
  exact bounded _ goal goal' related cursor cursor' near

end Rule

end Parlance.Grammar
