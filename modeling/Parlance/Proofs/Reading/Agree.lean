import Parlance.Proofs.Reading.Near

/-!
Rules side by side. A lenient rule never refuses and never goes back. Rules agree from cursors that
belong together if the right one reads what the left one reads without recoveries; in an exact
comparison it notes what the left one notes, or, if it is strict, refuses the first of it.
-/

namespace Parlance.Grammar

open Rule

namespace Reading

variable {α : Type}

/-- The reading goes on from a cursor, and what is left lies ahead of that. -/
def Forward (start : Cursor) : Reading α → Prop
  | .done _ next _ => next.rest <:+ start.rest
  | .refused _ => False

theorem Forward.done {start : Cursor} {reading : Reading α} (forward : reading.Forward start) :
    ∃ value next recoveries, reading = .done value next recoveries ∧ next.rest <:+ start.rest := by
  cases reading with
  | done value next recoveries => exact ⟨value, next, recoveries, rfl, forward⟩
  | refused first => exact forward.elim

theorem Forward.andThen {β : Type} {start : Cursor} {reading : Reading α}
    (forward : reading.Forward start) {more : α → Cursor → Reading β}
    (later : ∀ value next, (more value next).Forward next) :
    (reading.andThen more).Forward start := by
  obtain ⟨value, next, recoveries, rfl, suffix⟩ := forward.done
  obtain ⟨value', next', recoveries', result, suffix'⟩ := (later value next).done
  simp only [Reading.andThen, result]
  exact suffix'.trans suffix

theorem andThen_done (reading : Reading α) :
    (reading.andThen fun value next => .done value next []) = reading := by
  cases reading <;> simp [andThen]

theorem andThen_assoc {β γ : Type} (reading : Reading α) (more : α → Cursor → Reading β)
    (last : β → Cursor → Reading γ) :
    (reading.andThen more).andThen last =
      reading.andThen fun value next => (more value next).andThen last := by
  cases reading with
  | refused first => rfl
  | done value next recoveries =>
      simp only [andThen]
      cases more value next with
      | refused first => rfl
      | done value next later =>
          simp only
          cases last value next <;> simp

theorem andThen_clean {β : Type} {reading : Reading α} {more : α → Cursor → Reading β}
    {value : β} {next : Cursor} (clean : reading.andThen more = .done value next []) :
    ∃ first middle, reading = .done first middle [] ∧ more first middle = .done value next [] := by
  cases reading with
  | refused flaw => cases clean
  | done first middle noted =>
      simp only [Reading.andThen] at clean
      split at clean
      · cases clean
      · rename_i result
        obtain ⟨rfl, rfl, none⟩ := Reading.done.inj clean
        obtain ⟨rfl, rfl⟩ := List.append_eq_nil_iff.mp none
        exact ⟨first, middle, rfl, result⟩

end Reading

theorem recover_noted {mode : Mode} {cursor : Cursor} {flaw : Flaw} {value : Unit} {next : Cursor} :
    recover flaw mode cursor ≠ .done value next [] := by
  simp only [recover, recoverAt]
  split <;> simp

section

variable {α β : Type} (pairing : Pairing)

/-- A left reading without recoveries is met by the same on the right. Of one with recoveries
something is known only in an exact comparison. -/
def Meets (settled : Bool) : Reading α → Reading α → Prop
  | .done value next [], right =>
      ∃ next', right = .done value next' [] ∧ Near pairing settled next next'
  | .done value next (first :: rest), right =>
      pairing.exact = true →
        if pairing.strict then right = .refused first
        else ∃ next', right = .done value next' (first :: rest) ∧ Near pairing settled next next'
  | .refused _, _ => False

structure Agree (start : Cursor → Cursor → Prop) (settled : Bool) (left right : Rule α) :
    Prop where
  forward : ∀ cursor, (left pairing.left cursor).Forward cursor
  meets : ∀ cursor cursor', start cursor cursor' →
    Meets pairing settled (left pairing.left cursor) (right pairing.right cursor')

def AtToken (cursor cursor' : Cursor) : Prop :=
  Near pairing false cursor cursor' ∧ (pairing.exact = true ∨ cursor.current.kind ≠ .finish)

variable {pairing} {start start' : Cursor → Cursor → Prop} {settled : Bool}

theorem Agree.mono {left right : Rule α} (agree : Agree pairing start settled left right)
    (within : ∀ cursor cursor', start' cursor cursor' → start cursor cursor') :
    Agree pairing start' settled left right :=
  ⟨agree.forward, fun cursor cursor' held => agree.meets cursor cursor' (within _ _ held)⟩

theorem agree_pure {value : α} :
    Agree pairing (Near pairing settled) settled (pure value) (pure value) where
  forward _ := List.suffix_rfl
  meets _ cursor' near := ⟨cursor', rfl, near⟩

theorem agree_pure_of {value value' : α}
    (near : ∀ cursor cursor', start cursor cursor' → Near pairing settled cursor cursor')
    (same : ∀ cursor cursor', start cursor cursor' → value' = value) :
    Agree pairing start settled (pure value) (pure value') where
  forward _ := List.suffix_rfl
  meets cursor cursor' held := by
    rw [same cursor cursor' held]
    exact ⟨cursor', rfl, near cursor cursor' held⟩

theorem Meets.andThen {middle : Bool} {left right : Reading α} {more more' : α → Cursor → Reading β}
    (meets : Meets pairing middle left right)
    (goes : ∀ value next, ∃ start, (more value next).Forward start)
    (later : ∀ value next recoveries next', left = .done value next recoveries →
      Near pairing middle next next' →
        Meets pairing settled (more value next) (more' value next')) :
    Meets pairing settled (left.andThen more) (right.andThen more') := by
  match left with
  | .refused _ => exact meets.elim
  | .done value next [] =>
      obtain ⟨next', rfl, near⟩ := meets
      rw [Reading.done_andThen, Reading.done_andThen]
      exact later value next [] next' rfl near
  | .done value next (first :: rest) =>
      obtain ⟨start, forward⟩ := goes value next
      obtain ⟨value', last, recoveries, result, _⟩ := forward.done
      simp only [Reading.andThen, result]
      -- behind a note only exact comparisons go on; a strict reader has refused there
      intro exact'
      have known := meets exact'
      by_cases strict : pairing.strict = true
      · simp only [strict, ↓reduceIte] at known ⊢
        rw [known]
      · simp only [strict] at known ⊢
        obtain ⟨next', rfl, near⟩ := known
        have met := later value next _ next' rfl near
        rw [result] at met
        cases recoveries with
        | nil =>
            obtain ⟨last', result', near'⟩ := met
            exact ⟨last', by simp [result'], near'⟩
        | cons second others =>
            have known := met exact'
            simp only [strict] at known
            obtain ⟨last', result', near'⟩ := known
            exact ⟨last', by simp [result'], near'⟩

/-- What follows a rule may count on what is known of the rule's value and the cursor behind it. -/
theorem agree_bind_known {middle : Bool} {left right : Rule α} {more more' : α → Rule β}
    {post : α → Cursor → Prop} (first : Agree pairing start middle left right)
    (known : ∀ cursor value next recoveries,
      left pairing.left cursor = .done value next recoveries → post value next)
    (later : ∀ value, Agree pairing
      (fun cursor cursor' => Near pairing middle cursor cursor' ∧ post value cursor) settled
      (more value) (more' value)) :
    Agree pairing start settled (left >>= more) (right >>= more') where
  forward cursor := (first.forward cursor).andThen fun value next => (later value).forward next
  meets cursor cursor' held :=
    (first.meets cursor cursor' held).andThen
      (fun value next => ⟨next, (later value).forward next⟩)
      fun value next recoveries next' result near =>
        (later value).meets next next' ⟨near, known cursor value next recoveries result⟩

theorem agree_bind {middle : Bool} {left right : Rule α} {more more' : α → Rule β}
    (first : Agree pairing start middle left right)
    (later : ∀ value, Agree pairing (Near pairing middle) settled (more value) (more' value)) :
    Agree pairing start settled (left >>= more) (right >>= more') := by
  have always : ∀ cursor value next recoveries,
      left pairing.left cursor = .done value next recoveries → True :=
    fun _ _ _ _ _ => trivial
  exact agree_bind_known first always fun value => (later value).mono fun _ _ held => held.1

theorem agree_map {left right : Rule α} (f : α → β)
    (agree : Agree pairing start settled left right) :
    Agree pairing start settled (f <$> left) (f <$> right) :=
  agree_bind agree fun _ => agree_pure

/-- What depends on where the rule begins is compared for each such cursor on its own. -/
theorem agree_here {before : Bool} {more more' : Cursor → Rule β}
    (near : ∀ cursor cursor', start cursor cursor' → Near pairing before cursor cursor')
    (each : ∀ cursor cursor', Near pairing before cursor cursor' →
      Agree pairing (fun left right => start left right ∧ left = cursor ∧ right = cursor') settled
        (more cursor) (more' cursor')) :
    Agree pairing start settled (here >>= more) (here >>= more') where
  forward cursor := by
    have forward := (each cursor cursor (Near.refl pairing before cursor)).forward cursor
    simpa [here] using forward
  meets cursor cursor' held := by
    have met := (each cursor cursor' (near cursor cursor' held)).meets cursor cursor'
      ⟨held, rfl, rfl⟩
    simpa [here] using met

theorem agree_capabilities {more more' : Capabilities → Rule β}
    (later : Agree pairing start settled (more pairing.capabilities) (more' pairing.capabilities)) :
    Agree pairing start settled (capabilities >>= more) (capabilities >>= more') where
  forward cursor := by
    simpa [capabilities, Pairing.left] using later.forward cursor
  meets cursor cursor' held := by
    simpa [capabilities, Pairing.left, Pairing.right] using later.meets cursor cursor' held

theorem agree_next (at' : ∀ cursor cursor', start cursor cursor' → AtToken pairing cursor cursor') :
    Agree pairing start true next next where
  forward := Cursor.advance_suffix
  meets cursor cursor' held := by
    obtain ⟨near, sure⟩ := at' cursor cursor' held
    exact ⟨cursor'.advance, by rw [next, near.current_eq sure], near.advance⟩

theorem agree_next_bind {more more' : Token → Rule β}
    (at' : ∀ cursor cursor', start cursor cursor' → AtToken pairing cursor cursor')
    (later : ∀ token, Agree pairing
      (fun left right => ∃ cursor cursor', start cursor cursor' ∧ token = cursor.current ∧
        left = cursor.advance ∧ right = cursor'.advance)
      settled (more token) (more' token)) :
    Agree pairing start settled (next >>= more) (next >>= more') where
  forward cursor := by
    have first : (next pairing.left cursor).Forward cursor := cursor.advance_suffix
    exact first.andThen fun token next => (later token).forward next
  meets cursor cursor' held := by
    obtain ⟨near, sure⟩ := at' cursor cursor' held
    have met := (later cursor.current).meets cursor.advance cursor'.advance
      ⟨cursor, cursor', held, rfl, rfl, rfl⟩
    simpa [next, near.current_eq sure] using met

theorem agree_accept (keyword : Keyword) :
    Agree pairing (Near pairing true) true (accept keyword) (accept keyword) where
  forward cursor := by
    simp only [accept]
    split
    · exact cursor.advance_suffix
    · exact List.suffix_rfl
  meets cursor cursor' near := by
    simp only [accept, near.isAt_eq]
    split
    · exact ⟨_, rfl, near.advance⟩
    · exact ⟨_, rfl, near⟩

theorem agree_acceptSymbol (symbol : String) :
    Agree pairing (Near pairing true) true (acceptSymbol symbol) (acceptSymbol symbol) where
  forward cursor := by
    simp only [acceptSymbol]
    split
    · exact cursor.advance_suffix
    · exact List.suffix_rfl
  meets cursor cursor' near := by
    simp only [acceptSymbol, near.isAtSymbol_eq]
    split
    · exact ⟨_, rfl, near.advance⟩
    · exact ⟨_, rfl, near⟩

/-- Behind a recovery nothing is compared but in an exact comparison. -/
theorem agree_recover {flaw flaw' : Flaw} {more more' : Unit → Rule β}
    (near : ∀ cursor cursor', start cursor cursor' → Near pairing false cursor cursor')
    (same : pairing.exact = true → ∀ cursor cursor', start cursor cursor' → flaw' = flaw)
    (later : Agree pairing (fun cursor cursor' => pairing.exact = true ∧ start cursor cursor')
      settled (more ()) (more' ())) :
    Agree pairing start settled (recover flaw >>= more) (recover flaw' >>= more') where
  forward cursor := by
    have first : (recover flaw pairing.left cursor).Forward cursor := List.suffix_rfl
    exact first.andThen fun _ next => later.forward next
  meets cursor cursor' held := by
    obtain ⟨value, next, recoveries, result, _⟩ := (later.forward cursor).done
    have left_eq : (recover flaw >>= more) pairing.left cursor =
        .done value next (⟨flaw, cursor.current.place⟩ :: recoveries) := by
      have noted : recover flaw pairing.left cursor =
          .done () cursor [⟨flaw, cursor.current.place⟩] := rfl
      simp [bind_apply, noted, Reading.andThen, result]
    rw [left_eq]
    intro exact'
    have place_eq := (near cursor cursor' held).current_eq (Or.inl exact')
    have flaw_eq := same exact' cursor cursor' held
    -- a strict right reader stops here, where the left one has made its first note
    by_cases strict : pairing.strict = true
    · simp [strict, recover, recoverAt, Pairing.right, place_eq, flaw_eq]
    · have met := later.meets cursor cursor' ⟨exact', held⟩
      rw [result] at met
      have right_eq : recover flaw' pairing.right cursor' =
          .done () cursor' [⟨flaw, cursor.current.place⟩] := by
        simp [recover, recoverAt, Pairing.right, strict, place_eq, flaw_eq]
      simp only [bind_apply, right_eq, strict, Bool.false_eq_true, ↓reduceIte]
      cases recoveries with
      | nil =>
          obtain ⟨last, result', near'⟩ := met
          exact ⟨last, by simp [Reading.andThen, result'], near'⟩
      | cons second others =>
          have known := met exact'
          simp only [strict] at known
          obtain ⟨last, result', near'⟩ := known
          exact ⟨last, by simp [Reading.andThen, result'], near'⟩

theorem agree_within {inner inner' : Rule α} {tokens tokens' : List Token}
    (inners : Agree pairing (Near pairing true) true inner inner')
    (alike : TokensAlike pairing.exact tokens tokens') :
    Agree pairing (Near pairing settled) settled (within tokens inner)
      (within tokens' inner') where
  forward cursor := by
    obtain ⟨value, next, recoveries, result, _⟩ := (inners.forward (.ofTokens tokens)).done
    simp only [within, result]
    exact List.suffix_rfl
  meets cursor cursor' near := by
    have met := inners.meets (.ofTokens tokens) (.ofTokens tokens') ⟨alike, fun _ => Or.inl rfl⟩
    simp only [within]
    -- the tokens inside are read apart, so of what happens there only the notes matter here
    match result : inner pairing.left (.ofTokens tokens) with
    | .refused _ => rw [result] at met; exact met.elim
    | .done value next [] =>
        rw [result] at met
        obtain ⟨next', result', _⟩ := met
        exact ⟨cursor', by rw [result'], near⟩
    | .done value next (first :: rest) =>
        rw [result] at met
        intro exact'
        have known := met exact'
        by_cases strict : pairing.strict = true
        · simp only [strict, ↓reduceIte] at known ⊢
          rw [known]
        · simp only [strict] at known ⊢
          obtain ⟨next', result', _⟩ := known
          exact ⟨cursor', by rw [result'], near⟩

theorem agree_recover_last (flaw : Flaw) :
    Agree pairing (Near pairing settled) settled (recover flaw) (recover flaw) where
  forward _ := List.suffix_rfl
  meets cursor cursor' near := by
    intro exact'
    have place_eq := near.current_eq (Or.inl exact')
    by_cases strict : pairing.strict = true
    · simp [strict, recover, recoverAt, Pairing.right, place_eq]
    · simp only [strict, Bool.false_eq_true, ↓reduceIte]
      exact ⟨cursor', by simp [recover, recoverAt, Pairing.right, strict, place_eq], near⟩

end

/-! ### Rules that call themselves -/

section

variable {β γ : Type} {pairing : Pairing} {start : Cursor → Cursor → Prop} {settled : Bool}

theorem agree_granted {self self' resort resort' : γ → Rule β} {first first' : Cursor}
    (length : first'.rest.length = first.rest.length)
    (near : ∀ cursor cursor', start cursor cursor' → Near pairing false cursor cursor')
    (selves : ∀ goal, Agree pairing start settled (self goal) (self' goal))
    (resorts : ∀ goal, Agree pairing start settled (resort goal) (resort' goal)) (goal : γ) :
    Agree pairing start settled (granted first self resort goal)
      (granted first' self' resort' goal) where
  forward cursor := by
    simp only [granted]
    split
    · exact (selves goal).forward cursor
    · exact (resorts goal).forward cursor
  meets cursor cursor' held := by
    simp only [granted, (near cursor cursor' held).length_eq, length]
    split
    · exact (selves goal).meets cursor cursor' held
    · exact (resorts goal).meets cursor cursor' held

theorem agree_tie {resort resort' : γ → Rule β} {step step' : (γ → Rule β) → γ → Rule β}
    {inner : Cursor → Cursor → Prop}
    (near : ∀ cursor cursor', start cursor cursor' → Near pairing false cursor cursor')
    (within : ∀ cursor cursor', inner cursor cursor' → start cursor cursor')
    (resorts : ∀ goal, Agree pairing inner settled (resort goal) (resort' goal))
    (steps : ∀ self self', (∀ goal, Agree pairing inner settled (self goal) (self' goal)) →
      ∀ goal, Agree pairing start settled (step self goal) (step' self' goal)) (goal : γ) :
    Agree pairing start settled (tie resort step goal) (tie resort' step' goal) := by
  -- a rule in terms of itself: the induction is on the depth, and what holds of the calls that the
  -- step makes holds of the step. The rule may begin at more cursors than it calls itself at
  have near' := fun cursor cursor' held => near cursor cursor' (within cursor cursor' held)
  have opened : ∀ self self' : γ → Rule β,
      (∀ goal, Agree pairing inner settled (self goal) (self' goal)) →
        ∀ goal, Agree pairing start settled
          (fun mode cursor => step (granted cursor self resort) goal mode cursor)
          (fun mode cursor => step' (granted cursor self' resort') goal mode cursor) := by
    intro self self' selves goal
    constructor
    · intro cursor
      have length : cursor.rest.length = cursor.rest.length := rfl
      exact (steps _ _ (agree_granted length near' selves resorts) goal).forward cursor
    · intro cursor cursor' held
      exact (steps _ _ (agree_granted (near cursor cursor' held).length_eq near' selves resorts)
        goal).meets cursor cursor' held
  -- the depth is the number of tokens ahead, which is the same on both sides
  have bounded : ∀ depth goal, Agree pairing inner settled (tieWithin resort step depth goal)
      (tieWithin resort' step' depth goal) := by
    intro depth
    induction depth with
    | zero => exact resorts
    | succ depth ih => exact fun goal => (opened _ _ ih goal).mono within
  constructor
  · intro cursor
    exact (opened _ _ (bounded cursor.rest.length) goal).forward cursor
  · intro cursor cursor' held
    have met := (opened _ _ (bounded cursor.rest.length) goal).meets cursor cursor' held
    have same := (near cursor cursor' held).length_eq
    simp only [tie, same]
    exact met

end

end Parlance.Grammar
