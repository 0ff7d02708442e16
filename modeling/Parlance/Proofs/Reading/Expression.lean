import Parlance.Proofs.Reading.Agree

/-!
The rules for expressions side by side. Each agrees if the rule for inner expressions does; the
knot is tied by induction on the depth. Only what begins with the first token of an expression may
begin at a cursor that is not settled.
-/

namespace Parlance.Grammar

open Rule

section

variable {pairing : Pairing} {inner inner' : Rule Expr}

theorem closing_agree (symbol : String) (bracket : Bracket) :
    Agree pairing (Near pairing true) true (closing symbol bracket) (closing symbol bracket) := by
  apply agree_bind (agree_acceptSymbol symbol)
  intro accepted
  cases accepted with
  | true => exact agree_pure
  | false => exact agree_recover_last _

theorem noExpression_agree :
    Agree pairing (Near pairing true) true noExpression noExpression := by
  apply agree_here (fun _ _ near => near)
  intro cursor cursor' near
  apply agree_recover (fun _ _ held => held.1.loosen)
  · intro exact' _ _ _
    rw [near.current_eq (Or.inl exact')]
  · apply agree_pure_of (fun _ _ held => held.2.1)
    intro _ _ held
    rw [near.current_eq (Or.inl held.1)]

variable (inners : Agree pairing (Near pairing true) true inner inner')

include inners in
theorem items_agree (symbol : String) (bracket : Bracket) (inside : Inside) :
    Agree pairing (Near pairing true) true (items inner symbol bracket inside)
      (items inner' symbol bracket inside) := by
  refine agree_tie (fun _ _ near => near.loosen) (fun _ _ near => near) (fun _ => agree_pure) ?_ ()
  intro self self' selves _
  apply agree_bind (agree_acceptSymbol symbol)
  intro closed
  cases closed with
  | true => exact agree_pure
  | false =>
      simp only [Bool.false_eq_true, ↓reduceIte]
      apply agree_bind (agree_acceptSymbol ",")
      intro comma
      cases comma with
      | true => exact selves ()
      | false =>
          simp only [Bool.false_eq_true, ↓reduceIte]
          apply agree_here (fun _ _ near => near)
          intro cursor cursor' near
          -- an item begins, the list is over, or the token is skipped with a note
          simp only [near.current.startsArgument_eq, near.current.isBoundary_eq]
          split
          · apply agree_bind (inners.mono fun _ _ held => held.1)
            intro item
            apply agree_bind (selves ())
            intro more
            exact agree_pure
          · split
            · apply agree_recover (fun _ _ held => held.1.loosen) (fun _ _ _ _ => rfl)
              exact agree_pure.mono fun _ _ held => held.2.1
            · apply agree_recover (fun _ _ held => held.1.loosen)
              · intro exact' _ _ _
                rw [near.current_eq (Or.inl exact')]
              · refine agree_bind
                  (agree_next fun _ _ held => ⟨held.2.1.loosen, Or.inl held.1⟩) ?_
                intro _
                exact selves ()

include inners in
theorem parenArguments_agree :
    Agree pairing (AtToken pairing) true (parenArguments inner) (parenArguments inner') := by
  apply agree_bind (agree_next fun _ _ held => held)
  intro _
  exact items_agree inners ")" .arguments .arguments

include inners in
theorem argument?_agree (line : Nat) :
    Agree pairing (Near pairing true) true (argument? inner line) (argument? inner' line) := by
  apply agree_here (fun _ _ near => near)
  intro cursor cursor' near
  simp only [near.argumentOnLine_eq]
  split
  · apply agree_bind (inners.mono fun _ _ held => held.1)
    intro argument
    exact agree_pure
  · exact agree_pure.mono fun _ _ held => held.1

include inners in
theorem spacedArguments_agree (line : Nat) :
    Agree pairing (Near pairing true) true (spacedArguments inner line)
      (spacedArguments inner' line) := by
  refine agree_tie (fun _ _ near => near.loosen) (fun _ _ near => near) (fun _ => agree_pure) ?_ ()
  intro self self' selves _
  refine agree_bind (argument?_agree inners line) ?_
  intro argument
  cases argument with
  | some argument =>
      apply agree_bind (selves ())
      intro more
      exact agree_pure
  | none => exact agree_pure

include inners in
theorem callArguments_agree (line : Nat) :
    Agree pairing (Near pairing true) true (callArguments inner line)
      (callArguments inner' line) := by
  apply agree_here (fun _ _ near => near)
  intro cursor cursor' near
  simp only [near.isAtSymbol_eq]
  split
  · rename_i paren
    apply (parenArguments_agree inners).mono
    rintro _ _ ⟨near, rfl, rfl⟩
    exact ⟨near.loosen, Or.inr (Token.ne_finish_of_isSymbol paren)⟩
  · exact (spacedArguments_agree inners line).mono fun _ _ held => held.1

theorem method?_agree (callee : Token) :
    Agree pairing (Near pairing true) true (method? callee) (method? callee) := by
  apply agree_here (fun _ _ near => near)
  intro cursor cursor' near
  apply agree_capabilities
  simp only [near.atPointMethod_eq, near.atBareMethod_eq]
  split
  · rename_i point
    simp only [Cursor.atPointMethod, Bool.and_eq_true] at point
    have here := Token.ne_finish_of_isSymbol point.1
    apply agree_next_bind
    · rintro _ _ ⟨near, rfl, rfl⟩
      exact ⟨near.loosen, Or.inr here⟩
    · intro _
      refine agree_bind (agree_next ?_) ?_
      · rintro _ _ ⟨_, _, ⟨near, rfl, rfl⟩, _, rfl, rfl⟩
        refine ⟨near.advance.loosen, Or.inr ?_⟩
        rw [Cursor.current, Cursor.ahead_advance _ 0 here]
        exact Token.ne_finish_of_isMethodWord point.2
      · intro method
        exact agree_pure
  · split
    · rename_i bare
      simp only [Cursor.atBareMethod, Bool.and_eq_true] at bare
      refine agree_bind (agree_next ?_) ?_
      · rintro _ _ ⟨near, rfl, rfl⟩
        exact ⟨near.loosen, Or.inr (Token.ne_finish_of_isMethodWord bare.1.2)⟩
      · intro method
        exact agree_pure
    · exact agree_pure.mono fun _ _ held => held.1

include inners in
theorem callOf_agree (callee : Token) :
    Agree pairing (Near pairing true) true (callOf inner callee) (callOf inner' callee) := by
  refine agree_bind (method?_agree callee) ?_
  intro method
  apply agree_bind (callArguments_agree inners callee.line)
  intro arguments
  exact agree_pure

include inners in
theorem explicitCall_agree :
    Agree pairing (Near pairing true) true (explicitCall inner) (explicitCall inner') := by
  apply agree_here (fun _ _ near => near)
  intro cursor cursor' near
  simp only [near.current.isName_eq]
  split
  · rename_i name
    refine agree_bind (agree_next ?_) ?_
    · rintro _ _ ⟨near, rfl, rfl⟩
      exact ⟨near.loosen, Or.inr (Token.ne_finish_of_isName name)⟩
    · intro callee
      exact callOf_agree inners callee
  · apply agree_recover (fun _ _ held => held.1.loosen) (fun _ _ _ _ => rfl)
    apply agree_pure_of (fun _ _ held => held.2.1)
    intro _ _ held
    rw [near.current_eq (Or.inl held.1)]

include inners in
theorem nameExpr_agree :
    Agree pairing (AtToken pairing) true (nameExpr inner) (nameExpr inner') := by
  apply agree_bind (agree_next fun _ _ held => held)
  intro name
  apply agree_here (fun _ _ near => near)
  intro cursor cursor' near
  apply agree_capabilities
  simp only [near.callsImplicitly_eq]
  split
  · exact (callOf_agree inners name).mono fun _ _ held => held.1
  · cases numberWord? name.lexeme with
    | some value => exact agree_pure.mono fun _ _ held => held.1
    | none => exact agree_pure.mono fun _ _ held => held.1

include inners in
theorem group_agree : Agree pairing (AtToken pairing) true (group inner) (group inner') := by
  apply agree_bind (agree_next fun _ _ held => held)
  intro _
  apply agree_bind inners
  intro value
  refine agree_bind (closing_agree ")" .group) ?_
  intro _
  exact agree_pure

include inners in
theorem listExpr_agree :
    Agree pairing (AtToken pairing) true (listExpr inner) (listExpr inner') := by
  apply agree_bind (agree_next fun _ _ held => held)
  intro bracket
  apply agree_bind (items_agree inners "]" .list .list)
  intro entries
  exact agree_pure

theorem colon_agree (key : Token) :
    Agree pairing (Near pairing true) true (colon key) (colon key) := by
  apply agree_bind (agree_acceptSymbol ":")
  intro accepted
  cases accepted with
  | true => exact agree_pure
  | false =>
      simp only [Bool.false_eq_true, ↓reduceIte]
      apply agree_bind (agree_accept .assignOp)
      intro assigned
      cases assigned with
      | true => exact agree_pure
      | false => exact agree_recover_last _

include inners in
theorem mapValue_agree (key : Token) :
    Agree pairing (Near pairing true) true (mapValue inner key) (mapValue inner' key) := by
  apply agree_here (fun _ _ near => near)
  intro cursor cursor' near
  simp only [near.current.startsArgument_eq]
  split
  · exact inners.mono fun _ _ held => held.1
  · exact agree_pure.mono fun _ _ held => held.1

include inners in
theorem mapEntries_agree :
    Agree pairing (Near pairing true) true (mapEntries inner) (mapEntries inner') := by
  refine agree_tie (fun _ _ near => near.loosen) (fun _ _ near => near) (fun _ => agree_pure) ?_ ()
  intro self self' selves _
  apply agree_bind (agree_acceptSymbol "\x7d")
  intro closed
  cases closed with
  | true => exact agree_pure
  | false =>
      simp only [Bool.false_eq_true, ↓reduceIte]
      apply agree_bind (agree_acceptSymbol ",")
      intro comma
      cases comma with
      | true => exact selves ()
      | false =>
          simp only [Bool.false_eq_true, ↓reduceIte]
          -- what is next decides between the end, a key, and a token that is skipped
          apply agree_here (fun _ _ near => near)
          intro cursor cursor' near
          simp only [near.atEnd_eq, near.current.isMapKey_eq]
          split
          · apply agree_recover (fun _ _ held => held.1.loosen) (fun _ _ _ _ => rfl)
            exact agree_pure.mono fun _ _ held => held.2.1
          · split
            · rename_i isKey
              refine agree_bind (agree_next ?_) ?_
              · rintro _ _ ⟨near, rfl, rfl⟩
                exact ⟨near.loosen, Or.inr (Token.ne_finish_of_isMapKey isKey)⟩
              intro key
              apply agree_bind (colon_agree key)
              intro _
              apply agree_bind (mapValue_agree inners key)
              intro value
              apply agree_bind (selves ())
              intro more
              exact agree_pure
            · apply agree_recover (fun _ _ held => held.1.loosen)
              · intro exact' _ _ _
                rw [near.current_eq (Or.inl exact')]
              · refine agree_bind
                  (agree_next fun _ _ held => ⟨held.2.1.loosen, Or.inl held.1⟩) ?_
                intro _
                exact selves ()

include inners in
theorem mapExpr_agree :
    Agree pairing (AtToken pairing) true (mapExpr inner) (mapExpr inner') := by
  apply agree_bind (agree_next fun _ _ held => held)
  intro brace
  apply agree_bind (mapEntries_agree inners)
  intro entries
  exact agree_pure

theorem notPrimary_agree :
    Agree pairing (Near pairing true) true notPrimary notPrimary := by
  apply agree_here (fun _ _ near => near)
  intro cursor cursor' near
  apply agree_recover (fun _ _ held => held.1.loosen)
  · intro exact' _ _ _
    rw [near.current_eq (Or.inl exact')]
  · simp only [near.current.isBoundary_eq]
    split
    · apply agree_pure_of (fun _ _ held => held.2.1)
      intro _ _ held
      rw [near.current_eq (Or.inl held.1)]
    · apply agree_next_bind (fun _ _ held => ⟨held.2.1.loosen, Or.inl held.1⟩)
      intro _
      apply agree_pure_of
      · rintro _ _ ⟨_, _, held, _, rfl, rfl⟩
        exact held.2.1.advance
      · rintro _ _ ⟨_, _, held, _⟩
        rw [near.current_eq (Or.inl held.1)]

theorem literalOf_agree (value : Literal) :
    Agree pairing (AtToken pairing) true (literalOf value) (literalOf value) := by
  apply agree_bind (agree_next fun _ _ held => held)
  intro token
  exact agree_pure

include inners in
theorem primary_agree :
    Agree pairing (Near pairing false) true (primary inner) (primary inner') := by
  -- the first token decides; where it is a bracket it does not matter what it touches
  apply agree_here (fun _ _ near => near)
  intro cursor cursor' near
  simp only [near.current.opening_eq]
  cases opens : opening cursor.current with
  | nothing =>
      apply notPrimary_agree.mono
      rintro _ _ ⟨near, rfl, rfl⟩
      exact near.settle (Token.not_bracket_of_opening opens)
  | literal _ | name | call | group | list | map =>
      have atToken : ∀ left right,
          Near pairing false left right ∧ left = cursor ∧ right = cursor' →
            AtToken pairing left right := by
        rintro _ _ ⟨near, rfl, rfl⟩
        exact ⟨near, Or.inr (Token.ne_finish_of_opening (by simp [opens]))⟩
      first
      | exact (literalOf_agree _).mono atToken
      | exact (nameExpr_agree inners).mono atToken
      | exact (group_agree inners).mono atToken
      | exact (listExpr_agree inners).mono atToken
      | exact (mapExpr_agree inners).mono atToken
      | exact agree_bind (agree_next atToken) fun _ => explicitCall_agree inners

include inners in
theorem indexes_agree (target : Expr) :
    Agree pairing (Near pairing true) true (indexes inner target) (indexes inner' target) := by
  refine agree_tie (fun _ _ near => near.loosen) (fun _ _ near => near) (fun _ => agree_pure) ?_ _
  intro self self' selves target
  apply agree_here (fun _ _ near => near)
  intro cursor cursor' near
  simp only [near.touches_eq]
  split
  · rename_i touching
    simp only [Bool.and_eq_true] at touching
    refine agree_bind (agree_next ?_) ?_
    · rintro _ _ ⟨near, rfl, rfl⟩
      exact ⟨near.loosen, Or.inr (Token.ne_finish_of_isSymbol touching.1)⟩
    intro bracket
    apply agree_bind inners
    intro position
    apply agree_bind (closing_agree "]" .index)
    intro _
    exact selves _
  · exact agree_pure.mono fun _ _ held => held.1

include inners in
theorem indexed_agree :
    Agree pairing (Near pairing false) true (indexed inner) (indexed inner') := by
  apply agree_bind (primary_agree inners)
  intro target
  exact indexes_agree inners target

include inners in
theorem unary_agree : Agree pairing (Near pairing false) true (unary inner) (unary inner') := by
  refine agree_tie (fun _ _ near => near) (fun _ _ near => near.loosen)
    (fun _ => noExpression_agree) ?_ ()
  intro self self' selves _
  apply agree_here (fun _ _ near => near)
  intro cursor cursor' near
  simp only [near.unaryOp?_eq, (near.ahead 1).startsExpression_eq]
  cases found : cursor.unaryOp? with
  | none => exact (indexed_agree inners).mono fun _ _ held => held.1
  | some op =>
      simp only
      split
      · obtain ⟨keyword, spelt, _⟩ := Option.bind_eq_some_iff.mp found
        refine agree_bind (agree_next ?_) ?_
        · rintro _ _ ⟨near, rfl, rfl⟩
          exact ⟨near, Or.inr (Token.ne_finish_of_keyword? spelt)⟩
        intro token
        apply agree_bind (selves ())
        intro operand
        exact agree_pure
      · exact (indexed_agree inners).mono fun _ _ held => held.1

end

section

variable {pairing : Pairing}

theorem operators_agree {inner inner' : Nat → Rule Expr}
    (inners : ∀ least, Agree pairing (Near pairing true) true (inner least) (inner' least))
    (least : Nat) (left : Expr) :
    Agree pairing (Near pairing true) true (operators inner least left)
      (operators inner' least left) := by
  refine agree_tie (fun _ _ near => near.loosen) (fun _ _ near => near) (fun _ => agree_pure) ?_ _
  intro self self' selves left
  apply agree_here (fun _ _ near => near)
  intro cursor cursor' near
  simp only [near.binaryOp?_eq, (near.ahead 1).startsExpression_eq]
  cases found : cursor.binaryOp? with
  | none => exact agree_pure.mono fun _ _ held => held.1
  | some op =>
      simp only
      split
      · obtain ⟨keyword, spelt, _⟩ := Option.bind_eq_some_iff.mp found
        refine agree_bind (agree_next ?_) ?_
        · rintro _ _ ⟨near, rfl, rfl⟩
          exact ⟨near.loosen, Or.inr (Token.ne_finish_of_keyword? spelt)⟩
        intro token
        apply agree_bind (inners _)
        intro right
        exact selves _
      · exact agree_pure.mono fun _ _ held => held.1

theorem expressionOf_agree (least : Nat) :
    Agree pairing (Near pairing false) true (expressionOf least) (expressionOf least) := by
  refine agree_tie (fun _ _ near => near) (fun _ _ near => near.loosen)
    (fun _ => noExpression_agree) ?_ least
  intro self self' selves least
  apply agree_bind (unary_agree (selves 1))
  intro left
  exact operators_agree selves least left

theorem expression_agree : Agree pairing (Near pairing false) true expression expression :=
  expressionOf_agree 1

theorem expression_settled : Agree pairing (Near pairing true) true expression expression :=
  expression_agree.mono fun _ _ near => near.loosen

end

end Parlance.Grammar
