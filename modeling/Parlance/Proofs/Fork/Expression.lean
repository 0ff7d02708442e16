import Parlance.Proofs.Fork.Rule

/-!
The rules for expressions of two readers. Each follows if the rule for inner expressions does, and
the knot is tied by induction on the tokens ahead. What calls something is read only where a token
is that may be a name, so its callee is a name that both readers treat alike.
-/

namespace Parlance.Grammar

open Rule

section

variable {fork : Fork} {cursor cursor' : Cursor} {inner inner' : Rule Expr}

theorem closing_follows {symbol : String} (other : symbol ≠ ";") (bracket : Bracket) :
    Follows fork (closing symbol bracket) (closing symbol bracket) := by
  intro cursor cursor' beside
  apply FollowsAt.acceptSymbol beside other
  · intro beside
    exact .quiet beside rfl
  · exact .noting _ beside

theorem noExpression_follows : Follows fork noExpression noExpression := by
  intro cursor cursor' beside
  apply FollowsAt.here
  apply FollowsAt.recover beside
  · rintro rfl
    rfl
  · rintro rfl
    exact .quiet beside rfl

variable (inners : Follows fork inner inner')

include inners in
theorem items_follows {symbol : String} (other : symbol ≠ ";") (bracket : Bracket)
    (inside : Inside) :
    Follows fork (items inner symbol bracket inside) (items inner' symbol bracket inside) := by
  intro cursor cursor' beside
  refine FollowsAt.loop (fun _ _ beside => .quiet beside rfl) ?_ beside
  intro self self' selves cursor cursor' beside
  apply FollowsAt.acceptSymbol beside other
  · intro beside
    exact .quiet beside rfl
  simp only [Bool.false_eq_true, ↓reduceIte]
  apply FollowsAt.acceptSymbol beside (by decide)
  · exact fun beside => selves beside
  simp only [Bool.false_eq_true, ↓reduceIte]
  apply FollowsAt.here
  rw [beside.current.startsArgument_eq, beside.current.isBoundary_eq]
  split
  · apply FollowsAt.bind (inners beside)
    intro item _ _ beside called
    apply FollowsAt.bind (selves beside)
    intro more _ _ beside called'
    exact .pure beside (Fork.common_append.mpr ⟨called, called'⟩)
  · split
    · apply FollowsAt.recover beside (fun _ => rfl)
      intro _
      exact .quiet beside rfl
    · rename_i inside
      apply FollowsAt.recover beside
      · rintro rfl
        rfl
      · intro _
        apply FollowsAt.next beside (Token.ne_finish_of_not_boundary (by simpa using inside))
        exact fun beside => selves beside

include inners in
theorem parenArguments_follows (beside : fork.Beside cursor cursor')
    (other : cursor.current.kind ≠ .finish) :
    FollowsAt fork cursor cursor' (parenArguments inner) (parenArguments inner') := by
  apply FollowsAt.next beside other
  intro beside
  exact items_follows inners (by decide) .arguments .arguments beside

include inners in
theorem argument?_follows (line : Nat) :
    Follows fork (argument? inner line) (argument? inner' line) := by
  intro cursor cursor' beside
  apply FollowsAt.here
  rw [beside.argumentOnLine_eq]
  split
  · apply FollowsAt.bind (inners beside)
    intro argument _ _ beside called
    exact .pure beside (Fork.common_append.mpr ⟨called, Fork.common_nil⟩)
  · exact .quiet beside rfl

include inners in
theorem spacedArguments_follows (line : Nat) :
    Follows fork (spacedArguments inner line) (spacedArguments inner' line) := by
  intro cursor cursor' beside
  refine FollowsAt.loop (fun _ _ beside => .quiet beside rfl) ?_ beside
  intro self self' selves cursor cursor' beside
  apply FollowsAt.bind (argument?_follows inners line beside)
  intro argument _ _ beside called
  cases argument with
  | some argument =>
      apply FollowsAt.bind (selves beside)
      intro more _ _ beside called'
      exact .pure beside (Fork.common_append.mpr ⟨(Fork.common_append.mp called).1, called'⟩)
  | none => exact .quiet beside rfl

include inners in
theorem callArguments_follows (line : Nat) :
    Follows fork (callArguments inner line) (callArguments inner' line) := by
  intro cursor cursor' beside
  apply FollowsAt.here
  rw [beside.isAtSymbol_eq (by decide)]
  split
  · rename_i paren
    exact parenArguments_follows inners beside (Token.ne_finish_of_isSymbol paren)
  · exact spacedArguments_follows inners line beside

theorem method?_follows {callee : Token} (known : fork.common callee.lexeme) :
    Follows fork (method? callee) (method? callee) := by
  intro cursor cursor' beside
  apply FollowsAt.here
  apply FollowsAt.knowing
  rw [beside.atPointMethod_eq, beside.atBareMethod_eq known]
  split
  · rename_i point
    simp only [Cursor.atPointMethod, Bool.and_eq_true] at point
    have here := Token.ne_finish_of_isSymbol point.1
    apply FollowsAt.next beside here
    intro beside
    apply FollowsAt.next beside
    · rw [Cursor.current, Cursor.ahead_advance _ 0 here]
      exact Token.ne_finish_of_isMethodWord point.2
    · intro beside
      exact .quiet beside rfl
  · split
    · rename_i bare
      simp only [Cursor.atBareMethod, Bool.and_eq_true] at bare
      apply FollowsAt.next beside (Token.ne_finish_of_isMethodWord bare.1.2)
      intro beside
      exact .quiet beside rfl
    · exact .quiet beside rfl

include inners in
theorem callOf_follows {callee : Token} (known : fork.common callee.lexeme) :
    Follows fork (callOf inner callee) (callOf inner' callee) := by
  intro cursor cursor' beside
  apply FollowsAt.bind (method?_follows known beside)
  intro method _ _ beside _
  apply FollowsAt.bind (callArguments_follows inners callee.line beside)
  intro arguments _ _ beside called
  exact .pure beside (Fork.common_cons.mpr ⟨known, called⟩)

include inners in
theorem explicitCall_follows : Follows fork (explicitCall inner) (explicitCall inner') := by
  intro cursor cursor' beside
  apply FollowsAt.here
  rw [beside.current.isName_eq]
  split
  · rename_i name
    have other := Token.ne_finish_of_isName name
    apply FollowsAt.next beside other
    intro later
    exact callOf_follows inners (beside.common other (Token.mayName_of_isName name)) later
  · apply FollowsAt.recover beside (fun _ => rfl)
    rintro rfl
    exact .quiet beside rfl

theorem colon_follows (key : Token) : Follows fork (colon key) (colon key) := by
  intro cursor cursor' beside
  apply FollowsAt.acceptSymbol beside (by decide)
  · intro beside
    exact .quiet beside rfl
  simp only [Bool.false_eq_true, ↓reduceIte]
  apply FollowsAt.accept beside
  · intro beside
    exact .quiet beside rfl
  · exact .noting _ beside

include inners in
theorem mapValue_follows (key : Token) :
    Follows fork (mapValue inner key) (mapValue inner' key) := by
  intro cursor cursor' beside
  apply FollowsAt.here
  rw [beside.current.startsArgument_eq]
  split
  · exact inners beside
  · exact .quiet beside rfl

include inners in
theorem mapEntries_follows : Follows fork (mapEntries inner) (mapEntries inner') := by
  intro cursor cursor' beside
  refine FollowsAt.loop (fun _ _ beside => .quiet beside rfl) ?_ beside
  intro self self' selves cursor cursor' beside
  apply FollowsAt.acceptSymbol beside (by decide)
  · intro beside
    exact .quiet beside rfl
  simp only [Bool.false_eq_true, ↓reduceIte]
  apply FollowsAt.acceptSymbol beside (by decide)
  · exact fun beside => selves beside
  simp only [Bool.false_eq_true, ↓reduceIte]
  apply FollowsAt.here
  cases ends : cursor.atEnd with
  | true =>
      -- at the fork the left reader notes the end, where the right one may find a separator
      by_cases same : cursor' = cursor
      · subst same
        simp only [ends, ↓reduceIte]
        apply FollowsAt.recover beside (fun _ => rfl)
        intro _
        exact .quiet beside rfl
      · exact .parted beside same
  | false =>
      have other : cursor.current.kind ≠ .finish := of_decide_eq_false ends
      have open' : cursor'.atEnd = false := by
        rw [Cursor.atEnd, beside.current_eq other]
        exact ends
      simp only [open', beside.current_eq other, Bool.false_eq_true, ↓reduceIte]
      split
      · apply FollowsAt.next beside other
        intro beside
        apply FollowsAt.bind (colon_follows _ beside)
        intro _ _ _ beside _
        apply FollowsAt.bind (mapValue_follows inners _ beside)
        intro value _ _ beside called
        apply FollowsAt.bind (selves beside)
        intro more _ _ beside called'
        exact .pure beside (Fork.common_append.mpr ⟨called, called'⟩)
      · apply FollowsAt.recover beside (fun _ => rfl)
        intro _
        apply FollowsAt.next beside other
        exact fun beside => selves beside

theorem notPrimary_follows : Follows fork notPrimary notPrimary := by
  intro cursor cursor' beside
  apply FollowsAt.here
  apply FollowsAt.recover beside
  · rintro rfl
    rfl
  · rintro rfl
    split
    · exact .quiet beside rfl
    · rename_i inside
      apply FollowsAt.next beside (Token.ne_finish_of_not_boundary (by simpa using inside))
      intro beside
      exact .quiet beside rfl

section

variable (beside : fork.Beside cursor cursor') (other : cursor.current.kind ≠ .finish)

include inners beside other

theorem nameExpr_follows (name : cursor.current.mayName = true) :
    FollowsAt fork cursor cursor' (nameExpr inner) (nameExpr inner') := by
  have known := beside.common other name
  apply FollowsAt.next beside other
  intro beside
  apply FollowsAt.here
  apply FollowsAt.knowing
  rw [beside.callsImplicitly_eq known]
  split
  · exact callOf_follows inners known beside
  · split
    · exact .quiet beside rfl
    · exact .quiet beside rfl

theorem group_follows : FollowsAt fork cursor cursor' (group inner) (group inner') := by
  apply FollowsAt.next beside other
  intro beside
  apply FollowsAt.bind (inners beside)
  intro value _ _ beside called
  apply FollowsAt.bind (closing_follows (by decide) .group beside)
  intro _ _ _ beside _
  exact .pure beside called

theorem listExpr_follows : FollowsAt fork cursor cursor' (listExpr inner) (listExpr inner') := by
  apply FollowsAt.next beside other
  intro beside
  apply FollowsAt.bind (items_follows inners (by decide) .list .list beside)
  intro entries _ _ beside called
  exact .pure beside called

theorem mapExpr_follows : FollowsAt fork cursor cursor' (mapExpr inner) (mapExpr inner') := by
  apply FollowsAt.next beside other
  intro beside
  apply FollowsAt.bind (mapEntries_follows inners beside)
  intro entries _ _ beside called
  exact .pure beside called

end

include inners in
theorem primary_follows : Follows fork (primary inner) (primary inner') := by
  intro cursor cursor' beside
  apply FollowsAt.here
  rw [beside.current.opening_eq]
  cases opens : opening cursor.current with
  | nothing => exact notPrimary_follows beside
  | literal _ | name | call | group | list | map =>
      have other : cursor.current.kind ≠ .finish := Token.ne_finish_of_opening (by simp [opens])
      first
      | exact FollowsAt.next beside other fun beside => .quiet beside rfl
      | exact nameExpr_follows inners beside other (Token.mayName_of_opening opens)
      | exact group_follows inners beside other
      | exact listExpr_follows inners beside other
      | exact mapExpr_follows inners beside other
      | exact FollowsAt.next beside other fun beside => explicitCall_follows inners beside

include inners in
theorem indexed_follows : Follows fork (indexed inner) (indexed inner') := by
  intro cursor cursor' beside
  apply FollowsAt.bind (primary_follows inners beside)
  intro target _ _ beside called
  refine FollowsAt.tie (fun target _ => fork.Common (callees target))
    (fun _ _ _ called beside => .pure beside called) ?_ called beside
  intro self self' selves target cursor cursor' called beside
  apply FollowsAt.here
  rw [beside.touches_eq]
  split
  · rename_i touching
    have bracket := (Bool.and_eq_true_iff.mp touching).1
    apply FollowsAt.next beside (Token.ne_finish_of_isSymbol bracket)
    intro beside
    apply FollowsAt.bind (inners beside)
    intro position _ _ beside called'
    apply FollowsAt.bind (closing_follows (by decide) .index beside)
    intro _ _ _ beside _
    exact selves (Fork.common_append.mpr ⟨called, called'⟩) beside
  · exact .pure beside called

include inners in
theorem unary_follows : Follows fork (unary inner) (unary inner') := by
  intro cursor cursor' beside
  refine FollowsAt.loop noExpression_follows ?_ beside
  intro self self' selves cursor cursor' beside
  apply FollowsAt.here
  rw [beside.unaryOp?_eq]
  cases found : cursor.unaryOp? with
  | none => exact indexed_follows inners beside
  | some op =>
      obtain ⟨keyword, spelt, _⟩ := Option.bind_eq_some_iff.mp found
      have other := Token.ne_finish_of_keyword? spelt
      simp only [(beside.ahead_one other).startsExpression_eq]
      split
      · apply FollowsAt.next beside other
        intro beside
        apply FollowsAt.bind (selves beside)
        intro operand _ _ beside called
        exact .pure beside called
      · exact indexed_follows inners beside

end

section

variable {fork : Fork}

theorem operators_follows {inner inner' : Nat → Rule Expr}
    (inners : ∀ least, Follows fork (inner least) (inner' least)) (least : Nat) {left : Expr}
    (called : fork.Common (callees left)) :
    Follows fork (operators inner least left) (operators inner' least left) := by
  intro cursor cursor' beside
  refine FollowsAt.tie (fun left _ => fork.Common (callees left))
    (fun _ _ _ called beside => .pure beside called) ?_ called beside
  intro self self' selves left cursor cursor' called beside
  apply FollowsAt.here
  rw [beside.binaryOp?_eq]
  cases found : cursor.binaryOp? with
  | none => exact .pure beside called
  | some op =>
      obtain ⟨keyword, spelt, _⟩ := Option.bind_eq_some_iff.mp found
      have other := Token.ne_finish_of_keyword? spelt
      simp only [(beside.ahead_one other).startsExpression_eq]
      split
      · apply FollowsAt.next beside other
        intro beside
        apply FollowsAt.bind (inners _ beside)
        intro right _ _ beside called'
        exact selves (Fork.common_append.mpr ⟨called, called'⟩) beside
      · exact .pure beside called

theorem expressionOf_follows (least : Nat) :
    Follows fork (expressionOf least) (expressionOf least) := by
  intro cursor cursor' beside
  refine FollowsAt.tie (fun _ _ => True) (fun _ _ _ _ beside => noExpression_follows beside) ?_
    trivial beside
  intro self self' selves least cursor cursor' _ beside
  have inners : ∀ least, Follows fork (self least) (self' least) :=
    fun _ _ _ beside => selves trivial beside
  apply FollowsAt.bind (unary_follows (inners 1) beside)
  intro left _ _ beside called
  exact operators_follows inners least called beside

theorem expression_follows : Follows fork expression expression := expressionOf_follows 1

end

end Parlance.Grammar
