import Parlance.Proofs.Drawing.Rule

/-!
Expressions draw on their tokens. A call is made behind a word for it, or of a name on the list;
every other node costs nothing.
-/

namespace Parlance.Grammar

open Rule Node

def exprNodes (value : Expr) : List Node := [value.toNode]

section

variable {stands : Place → Prop} {mode : Mode} {behindWord : Bool} {credit : Multiset Node.Call}
  {cursor : Cursor} {inner : Rule Expr}

theorem closing_draws (symbol : String) (bracket : Bracket) :
    Drawing stands mode 0 (closing symbol bracket) fun _ => [] := by
  -- what makes no nodes costs nothing
  intro cursor
  apply Draws.acceptSymbol
  · apply Draws.pure <;> simp
  · apply Draws.noting
    rfl

theorem noExpression_draws : Drawing stands mode 0 noExpression exprNodes := by
  intro cursor
  apply Draws.placed
  intro place
  apply Draws.here
  apply Draws.recover
  apply Draws.pure <;> simp [exprNodes, Expr.toNode, place]

variable (inners : Drawing stands mode 0 inner exprNodes)

include inners

theorem items_draws (symbol : String) (bracket : Bracket) (inside : Inside) :
    Drawing stands mode 0 (items inner symbol bracket inside) Expr.toNodes := by
  refine drawing_tie (fun _ => True) (fun _ => 0) ?_ ?_ () trivial
  · intro _ _ cursor
    apply Draws.pure <;> simp [Expr.toNodes]
  · intro self selves _ _ cursor
    have none : ∀ cursor, Draws stands mode false 0 cursor (pure []) Expr.toNodes := by
      intro cursor
      apply Draws.pure <;> simp [Expr.toNodes]
    apply Draws.acceptSymbol (none _)
    simp only [Bool.false_eq_true, ↓reduceIte]
    apply Draws.acceptSymbol (selves () trivial _)
    simp only [Bool.false_eq_true, ↓reduceIte]
    apply Draws.here
    split
    · apply Draws.bind (inners _)
      intro item next places
      apply Draws.bind (selves () trivial _)
      intro more _ places'
      apply Draws.pure
      · simp_all [Expr.toNodes, exprNodes]
      · simp [Expr.toNodes, exprNodes]
    · split
      · exact .recover (none _)
      · apply Draws.recover
        apply Draws.next
        intro _
        exact selves () trivial _

theorem parenArguments_draws : Drawing stands mode 0 (parenArguments inner) Expr.toNodes := by
  intro cursor
  apply Draws.next
  intro _
  exact items_draws inners ")" .arguments .arguments _

theorem argument?_draws (line : Nat) :
    Drawing stands mode 0 (argument? inner line) fun argument => Expr.toNodes argument.toList := by
  intro cursor
  apply Draws.here
  split
  · apply Draws.bind (inners _)
    intro argument _ places
    apply Draws.pure
    · simpa [Expr.toNodes, exprNodes] using places
    · simp [Expr.toNodes, exprNodes]
  · apply Draws.pure <;> simp [Expr.toNodes]

theorem spacedArguments_draws (line : Nat) :
    Drawing stands mode 0 (spacedArguments inner line) Expr.toNodes := by
  refine drawing_tie (fun _ => True) (fun _ => 0) ?_ ?_ () trivial
  · intro _ _ cursor
    apply Draws.pure <;> simp [Expr.toNodes]
  · intro self selves _ _ cursor
    apply Draws.bind (argument?_draws inners line _)
    intro argument next places
    cases argument with
    | none => apply Draws.pure <;> simp [Expr.toNodes]
    | some argument =>
        apply Draws.bind (selves () trivial _)
        intro more _ places'
        apply Draws.pure
        · simp_all [Expr.toNodes]
        · simp [Expr.toNodes]

theorem callArguments_draws (line : Nat) :
    Drawing stands mode 0 (callArguments inner line) Expr.toNodes := by
  intro cursor
  apply Draws.here
  split
  · exact parenArguments_draws inners _
  · exact spacedArguments_draws inners line _

omit inners in
theorem method?_draws (callee : Token) :
    Drawing stands mode 0 (method? callee) fun _ => [] := by
  intro cursor
  apply Draws.here
  apply Draws.knowing
  split
  · apply Draws.next
    intro _
    apply Draws.next
    intro _
    apply Draws.pure <;> simp
  · split
    · apply Draws.next
      intro _
      apply Draws.pure <;> simp
    · apply Draws.pure <;> simp

theorem callOf_draws {callee : Token} (place : stands callee.place) :
    Drawing stands mode {callee.call} (callOf inner callee) exprNodes := by
  -- the callee is taken already, and pays for the call
  intro cursor
  apply Draws.bind (method?_draws callee _)
  intro method next _
  apply Draws.bind (callArguments_draws inners callee.line _)
  intro arguments _ places
  apply Draws.pure
  · simp [exprNodes, Expr.toNode, place, places]
  · simp [exprNodes, Expr.toNode, Token.call]

/-- Right behind a word for a call any name may be called. -/
theorem explicitCall_draws :
    Draws stands mode true 0 cursor (explicitCall inner) exprNodes := by
  apply Draws.placed
  intro place
  apply Draws.here
  split
  · rename_i name
    apply Draws.nextCallee (Token.mayName_of_isName name) (Or.inl rfl)
    intro place
    rw [zero_add]
    exact callOf_draws inners place _
  · apply Draws.recover
    apply Draws.pure <;> simp [exprNodes, Expr.toNode, place]

theorem nameExpr_draws (opens : opening cursor.current = .name) :
    Draws stands mode false 0 cursor (nameExpr inner) exprNodes := by
  by_cases listed : mode.capabilities.allowsImplicitCall cursor.current.lexeme = true
  · apply Draws.nextCallee (Token.mayName_of_opening opens) (Or.inr listed)
    intro place
    apply Draws.here
    apply Draws.knowing
    rw [zero_add]
    split
    · exact callOf_draws inners place _
    · split <;> apply Draws.pure <;> simp [exprNodes, Expr.toNode, place]
  · apply Draws.next
    intro place
    apply Draws.here
    apply Draws.knowing
    have silent : cursor.advance.callsImplicitly mode.capabilities cursor.current = false := by
      simp [Cursor.callsImplicitly, listed]
    rw [silent]
    simp only [Bool.false_eq_true, ↓reduceIte]
    split <;> apply Draws.pure <;> simp [exprNodes, Expr.toNode, place]

theorem group_draws : Drawing stands mode 0 (group inner) exprNodes := by
  intro cursor
  apply Draws.next
  intro _
  apply Draws.bind (inners _)
  intro value next places
  apply Draws.bind (closing_draws ")" .group _)
  intro _ _ _
  apply Draws.pure places
  simp

theorem listExpr_draws : Drawing stands mode 0 (listExpr inner) exprNodes := by
  intro cursor
  apply Draws.next
  intro place
  apply Draws.bind (items_draws inners "]" .list .list _)
  intro entries _ places
  apply Draws.pure <;> simp [exprNodes, Expr.toNode, place, places]

omit inners in
theorem colon_draws (key : Token) : Drawing stands mode 0 (colon key) fun _ => [] := by
  intro cursor
  apply Draws.acceptSymbol
  · apply Draws.pure <;> simp
  · simp only [Bool.false_eq_true, ↓reduceIte]
    apply Draws.accept
    · apply Draws.pure <;> simp
    · apply Draws.noting
      rfl

theorem mapValue_draws {key : Token} (place : stands key.place) :
    Drawing stands mode 0 (mapValue inner key) exprNodes := by
  intro cursor
  apply Draws.here
  split
  · exact inners _
  · apply Draws.pure <;> simp [exprNodes, Expr.toNode, place]

theorem mapEntries_draws : Drawing stands mode 0 (mapEntries inner) Expr.entryNodes := by
  refine drawing_tie (fun _ => True) (fun _ => 0) ?_ ?_ () trivial
  · intro _ _ cursor
    apply Draws.pure <;> simp [Expr.entryNodes]
  · intro self selves _ _ cursor
    have none : ∀ cursor, Draws stands mode false 0 cursor (pure []) Expr.entryNodes := by
      intro cursor
      apply Draws.pure <;> simp [Expr.entryNodes]
    apply Draws.acceptSymbol (none _)
    simp only [Bool.false_eq_true, ↓reduceIte]
    apply Draws.acceptSymbol (selves () trivial _)
    simp only [Bool.false_eq_true, ↓reduceIte]
    apply Draws.here
    split
    · exact .recover (none _)
    · split
      · apply Draws.next
        intro place
        apply Draws.bind (colon_draws _ _)
        intro _ next _
        apply Draws.bind (mapValue_draws inners place _)
        intro value _ places
        apply Draws.bind (selves () trivial _)
        intro more _ places'
        apply Draws.pure
        · simp_all [Expr.entryNodes, exprNodes, keyOf]
        · simp [Expr.entryNodes, exprNodes]
      · apply Draws.recover
        apply Draws.next
        intro _
        exact selves () trivial _

theorem mapExpr_draws : Drawing stands mode 0 (mapExpr inner) exprNodes := by
  intro cursor
  apply Draws.next
  intro place
  apply Draws.bind (mapEntries_draws inners _)
  intro entries _ places
  apply Draws.pure <;> simp [exprNodes, Expr.toNode, place, places]

omit inners in
theorem literalOf_draws (value : Literal) :
    Drawing stands mode 0 (literalOf value) exprNodes := by
  intro cursor
  apply Draws.next
  intro place
  apply Draws.pure <;> simp [exprNodes, Expr.toNode, place]

omit inners in
theorem notPrimary_draws : Drawing stands mode 0 notPrimary exprNodes := by
  intro cursor
  apply Draws.placed
  intro place
  apply Draws.here
  apply Draws.recover
  split
  · apply Draws.pure <;> simp [exprNodes, Expr.toNode, place]
  · apply Draws.next
    intro _
    apply Draws.pure <;> simp [exprNodes, Expr.toNode, place]

omit inners in
theorem keyword?_of_opening_call {token : Token} (opens : opening token = .call) :
    token.keyword? = some .call := by
  simp only [opening] at opens
  repeat' split at opens
  all_goals first
    | assumption
    | cases opens

theorem primary_draws : Drawing stands mode 0 (primary inner) exprNodes := by
  -- the token at the cursor says of which sort the operand is
  intro cursor
  apply Draws.here
  cases opens : opening cursor.current with
  | literal value => exact literalOf_draws value _
  | name => exact nameExpr_draws inners opens
  | call =>
      apply Draws.nextWord (keyword?_of_opening_call opens)
      exact explicitCall_draws inners
  | group => exact group_draws inners _
  | list => exact listExpr_draws inners _
  | map => exact mapExpr_draws inners _
  | nothing => exact notPrimary_draws _

theorem indexes_draws {target : Expr} (place : target.toNode.At stands) :
    Drawing stands mode target.toNode.calls (indexes inner target) exprNodes := by
  -- the target is read before, and its calls go on as the credit
  refine drawing_tie (fun target => target.toNode.At stands) (fun target => target.toNode.calls)
    ?_ ?_ target place
  · intro target place cursor
    apply Draws.pure <;> simp [exprNodes, place]
  · intro self selves target place cursor
    apply Draws.here
    split
    · apply Draws.next
      intro place'
      apply Draws.bind (inners _)
      intro position next places
      apply Draws.bind (closing_draws "]" .index _)
      intro _ _ _
      have longer : (Expr.index target position cursor.current.place).toNode.At stands := by
        simp_all [Expr.toNode, exprNodes]
      have goes := selves _ longer
      simpa [Expr.toNode, exprNodes] using goes _
    · apply Draws.pure <;> simp [exprNodes, place]

theorem indexed_draws : Drawing stands mode 0 (indexed inner) exprNodes := by
  intro cursor
  apply Draws.bind (primary_draws inners _)
  intro target next places
  have place : target.toNode.At stands := by simpa [exprNodes] using places
  simpa [exprNodes] using indexes_draws inners place next

theorem unary_draws : Drawing stands mode 0 (unary inner) exprNodes := by
  refine drawing_tie (fun _ => True) (fun _ => 0) (fun _ _ => noExpression_draws) ?_ () trivial
  intro self selves _ _ cursor
  apply Draws.here
  split
  · split
    · apply Draws.next
      intro place
      apply Draws.bind (selves () trivial _)
      intro operand _ places
      apply Draws.pure
      · simp_all [exprNodes, Expr.toNode]
      · simp [exprNodes, Expr.toNode]
    · exact indexed_draws inners _
  · exact indexed_draws inners _

end

section

variable {stands : Place → Prop} {mode : Mode}

theorem operators_draws {inner : Nat → Rule Expr}
    (inners : ∀ least, Drawing stands mode 0 (inner least) exprNodes) (least : Nat) {left : Expr}
    (place : left.toNode.At stands) :
    Drawing stands mode left.toNode.calls (operators inner least left) exprNodes := by
  refine drawing_tie (fun left => left.toNode.At stands) (fun left => left.toNode.calls)
    ?_ ?_ left place
  · intro left place cursor
    apply Draws.pure <;> simp [exprNodes, place]
  · intro self selves left place cursor
    have ends : Draws stands mode false left.toNode.calls cursor (pure left) exprNodes := by
      apply Draws.pure <;> simp [exprNodes, place]
    apply Draws.here
    split
    · rename_i op _
      split
      · apply Draws.next
        intro place'
        apply Draws.bind (inners _ _)
        intro right next places
        have longer : (Expr.binary op left right cursor.current.place).toNode.At stands := by
          simp_all [Expr.toNode, exprNodes]
        have goes := selves _ longer
        simpa [Expr.toNode, exprNodes] using goes _
      · exact ends
    · exact ends

theorem expressionOf_draws (least : Nat) :
    Drawing stands mode 0 (expressionOf least) exprNodes := by
  refine drawing_tie (fun _ => True) (fun _ => 0) (fun _ _ => noExpression_draws) ?_ least trivial
  intro self selves least _ cursor
  have inners : ∀ least, Drawing stands mode 0 (self least) exprNodes :=
    fun least => selves least trivial
  apply Draws.bind (unary_draws (inners 1) _)
  intro left next places
  have place : left.toNode.At stands := by simpa [exprNodes] using places
  simpa [exprNodes] using operators_draws inners least place next

theorem expression_draws : Drawing stands mode 0 expression exprNodes :=
  expressionOf_draws 1

end

end Parlance.Grammar
