import Parlance.Proofs.Spelling.Rule

/-!
Expressions spelled anew. Each rule for expressions reads them similarly if the rule for inner
expressions does.
-/

namespace Parlance.Grammar

open Rule
open Reading (Similar)

section

variable {mode : Mode} {cursor cursor' : Cursor} {inner inner' : Rule Expr}

theorem closing_resembles (symbol : String) (bracket : Bracket) :
    Resembles mode Eq (closing symbol bracket) (closing symbol bracket) := by
  intro cursor cursor' near
  refine similar_bind (similar_acceptSymbol symbol near) ?_
  rintro closed _ next next' rfl near
  cases closed with
  | true => exact similar_pure near rfl
  | false => exact similar_recover rfl near

theorem missing_similar {flaw flaw' : Flaw} (kind : flaw'.kind = flaw.kind)
    (near : cursor.Respelt cursor') {expr expr' : Expr} (same : Same expr expr') :
    Similar Same ((do recover flaw; pure expr : Rule Expr) mode cursor)
      ((do recover flaw'; pure expr' : Rule Expr) mode cursor') := by
  refine similar_bind (similar_recover kind near) ?_
  rintro _ _ next next' _ near
  exact similar_pure near same

theorem voidAt_same (near : cursor.Respelt cursor') :
    Same (Expr.literal .void cursor.current.place) (Expr.literal .void cursor'.current.place) :=
  Same.of_eq (by rw [near.current.place_eq])

theorem noExpression_resembles : Resembles mode Same noExpression noExpression := by
  intro cursor cursor' near
  refine similar_here (missing_similar ?_ near (voidAt_same near))
  rfl

variable (inners : Resembles mode Same inner inner')

include inners in
theorem items_resembles (symbol : String) (bracket : Bracket) (inside : Inside) :
    Resembles mode Same (items inner symbol bracket inside)
      (items inner' symbol bracket inside) := by
  refine similar_tie Eq (fun _ _ _ _ _ near => similar_pure near (Same.refl _)) ?_ rfl
  intro self self' selves _ _ _ cursor cursor' near
  refine similar_bind (similar_acceptSymbol symbol near) ?_
  rintro closed _ next next' rfl near
  cases closed with
  | true => exact similar_pure near (Same.refl _)
  | false =>
      refine similar_bind (similar_acceptSymbol "," near) ?_
      rintro comma _ last last' rfl near
      cases comma with
      | true => exact selves () () rfl last last' near
      | false =>
          refine similar_here ?_
          simp only [near.current.startsArgument_eq, near.current.isBoundary_eq]
          split
          · refine similar_bind (inners last last' near) ?_
            intro item item' next next' items near
            refine similar_bind (selves () () rfl next next' near) ?_
            intro more more' last last' mores near
            exact similar_pure near (items.cons mores)
          · split
            · exact similar_recover_pure rfl near (Same.refl _)
            · refine similar_bind (similar_recover rfl near) ?_
              rintro _ _ next next' _ near
              exact similar_next (selves () () rfl _ _ near.advance)

include inners in
theorem parenArguments_resembles :
    Resembles mode Same (parenArguments inner) (parenArguments inner') := by
  intro cursor cursor' near
  exact similar_next (items_resembles inners ")" .arguments .arguments _ _ near.advance)

include inners in
theorem argument?_resembles (line : Nat) :
    Resembles mode Same (argument? inner line) (argument? inner' line) := by
  intro cursor cursor' near
  refine similar_here ?_
  simp only [near.current.startsExpression_eq, near.atMap_eq, near.isOnLine_eq]
  split
  · refine similar_bind (inners cursor cursor' near) ?_
    intro argument argument' next next' same near
    exact similar_pure near same.some
  · exact similar_pure near (Same.refl _)

include inners in
theorem spacedArguments_resembles (line : Nat) :
    Resembles mode Same (spacedArguments inner line) (spacedArguments inner' line) := by
  refine similar_tie Eq (fun _ _ _ _ _ near => similar_pure near (Same.refl _)) ?_ rfl
  intro self self' selves _ _ _ cursor cursor' near
  refine similar_bind (argument?_resembles inners line cursor cursor' near) ?_
  intro argument argument' next next' same near
  cases argument with
  | none =>
      obtain rfl := same.eq_none
      exact similar_pure near (Same.refl _)
  | some argument =>
      obtain ⟨argument', rfl, first⟩ := same.of_some
      refine similar_bind (selves () () rfl next next' near) ?_
      intro more more' last last' mores near
      exact similar_pure near (first.cons mores)

include inners in
theorem callArguments_resembles (line : Nat) :
    Resembles mode Same (callArguments inner line) (callArguments inner' line) := by
  intro cursor cursor' near
  refine similar_here ?_
  simp only [near.isAtSymbol_eq]
  split
  · exact parenArguments_resembles inners cursor cursor' near
  · exact spacedArguments_resembles inners line cursor cursor' near

theorem method?_resembles (callee : Token) :
    Resembles mode Same (method? callee) (method? callee) := by
  -- the method keeps the spelling of its keyword
  intro cursor cursor' near
  refine similar_here (similar_capabilities ?_)
  simp only [near.atPointMethod_eq, near.atBareMethod_eq]
  split
  · refine similar_next (similar_next ?_)
    exact similar_pure near.advance.advance near.advance.current.lexeme_same.some
  · split
    · exact similar_next (similar_pure near.advance near.current.lexeme_same.some)
    · exact similar_pure near (Same.refl _)

include inners in
theorem callOf_resembles (callee : Token) :
    Resembles mode Same (callOf inner callee) (callOf inner' callee) := by
  intro cursor cursor' near
  refine similar_bind (method?_resembles callee cursor cursor' near) ?_
  intro method method' next next' methods near
  refine similar_bind (callArguments_resembles inners callee.line next next' near) ?_
  intro arguments arguments' last last' args near
  exact similar_pure near (Expr.same_call methods args)

include inners in
theorem explicitCall_resembles :
    Resembles mode Same (explicitCall inner) (explicitCall inner') := by
  intro cursor cursor' near
  refine similar_here ?_
  simp only [near.current.isName_eq]
  split
  · rename_i name
    refine similar_next ?_
    rw [near.current.eq_of_isName name]
    exact callOf_resembles inners cursor.current _ _ near.advance
  · exact missing_similar rfl near (voidAt_same near)

include inners in
theorem nameExpr_similar (near : cursor.Respelt cursor')
    (name : cursor'.current = cursor.current) :
    Similar Same (nameExpr inner mode cursor) (nameExpr inner' mode cursor') := by
  refine similar_next (similar_here (similar_capabilities ?_))
  simp only [name, near.advance.callsImplicitly_eq]
  split
  · exact callOf_resembles inners cursor.current _ _ near.advance
  · cases numberWord? cursor.current.lexeme with
    | none => exact similar_pure near.advance (Same.refl _)
    | some value => exact similar_pure near.advance (Same.refl _)

include inners in
theorem group_resembles : Resembles mode Same (group inner) (group inner') := by
  intro cursor cursor' near
  refine similar_next ?_
  refine similar_bind (inners _ _ near.advance) ?_
  intro expr expr' next next' same near
  refine similar_bind (closing_resembles ")" .group next next' near) ?_
  rintro _ _ last last' _ near
  exact similar_pure near same

include inners in
theorem listExpr_resembles : Resembles mode Same (listExpr inner) (listExpr inner') := by
  intro cursor cursor' near
  refine similar_next ?_
  refine similar_bind (items_resembles inners "]" .list .list _ _ near.advance) ?_
  intro entries entries' next next' same after
  simp only [near.current.place_eq]
  exact similar_pure after (Expr.same_list same)

theorem colon_resembles (key key' : Token) : Resembles mode Eq (colon key) (colon key') := by
  intro cursor cursor' near
  refine similar_bind (similar_acceptSymbol ":" near) ?_
  rintro symbol _ next next' rfl near
  cases symbol with
  | true => exact similar_pure near rfl
  | false =>
      refine similar_bind (similar_accept .assignOp near) ?_
      rintro word _ last last' rfl near
      cases word with
      | true => exact similar_pure near rfl
      | false => exact similar_recover rfl near

include inners in
theorem mapValue_resembles {key key' : Token} (keys : Token.Respelt key key') :
    Resembles mode Same (mapValue inner key) (mapValue inner' key') := by
  intro cursor cursor' near
  refine similar_here ?_
  simp only [near.current.startsArgument_eq, keys.place_eq]
  split
  · exact inners cursor cursor' near
  · exact similar_pure near (Same.refl _)

include inners in
theorem mapEntries_resembles :
    Resembles mode Same (mapEntries inner) (mapEntries inner') := by
  refine similar_tie Eq (fun _ _ _ _ _ near => similar_pure near (Same.refl _)) ?_ rfl
  intro self self' selves _ _ _ cursor cursor' near
  refine similar_bind (similar_acceptSymbol "\x7d" near) ?_
  rintro closed _ next next' rfl near
  cases closed with
  | true => exact similar_pure near (Same.refl _)
  | false =>
      refine similar_bind (similar_acceptSymbol "," near) ?_
      rintro comma _ last last' rfl near
      cases comma with
      | true => exact selves () () rfl last last' near
      | false =>
          refine similar_here ?_
          simp only [near.atEnd_eq, near.current.isMapKey_eq]
          split
          · exact similar_recover_pure rfl near (Same.refl _)
          · split
            · refine similar_next ?_
              have keys := near.current
              refine similar_bind (colon_resembles _ _ _ _ near.advance) ?_
              rintro _ _ next next' _ near
              refine similar_bind (mapValue_resembles inners keys next next' near) ?_
              intro value value' later later' values near
              refine similar_bind (selves () () rfl later later' near) ?_
              intro more more' last last' mores near
              exact similar_pure near ((keys.keyOf_same.pair values).cons mores)
            · refine similar_bind (similar_recover rfl near) ?_
              rintro _ _ next next' _ near
              exact similar_next (selves () () rfl _ _ near.advance)

include inners in
theorem mapExpr_resembles : Resembles mode Same (mapExpr inner) (mapExpr inner') := by
  intro cursor cursor' near
  refine similar_next ?_
  refine similar_bind (mapEntries_resembles inners _ _ near.advance) ?_
  intro entries entries' next next' same after
  simp only [near.current.place_eq]
  exact similar_pure after (Expr.same_map same)

theorem notPrimary_resembles : Resembles mode Same notPrimary notPrimary := by
  intro cursor cursor' near
  refine similar_here ?_
  have void := voidAt_same near
  simp only [near.current.isBoundary_eq]
  refine similar_bind (similar_recover rfl near) ?_
  rintro _ _ next next' _ near
  split
  · exact similar_pure near void
  · exact similar_next (similar_pure near.advance void)

theorem literalOf_resembles (value : Literal) :
    Resembles mode Same (literalOf value) (literalOf value) := by
  intro cursor cursor' near
  refine similar_next ?_
  simp only [near.current.place_eq]
  exact similar_pure near.advance (Same.refl _)

include inners in
theorem primary_resembles : Resembles mode Same (primary inner) (primary inner') := by
  intro cursor cursor' near
  refine similar_here ?_
  simp only [near.current.opening_eq]
  cases opens : opening cursor.current with
  | literal value => exact literalOf_resembles value cursor cursor' near
  | name => exact nameExpr_similar inners near (near.current.eq_of_opening opens)
  | call => exact similar_next (explicitCall_resembles inners _ _ near.advance)
  | group => exact group_resembles inners cursor cursor' near
  | list => exact listExpr_resembles inners cursor cursor' near
  | map => exact mapExpr_resembles inners cursor cursor' near
  | nothing => exact notPrimary_resembles cursor cursor' near

include inners in
theorem indexes_resembles {target target' : Expr} (targets : Same target target') :
    Resembles mode Same (indexes inner target) (indexes inner' target') := by
  refine similar_tie Same (fun _ _ same _ _ near => similar_pure near same) ?_ targets
  intro self self' selves target target' targets cursor cursor' near
  refine similar_here ?_
  simp only [near.isAtSymbol_eq, near.touches_eq]
  split
  · refine similar_next ?_
    refine similar_bind (inners _ _ near.advance) ?_
    intro position position' next next' positions after
    refine similar_bind (closing_resembles "]" .index next next' after) ?_
    rintro _ _ last last' _ after
    simp only [near.current.place_eq]
    exact selves _ _ (Expr.same_index targets positions) last last' after
  · exact similar_pure near targets

include inners in
theorem indexed_resembles : Resembles mode Same (indexed inner) (indexed inner') := by
  intro cursor cursor' near
  refine similar_bind (primary_resembles inners cursor cursor' near) ?_
  intro target target' next next' targets near
  exact indexes_resembles inners targets next next' near

include inners in
theorem unary_resembles : Resembles mode Same (unary inner) (unary inner') := by
  refine similar_tie Eq (fun _ _ _ => noExpression_resembles) ?_ rfl
  intro self self' selves _ _ _ cursor cursor' near
  refine similar_here ?_
  simp only [near.unaryOp?_eq, (near.ahead 1).startsExpression_eq]
  cases cursor.unaryOp? with
  | none => exact indexed_resembles inners cursor cursor' near
  | some op =>
      simp only
      split
      · refine similar_next ?_
        refine similar_bind (selves () () rfl _ _ near.advance) ?_
        intro operand operand' next next' operands after
        simp only [near.current.place_eq]
        exact similar_pure after (Expr.same_unary op operands)
      · exact indexed_resembles inners cursor cursor' near

end

section

variable {mode : Mode} {inner inner' : Nat → Rule Expr}
variable (inners : ∀ least, Resembles mode Same (inner least) (inner' least))

include inners in
theorem operators_resembles (least : Nat) {left left' : Expr} (lefts : Same left left') :
    Resembles mode Same (operators inner least left) (operators inner' least left') := by
  refine similar_tie Same (fun _ _ same _ _ near => similar_pure near same) ?_ lefts
  intro self self' selves left left' lefts cursor cursor' near
  refine similar_here ?_
  simp only [near.binaryOp?_eq, (near.ahead 1).startsExpression_eq]
  cases cursor.binaryOp? with
  | none => exact similar_pure near lefts
  | some op =>
      simp only
      split
      · refine similar_next ?_
        refine similar_bind (inners _ _ _ near.advance) ?_
        intro right right' next next' rights after
        simp only [near.current.place_eq]
        exact selves _ _ (Expr.same_binary op lefts rights) next next' after
      · exact similar_pure near lefts

end

theorem expressionOf_resembles {mode : Mode} (least : Nat) :
    Resembles mode Same (expressionOf least) (expressionOf least) := by
  refine similar_tie Eq (fun _ _ _ => noExpression_resembles) ?_ rfl
  rintro self self' selves least _ rfl cursor cursor' near
  have inners := fun least => selves least least rfl
  refine similar_bind (unary_resembles (inners 1) cursor cursor' near) ?_
  intro left left' next next' lefts near
  exact operators_resembles inners least lefts next next' near

theorem expression_resembles {mode : Mode} : Resembles mode Same expression expression :=
  expressionOf_resembles 1

end Parlance.Grammar
