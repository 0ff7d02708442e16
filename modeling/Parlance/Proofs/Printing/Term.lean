import Parlance.Proofs.Printing.Extent
import Parlance.Proofs.Reading.Operand

/-!
Terms read back. A printed term is read as the expression that it denotes, whatever ends it.
-/

namespace Parlance.Printing

open Grammar Rule

variable {capabilities : Capabilities} {strict : Bool}

def Item.literal? : Item capabilities → Option Literal
  | .number numeral => some (.number numeral.value)
  | .text content => some (.text content)
  | .fixed .yes => some (.boolean true)
  | .fixed .no => some (.boolean false)
  | .fixed .nothing => some .void
  | _ => none

namespace Item.Spells

variable {item : Item capabilities} {token : Token}

theorem opening_eq (spells : item.Spells token) {value : Literal}
    (known : item.literal? = some value) : opening token = .literal value := by
  have word := spells.keyword?_eq
  obtain ⟨kind, lexeme⟩ := spells
  cases item with
  | number numeral =>
      obtain rfl := Option.some.inj known
      simp only [opening, kind, Item.kind, lexeme, Item.lexeme, numeral.numberValue_text]
  | text content =>
      obtain rfl := Option.some.inj known
      simp only [opening, kind, Item.kind, lexeme, Item.lexeme]
  | name name => cases known
  | fixed fixed =>
      cases fixed with
      | yes | no | nothing =>
          obtain rfl := Option.some.inj known
          simp only [Item.kind, Fixed.kind, Fixed.isWord, ↓reduceIte, Item.keyword?,
            Fixed.keyword?] at kind word
          simp only [opening, kind, word]
      | _ => cases known

theorem starts (spells : item.Spells token)
    (known : item.literal?.isSome = true ∨ (∃ name, item = .name name) ∨ item = .fixed .openParen) :
    token.startsExpression = true := by
  have word := spells.keyword?_eq
  obtain ⟨kind, lexeme⟩ := spells
  rcases known with literal | ⟨name, rfl⟩ | rfl
  · cases item with
    | number | text | name => simp [Token.startsExpression, kind, Item.kind]
    | fixed fixed =>
        cases fixed with
        | yes | no | nothing =>
            simp [Token.startsExpression, kind, word, Item.kind, Fixed.kind, Fixed.isWord,
              Item.keyword?, Fixed.keyword?, Token.isExpressionKeyword]
        | _ => cases literal
  · simp [Token.startsExpression, kind, Item.kind]
  · simp [Token.startsExpression, kind, lexeme, Item.kind, Item.lexeme, Fixed.kind, Fixed.isWord,
      Fixed.spelling]

theorem unaryOp?_eq (spells : item.Spells token)
    (known : item.literal?.isSome = true ∨ (∃ name, item = .name name) ∨ item = .fixed .openParen) :
    token.keyword?.bind (·.unaryOp?) = none := by
  rw [spells.keyword?_eq]
  rcases known with literal | ⟨name, rfl⟩ | rfl
  · cases item with
    | number | text | name => rfl
    | fixed fixed =>
        cases fixed with
        | yes | no | nothing => rfl
        | _ => cases literal
  · rfl
  · rfl

end Item.Spells

theorem Term.spelt_binary {op : BinaryOp} {left right : Term capabilities} {tokens : List Token}
    (spelt : Spelt (Term.binary op left right).items tokens) :
    ∃ paren leftTokens sign rightTokens closer,
      tokens = paren :: (leftTokens ++ sign :: (rightTokens ++ [closer])) ∧
      (Item.fixed .openParen : Item capabilities).Spells paren ∧ Spelt left.items leftTokens ∧
      (Item.fixed (.binary op) : Item capabilities).Spells sign ∧
      Spelt right.items rightTokens ∧
      (Item.fixed .closeParen : Item capabilities).Spells closer := by
  obtain ⟨paren, _, rfl, opens, spelt⟩ := spelt_cons spelt
  obtain ⟨leftTokens, _, rfl, leftSpelt, spelt⟩ := spelt_append spelt
  obtain ⟨sign, _, rfl, signs, spelt⟩ := spelt_cons spelt
  obtain ⟨rightTokens, _, rfl, rightSpelt, spelt⟩ := spelt_append spelt
  obtain ⟨closer, _, rfl, closes, rfl⟩ := spelt_cons spelt
  exact ⟨paren, leftTokens, sign, rightTokens, closer, rfl, opens, leftSpelt, signs, rightSpelt,
    closes⟩

theorem Term.starts (term : Term capabilities) {tokens : List Token}
    (spelt : Spelt term.items tokens) :
    ∃ first rest, tokens = first :: rest ∧ first.startsExpression = true := by
  cases term with
  | number | text | nothing =>
      obtain ⟨token, behind, rfl, spells, _⟩ := spelt_cons spelt
      exact ⟨token, behind, rfl, spells.starts (Or.inl rfl)⟩
  | boolean value =>
      obtain ⟨token, behind, rfl, spells, _⟩ := spelt_cons spelt
      exact ⟨token, behind, rfl, spells.starts (Or.inl (by cases value <;> rfl))⟩
  | name name =>
      obtain ⟨token, behind, rfl, spells, _⟩ := spelt_cons spelt
      exact ⟨token, behind, rfl, spells.starts (Or.inr (Or.inl ⟨name, rfl⟩))⟩
  | binary op left right =>
      obtain ⟨token, behind, rfl, spells, _⟩ := spelt_cons spelt
      exact ⟨token, behind, rfl, spells.starts (Or.inr (Or.inr rfl))⟩

theorem primary_name {expression : Rule Expr} {name : Name capabilities} {token : Token}
    {rest : List Token} (spells : (Item.name name).Spells token) (lastStop : Nat) :
    primary expression ⟨strict, capabilities⟩ ⟨token :: rest, lastStop⟩ =
      .done (.ident name.text token.place) ⟨rest, token.stop⟩ [] := by
  have opens : opening token = .name := by simp [opening, spells.kind, Item.kind]
  have lexeme : token.lexeme = name.text := spells.lexeme
  have noCall : capabilities.allowsImplicitCall name.text = false := name.noCall
  have noNumber : numberWord? name.text = none := name.noNumber
  simp [primary, here, opens, nameExpr, next, Cursor.advance_cons spells.open',
    Rule.capabilities, Cursor.callsImplicitly, lexeme, noCall, noNumber]

theorem opening_openParen {token : Token}
    (spells : (Item.fixed .openParen : Item capabilities).Spells token) :
    opening token = .group := by
  simp [opening, spells.kind, spells.keyword?_eq, spells.isSymbol_eq, Item.kind, Fixed.kind,
    Fixed.isWord, Item.keyword?, Fixed.keyword?, Item.lexeme, Fixed.spelling]

theorem calm_closeParen {token : Token}
    (spells : (Item.fixed .closeParen : Item capabilities).Spells token) : token.Calm := by
  constructor
  · simp [spells.isSymbol_eq, Item.lexeme, Fixed.spelling]
  · rw [spells.keyword?_eq]
    rfl

theorem literal_reads {expression : Rule Expr} {item : Item capabilities} {value : Literal}
    {token after : Token} (spells : item.Spells token) (known : item.literal? = some value)
    (unindexed : after.isSymbol "[" = false) (rest : List Token) (lastStop : Nat) :
    unary expression ⟨strict, capabilities⟩ ⟨token :: after :: rest, lastStop⟩ =
      .done (.literal value token.place) ⟨after :: rest, token.stop⟩ [] :=
  unary_literal expression _ spells.open' (spells.opening_eq known)
    (spells.unaryOp?_eq (Or.inl (known ▸ rfl))) unindexed rest lastStop

/-- Operands with a sign between them are read as one operation, up to what continues none. -/
theorem operation_reads {op : BinaryOp} {leftTokens rightTokens rest : List Token}
    {sign after : Token} (signs : (Item.fixed (.binary op) : Item capabilities).Spells sign)
    (calm : after.Calm) {start leftStop rightStop : Nat} {leftValue rightValue : Expr}
    (leftRead : unary (expressionWithin
        ⟨leftTokens ++ sign :: (rightTokens ++ after :: rest), start⟩ 1) ⟨strict, capabilities⟩
        ⟨leftTokens ++ sign :: (rightTokens ++ after :: rest), start⟩ =
      .done leftValue ⟨sign :: (rightTokens ++ after :: rest), leftStop⟩ [])
    (rightRead : unary (expressionWithin ⟨rightTokens ++ after :: rest, sign.stop⟩ 1)
        ⟨strict, capabilities⟩ ⟨rightTokens ++ after :: rest, sign.stop⟩ =
      .done rightValue ⟨after :: rest, rightStop⟩ [])
    (starts : ∃ first others, rightTokens = first :: others ∧ first.startsExpression = true) :
    expressionOf 1 ⟨strict, capabilities⟩
        ⟨leftTokens ++ sign :: (rightTokens ++ after :: rest), start⟩ =
      .done (.binary op leftValue rightValue sign.place) ⟨after :: rest, rightStop⟩ [] := by
  rw [expressionOf_apply, leftRead, Reading.done_andThen]
  refine operators_step ?_ ?_ ?_ ?_ ?_ calm
  · simp only [Cursor.binaryOp?, Cursor.current_cons, signs.keyword?_eq]
    exact Keyword.binaryOp?_eq_some_iff.mpr rfl
  · cases op <;> decide
  · obtain ⟨first, others, rfl, starts⟩ := starts
    exact starts
  · rw [Cursor.advance_cons signs.open', expressionWithin_shorter (by simp; omega)]
    exact expressionOf_of_unary rightRead calm
  · simp only [List.length_append, List.length_cons]
    omega

/-- A term is read up to whatever is no bracket. -/
theorem Term.unary_reads (term : Term capabilities) {tokens rest : List Token} {after : Token}
    (spelt : Spelt term.items tokens) (unindexed : after.isSymbol "[" = false)
    {expression : Rule Expr}
    (self : ∀ cursor, cursor.rest.length < (tokens ++ after :: rest).length →
      expression ⟨strict, capabilities⟩ cursor = expressionOf 1 ⟨strict, capabilities⟩ cursor)
    (lastStop : Nat) :
    ∃ value stop, unary expression ⟨strict, capabilities⟩ ⟨tokens ++ after :: rest, lastStop⟩ =
      .done value ⟨after :: rest, stop⟩ [] ∧ value.unplaced = term.denote := by
  induction term generalizing tokens rest after expression lastStop with
  | number numeral =>
      obtain ⟨token, _, rfl, spells, rfl⟩ := spelt_cons spelt
      exact ⟨_, _, literal_reads spells rfl unindexed rest lastStop, rfl⟩
  | text content =>
      obtain ⟨token, _, rfl, spells, rfl⟩ := spelt_cons spelt
      exact ⟨_, _, literal_reads spells rfl unindexed rest lastStop, rfl⟩
  | boolean value =>
      obtain ⟨token, _, rfl, spells, rfl⟩ := spelt_cons spelt
      have known : (Item.fixed (if value then .yes else .no) : Item capabilities).literal? =
          some (.boolean value) := by cases value <;> rfl
      exact ⟨_, _, literal_reads spells known unindexed rest lastStop, rfl⟩
  | nothing =>
      obtain ⟨token, _, rfl, spells, rfl⟩ := spelt_cons spelt
      exact ⟨_, _, literal_reads spells rfl unindexed rest lastStop, rfl⟩
  | name name =>
      obtain ⟨token, _, rfl, spells, rfl⟩ := spelt_cons spelt
      have operator : Cursor.unaryOp? ⟨token :: after :: rest, lastStop⟩ = none := by
        simp [Cursor.unaryOp?, spells.keyword?_eq, Item.keyword?]
      exact ⟨_, _, unary_of_primary operator (primary_name spells lastStop) unindexed, rfl⟩
  | binary op left right ih ih' =>
      obtain ⟨paren, leftTokens, sign, rightTokens, closer, rfl, opens, leftSpelt, signs,
        rightSpelt, closes⟩ := spelt_binary spelt
      simp only [List.cons_append, List.append_assoc, List.nil_append] at self ⊢
      have ends := calm_closeParen closes
      have bracket : sign.isSymbol "[" = false := by
        rw [signs.isSymbol_eq]
        cases op <;> rfl
      have closed : closer.isSymbol ")" = true := closes.isSymbol_eq ")"
      -- the left operand ends at the sign, the right one at the parenthesis
      obtain ⟨leftValue, leftStop, leftRead, leftMeans⟩ := ih leftSpelt bracket
        (expressionWithin_one
          ⟨leftTokens ++ sign :: (rightTokens ++ closer :: after :: rest), paren.stop⟩ _) paren.stop
      obtain ⟨rightValue, rightStop, rightRead, rightMeans⟩ := ih' rightSpelt ends.unindexed
        (expressionWithin_one ⟨rightTokens ++ closer :: after :: rest, sign.stop⟩ _) sign.stop
      have operation := operation_reads signs ends leftRead rightRead (right.starts rightSpelt)
      rw [← self _ (by simp)] at operation
      have read := unary_group opens.open' (opening_openParen opens)
        (opens.unaryOp?_eq (Or.inr (Or.inr rfl))) operation closed unindexed lastStop
      refine ⟨_, _, read, ?_⟩
      simp [Expr.unplaced, Term.denote, leftMeans, rightMeans]

theorem Term.expression_reads (term : Term capabilities) (strict : Bool) {tokens : List Token}
    (spelt : Spelt term.items tokens) {after : Token} (calm : after.Calm) (rest : List Token)
    (lastStop : Nat) :
    ∃ value stop, expression ⟨strict, capabilities⟩ ⟨tokens ++ after :: rest, lastStop⟩ =
      .done value ⟨after :: rest, stop⟩ [] ∧ value.unplaced = term.denote := by
  obtain ⟨value, stop, read, means⟩ := term.unary_reads spelt calm.unindexed
    (expressionWithin_one ⟨tokens ++ after :: rest, lastStop⟩ ⟨strict, capabilities⟩) lastStop
  exact ⟨value, stop, expressionOf_of_unary read calm, means⟩

end Parlance.Printing
