import Parlance.Grammar.Expression

/-!
Where expressions end. An operand ends before whatever is no bracket, an expression before whatever
is no operator either.
-/

namespace Parlance

structure Token.Calm (token : Token) : Prop where
  unindexed : token.isSymbol "[" = false
  operator : token.keyword?.bind (·.binaryOp?) = none

theorem Token.not_isSymbol_of_starts {token : Token} (starts : token.startsExpression = true)
    {symbol : String} (other : ["(", "[", "-", "!"].contains symbol = false) :
    token.isSymbol symbol = false := by
  refine Bool.eq_false_iff.mpr fun found => ?_
  simp only [isSymbol, Bool.and_eq_true, decide_eq_true_eq] at found
  simp only [startsExpression, found.1, found.2, other] at starts
  cases starts

namespace Grammar

open Rule

@[simp] theorem Rule.map_apply {α β : Type} (f : α → β) (rule : Rule α) (mode : Mode)
    (cursor : Cursor) : (f <$> rule) mode cursor =
      (rule mode cursor).andThen fun value next => .done (f value) next [] := rfl

namespace Cursor

@[simp] theorem current_cons (token : Token) (rest : List Token) (lastStop : Nat) :
    Cursor.current ⟨token :: rest, lastStop⟩ = token := rfl

@[simp] theorem ahead_cons (token : Token) (rest : List Token) (lastStop count : Nat) :
    Cursor.ahead ⟨token :: rest, lastStop⟩ (count + 1) = Cursor.ahead ⟨rest, lastStop⟩ count := rfl

theorem advance_cons {token : Token} (other : token.kind ≠ .finish) (rest : List Token)
    (lastStop : Nat) : Cursor.advance ⟨token :: rest, lastStop⟩ = ⟨rest, token.stop⟩ := by
  simp [Cursor.advance, other]

end Cursor

variable {mode : Mode} {cursor : Cursor}

theorem indexes_unindexed (expression : Rule Expr) (target : Expr)
    (ends : cursor.current.isSymbol "[" = false) :
    indexes expression target mode cursor = .done target cursor [] := by
  have bracket : cursor.isAtSymbol "[" = false := ends
  simp [indexes, indexes.round, tie_apply, here, bracket]

theorem operators_calm (expression : Nat → Rule Expr) (least : Nat) (left : Expr)
    (ends : cursor.current.Calm) :
    operators expression least left mode cursor = .done left cursor [] := by
  have operator : cursor.binaryOp? = none := ends.operator
  simp [operators, operators.round, tie_apply, here, operator]

/-- An operator takes the operand behind it, and further operators follow. -/
theorem operators_more {expression : Nat → Rule Expr} {least : Nat} {op : BinaryOp}
    {left right : Expr} {next : Cursor} (operator : cursor.binaryOp? = some op)
    (least_le : least ≤ op.precedence)
    (starts : (cursor.ahead 1).startsExpression = true)
    (read : expression (op.precedence + 1) mode cursor.advance = .done right next [])
    (shorter : next.rest.length < cursor.rest.length) :
    operators expression least left mode cursor =
      operators expression least (.binary op left right cursor.current.place) mode next := by
  rw [operators, tie_apply]
  simp only [operators.round, bind_apply, here, Reading.done_andThen, operator, least_le, starts,
    decide_true, Bool.and_self, ↓reduceIte, Rule.next, read, granted, shorter]

/-- An operator takes the operand behind it, and there the expression ends. -/
theorem operators_step {expression : Nat → Rule Expr} {least : Nat} {op : BinaryOp}
    {left right : Expr} {next : Cursor} (operator : cursor.binaryOp? = some op)
    (least_le : least ≤ op.precedence)
    (starts : (cursor.ahead 1).startsExpression = true)
    (read : expression (op.precedence + 1) mode cursor.advance = .done right next [])
    (shorter : next.rest.length < cursor.rest.length) (ends : next.current.Calm) :
    operators expression least left mode cursor =
      .done (.binary op left right cursor.current.place) next [] := by
  rw [operators_more operator least_le starts read shorter]
  exact operators_calm expression least _ ends

theorem unary_of_primary {expression : Rule Expr} {value : Expr} {next : Cursor}
    (operator : cursor.unaryOp? = none)
    (read : primary expression mode cursor = .done value next [])
    (ends : next.current.isSymbol "[" = false) :
    unary expression mode cursor = .done value next [] := by
  simp [unary, unary.round, tie_apply, here, operator, indexed, read,
    indexes_unindexed expression value ends]

theorem primary_literal (expression : Rule Expr) (mode : Mode) {cursor : Cursor} {value : Literal}
    (opens : opening cursor.current = .literal value) :
    primary expression mode cursor =
      .done (.literal value cursor.current.place) cursor.advance [] := by
  simp [primary, here, opens, literalOf, next]

theorem unary_literal (expression : Rule Expr) (mode : Mode) {token after : Token}
    {value : Literal} (other : token.kind ≠ .finish) (opens : opening token = .literal value)
    (operator : token.keyword?.bind (·.unaryOp?) = none) (unindexed : after.isSymbol "[" = false)
    (rest : List Token) (lastStop : Nat) :
    unary expression mode ⟨token :: after :: rest, lastStop⟩ =
      .done (.literal value token.place) ⟨after :: rest, token.stop⟩ [] := by
  have read : primary expression mode ⟨token :: after :: rest, lastStop⟩ = _ :=
    primary_literal expression mode opens
  rw [Cursor.advance_cons other] at read
  exact unary_of_primary operator read unindexed

theorem primary_group {expression : Rule Expr} {token closer : Token} {inside rest : List Token}
    {value : Expr} {stop : Nat} (other : token.kind ≠ .finish) (opens : opening token = .group)
    (read : expression mode ⟨inside, token.stop⟩ = .done value ⟨closer :: rest, stop⟩ [])
    (closes : closer.isSymbol ")" = true) (lastStop : Nat) :
    primary expression mode ⟨token :: inside, lastStop⟩ = .done value ⟨rest, closer.stop⟩ [] := by
  have closed : closer.kind ≠ .finish := by
    intro finish
    simp [Token.isSymbol, finish] at closes
  simp [primary, here, opens, group, Rule.next, Cursor.advance_cons other, read, closing,
    acceptSymbol, Cursor.isAtSymbol, closes, Cursor.advance_cons closed]

theorem unary_group {expression : Rule Expr} {token closer after : Token} {inside rest : List Token}
    {value : Expr} {stop : Nat} (other : token.kind ≠ .finish) (opens : opening token = .group)
    (operator : token.keyword?.bind (·.unaryOp?) = none)
    (read : expression mode ⟨inside, token.stop⟩ = .done value ⟨closer :: after :: rest, stop⟩ [])
    (closes : closer.isSymbol ")" = true) (unindexed : after.isSymbol "[" = false)
    (lastStop : Nat) :
    unary expression mode ⟨token :: inside, lastStop⟩ =
      .done value ⟨after :: rest, closer.stop⟩ [] :=
  unary_of_primary operator (primary_group other opens read closes lastStop) unindexed

theorem unary_prefix {expression : Rule Expr} {op : UnaryOp} {value : Expr} {next : Cursor}
    (operator : cursor.unaryOp? = some op) (starts : (cursor.ahead 1).startsExpression = true)
    (shorter : cursor.advance.rest.length < cursor.rest.length)
    (read : unary expression mode cursor.advance = .done value next []) :
    unary expression mode cursor = .done (.unary op value cursor.current.place) next [] := by
  rw [unary] at read
  rw [unary, tie_apply]
  simp only [unary.round, bind_apply, here, Reading.done_andThen, operator, starts, ↓reduceIte,
    Rule.next, granted, shorter, read, pure_apply]

/-- A bracket that touches what is before it takes the position in it, and further brackets
follow. -/
theorem indexes_index {expression : Rule Expr} {target position : Expr} {next : Cursor}
    (bracket : cursor.isAtSymbol "[" = true) (touches : cursor.touches = true)
    (read : expression mode cursor.advance = .done position next [])
    (closes : next.isAtSymbol "]" = true)
    (shorter : next.advance.rest.length < cursor.rest.length) :
    indexes expression target mode cursor =
      indexes expression (.index target position cursor.current.place) mode next.advance := by
  rw [indexes, tie_apply]
  simp only [indexes.round, bind_apply, here, Reading.done_andThen, bracket, touches,
    Bool.and_self, ↓reduceIte, Rule.next, read, closing, acceptSymbol, closes, pure_apply, granted,
    shorter]

/-- The expressions that may be read by one that begins at the cursor, or behind it. -/
def expressionWithin (start : Cursor) : Nat → Rule Expr :=
  granted start expressionOf fun _ => noExpression

theorem expressionWithin_shorter {start : Cursor}
    (shorter : cursor.rest.length < start.rest.length) (least : Nat) (mode : Mode) :
    expressionWithin start least mode cursor = expressionOf least mode cursor := by
  simp [expressionWithin, granted, shorter]

theorem expressionWithin_one (start : Cursor) (mode : Mode) :
    ∀ cursor, cursor.rest.length < start.rest.length →
      expressionWithin start 1 mode cursor = expressionOf 1 mode cursor :=
  fun _ shorter => expressionWithin_shorter shorter 1 mode

theorem expressionOf_apply (least : Nat) (mode : Mode) (cursor : Cursor) :
    expressionOf least mode cursor =
      (unary (expressionWithin cursor 1) mode cursor).andThen fun left next =>
        operators (expressionWithin cursor) least left mode next := by
  rw [expressionOf, tie_apply]
  rfl

theorem expressionOf_of_unary {least : Nat} {value : Expr} {next : Cursor}
    (read : unary (expressionWithin cursor 1) mode cursor = .done value next [])
    (ends : next.current.Calm) : expressionOf least mode cursor = .done value next [] := by
  rw [expressionOf_apply, read, Reading.done_andThen, operators_calm _ _ _ ends]

/-! ### Items in brackets -/

section

variable {expression : Rule Expr} {symbol : String} {bracket : Bracket} {inside : Inside}

theorem items_close (closes : cursor.isAtSymbol symbol = true) :
    items expression symbol bracket inside mode cursor = .done [] cursor.advance [] := by
  simp [items, items.round, tie_apply, acceptSymbol, closes]

theorem items_comma (other : cursor.isAtSymbol symbol = false)
    (comma : cursor.isAtSymbol "," = true)
    (shorter : cursor.advance.rest.length < cursor.rest.length) :
    items expression symbol bracket inside mode cursor =
      items expression symbol bracket inside mode cursor.advance := by
  rw [items, tie_apply]
  simp only [items.round, bind_apply, acceptSymbol, other, comma, Reading.done_andThen,
    Bool.false_eq_true, ↓reduceIte, granted, shorter]

theorem items_item {value : Expr} {more : List Expr} {next last : Cursor}
    (other : cursor.isAtSymbol symbol = false) (noComma : cursor.isAtSymbol "," = false)
    (starts : cursor.current.startsExpression = true)
    (read : expression mode cursor = .done value next [])
    (shorter : next.rest.length < cursor.rest.length)
    (goesOn : items expression symbol bracket inside mode next = .done more last []) :
    items expression symbol bracket inside mode cursor = .done (value :: more) last [] := by
  have argument : cursor.current.startsArgument = true := by
    simp [Token.startsArgument, starts]
  rw [items] at goesOn
  rw [items, tie_apply]
  simp only [items.round, bind_apply, acceptSymbol, other, noComma, Reading.done_andThen,
    Bool.false_eq_true, ↓reduceIte, here, argument, read, granted, shorter, goesOn, pure_apply]

end

/-! ### Entries of a map -/

section

variable {expression : Rule Expr}

theorem mapEntries_close (closes : cursor.isAtSymbol "\x7d" = true) :
    mapEntries expression mode cursor = .done [] cursor.advance [] := by
  simp [mapEntries, mapEntries.round, tie_apply, acceptSymbol, closes]

theorem mapEntries_comma (other : cursor.isAtSymbol "\x7d" = false)
    (comma : cursor.isAtSymbol "," = true)
    (shorter : cursor.advance.rest.length < cursor.rest.length) :
    mapEntries expression mode cursor = mapEntries expression mode cursor.advance := by
  rw [mapEntries, tie_apply]
  simp only [mapEntries.round, bind_apply, acceptSymbol, other, comma, Reading.done_andThen,
    Bool.false_eq_true, ↓reduceIte, granted, shorter]

theorem mapEntries_entry {value : Expr} {more : List (MapKey × Expr)} {next last : Cursor}
    (key : cursor.current.kind = .string) (colon : cursor.advance.isAtSymbol ":" = true)
    (starts : cursor.advance.advance.current.startsExpression = true)
    (read : expression mode cursor.advance.advance = .done value next [])
    (shorter : next.rest.length < cursor.rest.length)
    (goesOn : mapEntries expression mode next = .done more last []) :
    mapEntries expression mode cursor =
      .done ((⟨cursor.current.lexeme, cursor.current.place⟩, value) :: more) last [] := by
  have noBrace : cursor.isAtSymbol "\x7d" = false := by
    simp [Cursor.isAtSymbol, Token.isSymbol, key]
  have noComma : cursor.isAtSymbol "," = false := by
    simp [Cursor.isAtSymbol, Token.isSymbol, key]
  have inside : cursor.atEnd = false := by simp [Cursor.atEnd, key]
  have isKey : cursor.current.isMapKey = true := by simp [Token.isMapKey, key, Token.keyword?]
  have argument : cursor.advance.advance.current.startsArgument = true := by
    simp [Token.startsArgument, starts]
  have same : keyOf cursor.current = ⟨cursor.current.lexeme, cursor.current.place⟩ := by
    simp [keyOf, key]
  rw [mapEntries] at goesOn
  rw [mapEntries, tie_apply]
  simp only [mapEntries.round, bind_apply, acceptSymbol, noBrace, noComma, Reading.done_andThen,
    Bool.false_eq_true, ↓reduceIte, here, inside, isKey, Rule.next, Grammar.colon, colon,
    pure_apply, mapValue, argument, read, granted, shorter, goesOn, same]

end

end Grammar

end Parlance
