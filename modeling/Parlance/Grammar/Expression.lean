import Parlance.Decimal.Numeral
import Parlance.Grammar.Rule
import Parlance.Program
import Parlance.Value.NumberText

/-!
Expressions. Binary operators are read by precedence climbing; prefix operators bind tighter, and
an index, whose bracket touches what it indexes, tighter still. Each rule takes the rule for
expressions as a parameter, and `expression` ties the knot.
-/

namespace Parlance.Grammar

open Rule

namespace Cursor

def binaryOp? (cursor : Cursor) : Option BinaryOp := cursor.current.keyword?.bind (·.binaryOp?)

def unaryOp? (cursor : Cursor) : Option UnaryOp := cursor.current.keyword?.bind (·.unaryOp?)

/-- The name just read begins a call although no word says so: it is on the list of callable
names, and an argument, a point or a method follows on its line. -/
def callsImplicitly (cursor : Cursor) (capabilities : Capabilities) (name : Token) : Bool :=
  capabilities.allowsImplicitCall name.lexeme && cursor.isOnLine name.line &&
    (cursor.isAtSymbol "." ||
      (capabilities.isModule name.lexeme && cursor.current.isMethodWord) ||
      cursor.current.startsExpression)

/-- A point and a method follow, or, on the line of a module's name, just the method. -/
def atPointMethod (cursor : Cursor) : Bool :=
  cursor.isAtSymbol "." && (cursor.ahead 1).isMethodWord

def atBareMethod (cursor : Cursor) (capabilities : Capabilities) (name : Token) : Bool :=
  capabilities.isModule name.lexeme && cursor.current.isMethodWord && cursor.isOnLine name.line

end Cursor

/-- Reads a closing bracket, or notes that it is missing. -/
def closing (symbol : String) (bracket : Bracket) : Rule Unit := do
  if ← acceptSymbol symbol then pure () else recover (.bracketExpected bracket)

/-- What is read where no expression can be: the flaw is noted and nothing consumed. -/
def noExpression : Rule Expr := do
  let cursor ← here
  recover (.expressionExpected cursor.current.lexeme)
  pure (.literal .void cursor.current.place)

/-- The items up to a closing bracket; commas between them may be left out. -/
def items (expression : Rule Expr) (symbol : String) (bracket : Bracket) (inside : Inside) :
    Rule (List Expr) :=
  tie (fun _ => pure []) round ()
where
  round (self : Unit → Rule (List Expr)) (_ : Unit) : Rule (List Expr) := do
    if ← acceptSymbol symbol then pure []
    else if ← acceptSymbol "," then self ()
    else
      let cursor ← here
      if cursor.current.startsArgument then
        let item ← expression
        let more ← self ()
        pure (item :: more)
      else if cursor.current.isBoundary then
        recover (.bracketExpected bracket)
        pure []
      else
        recover (.unexpectedIn cursor.current.lexeme inside)
        let _ ← next
        self ()

def parenArguments (expression : Rule Expr) : Rule (List Expr) := do
  let _ ← next
  items expression ")" .arguments .arguments

/-- One more argument of a list without brackets, which ends with its line. -/
def argument? (expression : Rule Expr) (line : Nat) : Rule (Option Expr) := do
  let cursor ← here
  if (cursor.current.startsExpression || cursor.atMap) && cursor.isOnLine line then
    let argument ← expression
    pure (some argument)
  else pure none

def spacedArguments (expression : Rule Expr) (line : Nat) : Rule (List Expr) :=
  tie (fun _ => pure []) round ()
where
  round (self : Unit → Rule (List Expr)) (_ : Unit) : Rule (List Expr) := do
    match ← argument? expression line with
    | some argument =>
        let more ← self ()
        pure (argument :: more)
    | none => pure []

def callArguments (expression : Rule Expr) (line : Nat) : Rule (List Expr) := do
  let cursor ← here
  if cursor.isAtSymbol "(" then parenArguments expression else spacedArguments expression line

/-- The method of a call whose callee was just read. -/
def method? (callee : Token) : Rule (Option String) := do
  let cursor ← here
  let capabilities ← capabilities
  if cursor.atPointMethod then
    let _ ← next
    let method ← next
    pure (some method.lexeme)
  else if cursor.atBareMethod capabilities callee then
    let method ← next
    pure (some method.lexeme)
  else pure none

def callOf (expression : Rule Expr) (callee : Token) : Rule Expr := do
  let method ← method? callee
  let arguments ← callArguments expression callee.line
  pure (.call callee.lexeme method arguments callee.place)

def explicitCall (expression : Rule Expr) : Rule Expr := do
  let cursor ← here
  if cursor.current.isName then
    let callee ← next
    callOf expression callee
  else
    recover .calleeExpected
    pure (.literal .void cursor.current.place)

/-- A name: an implicit call, a word for a number, or a reference. -/
def nameExpr (expression : Rule Expr) : Rule Expr := do
  let name ← next
  let cursor ← here
  let capabilities ← capabilities
  if cursor.callsImplicitly capabilities name then callOf expression name
  else
    match numberWord? name.lexeme with
    | some value => pure (.literal (.number value) name.place)
    | none => pure (.ident name.lexeme name.place)

def group (expression : Rule Expr) : Rule Expr := do
  let _ ← next
  let inner ← expression
  closing ")" .group
  pure inner

def listExpr (expression : Rule Expr) : Rule Expr := do
  let bracket ← next
  let entries ← items expression "]" .list .list
  pure (.list entries bracket.place)

def numberValue (lexeme : String) : Float := (Decimal.numeralValue? lexeme.toList).getD 0

/-- The text that a token stands for as a key; a number is written in its shortest form. -/
def keyOf (token : Token) : MapKey :=
  ⟨if token.kind = .number then numberText (numberValue token.lexeme) else token.lexeme,
    token.place⟩

/-- A colon, or a word of assignment in its place. -/
def colon (key : Token) : Rule Unit := do
  if ← acceptSymbol ":" then pure ()
  else if ← accept .assignOp then pure ()
  else recover (.colonExpected key.lexeme)

/-- The value behind a key; void if none begins here. -/
def mapValue (expression : Rule Expr) (key : Token) : Rule Expr := do
  let cursor ← here
  if cursor.current.startsArgument then expression else pure (.literal .void key.place)

def mapEntries (expression : Rule Expr) : Rule (List (MapKey × Expr)) :=
  tie (fun _ => pure []) round ()
where
  round (self : Unit → Rule (List (MapKey × Expr))) (_ : Unit) :
      Rule (List (MapKey × Expr)) := do
    if ← acceptSymbol "\x7d" then pure []
    else if ← acceptSymbol "," then self ()
    else
      let cursor ← here
      if cursor.atEnd then
        recover (.bracketExpected .map)
        pure []
      else if cursor.current.isMapKey then
        let key ← next
        colon key
        let value ← mapValue expression key
        let more ← self ()
        pure ((keyOf key, value) :: more)
      else
        recover (.unexpectedIn cursor.current.lexeme .map)
        let _ ← next
        self ()

def mapExpr (expression : Rule Expr) : Rule Expr := do
  let brace ← next
  let entries ← mapEntries expression
  pure (.map entries brace.place)

/-- A token that begins no expression: it is skipped unless something else ends with it. -/
def notPrimary : Rule Expr := do
  let cursor ← here
  recover (.expressionExpected cursor.current.lexeme)
  if cursor.current.isBoundary then pure (.literal .void cursor.current.place)
  else
    let _ ← next
    pure (.literal .void cursor.current.place)

def literalOf (value : Literal) : Rule Expr := do
  let token ← next
  pure (.literal value token.place)

/-- What an operand may begin as. -/
inductive Opening where
  | literal (value : Literal)
  | name | call | group | list | map | nothing

/-- What the token begins as the first one of an operand. -/
def opening (token : Token) : Opening :=
  match token.kind with
  | .number => .literal (.number (numberValue token.lexeme))
  | .string => .literal (.text token.lexeme)
  | .identifier => .name
  | _ =>
      match token.keyword? with
      | some .true => .literal (.boolean true)
      | some .false => .literal (.boolean false)
      | some .void => .literal .void
      | some .call => .call
      | some .typeWord => .name
      | _ =>
          if token.isSymbol "(" then .group
          else if token.isSymbol "[" then .list
          else if token.isSymbol "\x7b" then .map
          else .nothing

def primary (expression : Rule Expr) : Rule Expr := do
  let cursor ← here
  match opening cursor.current with
  | .literal value => literalOf value
  | .name => nameExpr expression
  | .call =>
      let _ ← next
      explicitCall expression
  | .group => group expression
  | .list => listExpr expression
  | .map => mapExpr expression
  | .nothing => notPrimary

/-- Indexes of an operand, each bracket touching what stands before it. -/
def indexes (expression : Rule Expr) : Expr → Rule Expr :=
  tie pure round
where
  round (self : Expr → Rule Expr) (target : Expr) : Rule Expr := do
    let cursor ← here
    if cursor.isAtSymbol "[" && cursor.touches then
      let bracket ← next
      let position ← expression
      closing "]" .index
      self (.index target position bracket.place)
    else pure target

def indexed (expression : Rule Expr) : Rule Expr := do
  let target ← primary expression
  indexes expression target

/-- Prefix operators; one counts only before the start of an expression. -/
def unary (expression : Rule Expr) : Rule Expr :=
  tie (fun _ => noExpression) round ()
where
  round (self : Unit → Rule Expr) (_ : Unit) : Rule Expr := do
    let cursor ← here
    match cursor.unaryOp? with
    | some op =>
        if (cursor.ahead 1).startsExpression then
          let token ← next
          let operand ← self ()
          pure (.unary op operand token.place)
        else indexed expression
    | none => indexed expression

/-- Binary operators of at least a precedence, behind their left operand. An operator counts only
before the start of an expression, so that `loop 5 times` keeps its last word. -/
def operators (expression : Nat → Rule Expr) (least : Nat) : Expr → Rule Expr :=
  tie pure round
where
  round (self : Expr → Rule Expr) (left : Expr) : Rule Expr := do
    let cursor ← here
    match cursor.binaryOp? with
    | some op =>
        if least ≤ op.precedence && (cursor.ahead 1).startsExpression then
          let token ← next
          let right ← expression (op.precedence + 1)
          self (.binary op left right token.place)
        else pure left
    | none => pure left

/-- An expression whose binary operators have at least the precedence given. -/
def expressionOf : Nat → Rule Expr :=
  tie (fun _ => noExpression) round
where
  round (self : Nat → Rule Expr) (least : Nat) : Rule Expr := do
    let left ← unary (self 1)
    operators self least left

def expression : Rule Expr := expressionOf 1

end Parlance.Grammar
