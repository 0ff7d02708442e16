import Parlance.Token

/-!
A cursor stands in a token list: it holds the tokens from here on and where the last token
behind it stopped. It moves forward only, and never past a closing token. The tests on tokens
say what can begin or end an expression.
-/

namespace Parlance

namespace Token

/-- Symbols that end any expression and any list of arguments. -/
def isBoundarySymbol (token : Token) : Bool :=
  token.kind = .symbol && [";", ",", ")", "]", "\x7d", ":"].contains token.lexeme

/-- Keywords that end an expression. -/
def isBoundaryKeyword : Keyword → Bool
  | .blockOpen | .blockClose | .otherwise | .elseIf | .within | .assignOp | .bind => true
  | keyword => keyword.startsStatement

/-- The token ends an expression or a list of arguments without brackets. -/
def isBoundary (token : Token) : Bool :=
  token.kind = .finish || token.isBoundarySymbol || token.keyword?.any isBoundaryKeyword

/-- Word keywords that may begin an expression. -/
def isExpressionKeyword : Keyword → Bool
  | .true | .false | .void | .not | .sub | .call | .typeWord => Bool.true
  | _ => Bool.false

/-- The token may begin an expression; an opening brace does so only inside brackets. -/
def startsExpression (token : Token) : Bool :=
  match token.kind with
  | .number | .string | .identifier => true
  | .symbol => ["(", "[", "-", "!"].contains token.lexeme
  | .keyword => token.keyword?.any isExpressionKeyword
  | .finish => false

/-- Inside brackets an opening brace begins a map. -/
def startsArgument (token : Token) : Bool :=
  token.startsExpression || token.isSymbol "\x7b"

/-- Identifiers, and type words, which serve as names too. -/
def isName (token : Token) : Bool :=
  token.kind = .identifier || (token.kind = .keyword && token.keyword? = some .typeWord)

/-- Words that may stand for a method of a module. -/
def isMethodWord (token : Token) : Bool :=
  token.kind = .identifier ||
    (token.kind = .keyword &&
      !(token.keyword? = some .blockOpen || token.keyword? = some .blockClose ||
        token.keyword? = some .otherwise || token.keyword? = some .elseIf))

/-- Tokens that may stand for a key of a map. -/
def isMapKey (token : Token) : Bool :=
  match token.kind with
  | .identifier | .keyword | .string | .number => token.keyword? ≠ some .blockClose
  | _ => false

end Token

namespace Grammar

structure Cursor where
  rest : List Token
  lastStop : Nat
  deriving DecidableEq, Repr, Inhabited

namespace Cursor

def ofTokens (tokens : List Token) : Cursor := ⟨tokens, 0⟩

/-- The token so many places ahead; past the end there is only a closing token. -/
def ahead (cursor : Cursor) (count : Nat) : Token :=
  match cursor.rest.drop count with
  | token :: _ => token
  | [] => .finishAt 0 .start 0

def current (cursor : Cursor) : Token := cursor.ahead 0

/-- One token further; a closing token is not passed. -/
def advance (cursor : Cursor) : Cursor :=
  match cursor.rest with
  | [] => cursor
  | token :: rest => if token.kind = .finish then cursor else ⟨rest, token.stop⟩

def atEnd (cursor : Cursor) : Bool := cursor.current.kind = .finish

def isAt (cursor : Cursor) (keyword : Keyword) : Bool := cursor.current.keyword? = some keyword

def isAtSymbol (cursor : Cursor) (symbol : String) : Bool := cursor.current.isSymbol symbol

/-- The current token touches the one before it. -/
def touches (cursor : Cursor) : Bool := cursor.lastStop = cursor.current.offset

def isOnLine (cursor : Cursor) (line : Nat) : Bool := cursor.current.line = line

/-- An opening brace, a key and a colon: outside brackets any other brace opens a block. -/
def atMap (cursor : Cursor) : Bool :=
  cursor.isAtSymbol "\x7b" && (cursor.ahead 1).isMapKey && (cursor.ahead 2).isSymbol ":"

end Cursor

end Grammar

end Parlance
