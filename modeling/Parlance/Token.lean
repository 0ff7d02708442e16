import Parlance.Keyword
import Parlance.Place

/-!
Tokens. A token remembers its lexeme, where it starts and the offset just past it; what a
reader of tokens branches on is its kind and, for words and symbols, the canonical keyword.
-/

namespace Parlance

inductive Token.Kind where
  | keyword | identifier | number | string | symbol | finish
  deriving DecidableEq, Repr, Inhabited

structure Token where
  kind : Token.Kind
  lexeme : String
  offset : Nat
  place : Place
  stop : Nat
  deriving DecidableEq, Repr, Inhabited

namespace Token

def Kind.name : Kind → String
  | .keyword => "keyword"
  | .identifier => "identifier"
  | .number => "number"
  | .string => "string"
  | .symbol => "symbol"
  | .finish => "end"

/-- The token that closes a token list; it takes no text. -/
def finishAt (offset : Nat) (place : Place) (stop : Nat) : Token :=
  ⟨.finish, "", offset, place, stop⟩

def line (token : Token) : Nat := token.place.line

/-- The canonical keyword of a word or a symbol; other tokens have none. -/
def keyword? (token : Token) : Option Keyword :=
  match token.kind with
  | .keyword | .symbol => Keyword.ofSpelling? token.lexeme
  | _ => none

def isSymbol (token : Token) (symbol : String) : Bool :=
  token.kind = .symbol && token.lexeme = symbol

/-- The list ends with a closing token; one is added if it is missing. -/
def close (tokens : List Token) : List Token :=
  match tokens.getLast? with
  | none => [finishAt 0 .start 0]
  | some last =>
      if last.kind = .finish then tokens
      else tokens ++ [finishAt last.offset last.place last.stop]

end Token

end Parlance
