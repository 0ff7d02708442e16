import Parlance.Token

/-!
Blocks. The end of a block is found by counting: an opener opens one more inner block, a closer
closes the innermost, and the closer that finds none open ends the block itself. A brace right
after a word that opens belongs to that word. In a conditional whose branches share one closer,
a word for "else" outside inner blocks ends the block too.
-/

namespace Parlance.Grammar

inductive Closer where
  | closed | otherwise | endOfInput
  deriving DecidableEq, Repr, Inhabited

/-- The body of a block, and the tokens from the one that ended it on. -/
structure Extent where
  body : List Token
  rest : List Token
  closer : Closer
  deriving DecidableEq, Repr, Inhabited

namespace Extent

def cons (token : Token) (extent : Extent) : Extent :=
  { extent with body := token :: extent.body }

/-- Counts with `depth` inner blocks open; `fused` says that the last token read is a word that
opens. -/
def scan (stopAtElse : Bool) (depth : Nat) (fused : Bool) : List Token → Extent
  | [] => ⟨[], [], .endOfInput⟩
  | token :: rest =>
      if token.kind = .finish then ⟨[], token :: rest, .endOfInput⟩
      else
        match token.keyword? with
        | some .blockOpen =>
            let depth := if fused && token.isSymbol "\x7b" then depth else depth + 1
            (scan stopAtElse depth (token.kind = .keyword) rest).cons token
        | some .blockClose =>
            match depth with
            | 0 => ⟨[], token :: rest, .closed⟩
            | depth + 1 => (scan stopAtElse depth false rest).cons token
        | some .otherwise | some .elseIf =>
            if stopAtElse && depth = 0 then ⟨[], token :: rest, .otherwise⟩
            else (scan stopAtElse depth false rest).cons token
        | _ => (scan stopAtElse depth false rest).cons token

def ofBody (stopAtElse : Bool) (tokens : List Token) : Extent := scan stopAtElse 0 false tokens

def boundary (extent : Extent) : Token := extent.rest.headD (.finishAt 0 .start 0)

/-- The body as a token list of its own, closed where the block ends. -/
def closedBody (extent : Extent) : List Token :=
  extent.body ++ [.finishAt extent.boundary.offset extent.boundary.place extent.boundary.offset]

end Extent

end Parlance.Grammar
