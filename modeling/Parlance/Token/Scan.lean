import Parlance.Token
import Parlance.Unicode.Blank
import Parlance.Unicode.Digit

/-!
Cutting a text into tokens. At each character that no earlier piece has taken, the next piece
begins: a gap (white space or a comment), a token, or a character that begins neither. The last
kind is junk: a lenient reader drops it, a strict one refuses the text at the first of them.
-/

namespace Parlance

inductive Piece where
  | gap
  | token (kind : Token.Kind) (lexeme : String)
  | junk
  deriving DecidableEq, Repr

namespace Piece

def isWordStart (c : Char) : Bool := c.isAlpha || c = '_'

def isWordChar (c : Char) : Bool := c.isAlphanum || c = '_'

/-- Digits of any script, then perhaps a point and more digits. -/
def numberTail (text : List Char) : List Char :=
  let whole := text.takeWhile Unicode.isDigit
  match text.dropWhile Unicode.isDigit with
  | '.' :: rest =>
      match rest.takeWhile Unicode.isDigit with
      | [] => whole
      | fraction => whole ++ '.' :: fraction
  | _ => whole

def unescape : Char → Char
  | 'n' => '\n'
  | 't' => '\t'
  | 'r' => '\r'
  | c => c

/-- The content of a quoted text after its opening quote, and the number of characters it takes,
the closing quote included. Without a closing quote it runs to the end of the text. -/
def quotedTail (quote : Char) : List Char → List Char × Nat
  | [] => ([], 0)
  | '\\' :: escaped :: rest =>
      let (content, length) := quotedTail quote rest
      (unescape escaped :: content, length + 2)
  | c :: rest =>
      if c = quote then ([], 1)
      else
        let (content, length) := quotedTail quote rest
        (c :: content, length + 1)

/-- The number of characters up to the end of a block comment. -/
def commentTail : List Char → Nat
  | [] => 0
  | [_] => 1
  | '*' :: '/' :: _ => 2
  | _ :: rest => commentTail rest + 1

def isPair (first second : Char) : Bool :=
  match first, second with
  | '=', '=' | '!', '=' | '<', '=' | '>', '=' | '&', '&' | '|', '|' => true
  | _, _ => false

def isSingle (c : Char) : Bool := "()\x7b\x7d[],;:.=+-*/%<>!".toList.contains c

def wordKind (word : String) : Token.Kind :=
  if Keyword.isWordSpelling (Unicode.lower word) then .keyword else .identifier

/-- The symbol that begins with `c`, if any, and the number of further characters it takes. -/
def symbol (c : Char) : List Char → Piece × Nat
  | second :: _ =>
      if isPair c second then (.token .symbol (String.ofList [c, second]), 1)
      else if isSingle c then (.token .symbol (String.ofList [c]), 0)
      else (.junk, 0)
  | [] => if isSingle c then (.token .symbol (String.ofList [c]), 0) else (.junk, 0)

/-- The piece that begins with `c`, and how many characters of `rest` belong to it. -/
def read (c : Char) (rest : List Char) : Piece × Nat :=
  if Unicode.isBlank c then (.gap, 0)
  else if c = '/' ∧ rest.head? = some '/' then
    (.gap, (rest.takeWhile (· ≠ '\n')).length)
  else if c = '/' ∧ rest.head? = some '*' then
    (.gap, commentTail rest.tail + 1)
  else if c.isDigit then
    let tail := numberTail rest
    (.token .number (String.ofList (c :: tail)), tail.length)
  else if c = '"' ∨ c = '\'' then
    let (content, length) := quotedTail c rest
    (.token .string (String.ofList content), length)
  else if isWordStart c then
    let tail := rest.takeWhile isWordChar
    let word := String.ofList (c :: tail)
    (.token (wordKind word) word, tail.length)
  else symbol c rest

end Piece

/-- A token of a text, or a character that belongs to none. -/
inductive Mark where
  | token (found : Token)
  | junk (c : Char) (place : Place)
  deriving Repr

namespace Mark

/-- The marks of a text whose first `skip` characters belong to a piece already read. -/
def scanFrom (skip offset : Nat) (place : Place) : List Char → List Mark
  | [] => [.token (.finishAt offset place offset)]
  | c :: rest =>
      match skip with
      | skip + 1 => scanFrom skip (offset + 1) (place.after c) rest
      | 0 =>
          match Piece.read c rest with
          | (.gap, length) => scanFrom length (offset + 1) (place.after c) rest
          | (.token kind lexeme, length) =>
              .token ⟨kind, lexeme, offset, place, offset + 1 + length⟩ ::
                scanFrom length (offset + 1) (place.after c) rest
          | (.junk, length) =>
              .junk c place :: scanFrom length (offset + 1) (place.after c) rest

def scan (text : List Char) : List Mark := scanFrom 0 0 .start text

def token? : Mark → Option Token
  | .token found => some found
  | .junk .. => none

def junk? : Mark → Option (Char × Place)
  | .token _ => none
  | .junk c place => some (c, place)

/-- The tokens among the marks, unless one is junk: the first of these refuses them all. -/
def onlyTokens : List Mark → Except (Char × Place) (List Token)
  | [] => .ok []
  | .token found :: rest => (onlyTokens rest).map (found :: ·)
  | .junk c place :: _ => .error (c, place)

theorem onlyTokens_eq (marks : List Mark) :
    onlyTokens marks =
      match marks.filterMap junk? with
      | [] => .ok (marks.filterMap token?)
      | first :: _ => .error first := by
  induction marks with
  | nil => rfl
  | cons mark rest ih =>
      cases mark with
      | junk c place => rfl
      | token found =>
          simp only [onlyTokens, ih, List.filterMap_cons, junk?, token?]
          cases rest.filterMap junk? <;> rfl

end Mark

namespace Token

/-- The tokens of a text, junk dropped. -/
def scan (text : String) : List Token := (Mark.scan text.toList).filterMap Mark.token?

/-- The characters of a text that belong to no token, with their places. -/
def junk (text : String) : List (Char × Place) := (Mark.scan text.toList).filterMap Mark.junk?

/-- The tokens of a text that has no junk; otherwise the first character that is. -/
def scanStrict (text : String) : Except (Char × Place) (List Token) :=
  Mark.onlyTokens (Mark.scan text.toList)

theorem scanStrict_eq (text : String) :
    scanStrict text =
      match junk text with
      | [] => .ok (scan text)
      | first :: _ => .error first :=
  Mark.onlyTokens_eq (Mark.scan text.toList)

end Token

end Parlance
