import Parlance.Console.Emoji
import Parlance.Console.Style
import Parlance.Console.Styled

/-!
Markup for the console. A tag in square brackets sets a style and shows nothing itself; an odd
number of backslashes before it makes it plain text. `escape` writes a text so that it shows no
tag, `styled` gives what a markup shows. A tag that starts with a slash closes the
latest open tag of its style or, if it names none, the latest of all.
-/

namespace Parlance.Console.Markup

def opensTag (c : Char) : Bool := ('a' ≤ c && c ≤ 'z') || c = '#' || c = '/' || c = '@'

/-- A tag goes on up to its closing bracket and holds no other opening one. -/
def closes : List Char → Bool
  | [] => false
  | c :: rest => if c = ']' then true else if c = '[' then false else closes rest

/-- Whether a tag stands here, behind its opening bracket. -/
def startsTag : List Char → Bool
  | [] => false
  | c :: rest => opensTag c && closes rest

/-- Doubles the backslashes before every tag and adds one; `slashes` counts those just read. -/
def escapeFrom (slashes : Nat) : List Char → List Char
  | [] => []
  | c :: rest =>
      if c = '\\' then c :: escapeFrom (slashes + 1) rest
      else if c = '[' && startsTag rest then
        List.replicate (slashes + 1) '\\' ++ c :: escapeFrom 0 rest
      else c :: escapeFrom 0 rest

/-- A single backslash at the end is doubled. -/
def endSafely (text : List Char) : List Char :=
  match text.reverse with
  | ['\\'] => text ++ ['\\']
  | '\\' :: c :: _ => if c = '\\' then text else text ++ ['\\']
  | _ => text

def escape (text : String) : String := String.ofList (endSafely (escapeFrom 0 text.toList))

inductive Piece where
  | plain (text : List Char)
  | tag (text : List Char)
  deriving DecidableEq, Repr

/-- The pieces of a markup from a point on. `within` is set inside a tag and tells whether it is
plain; `run` holds the text read so far, the latest character first. -/
def piecesFrom (within : Option Bool) (slashes : Nat) (run : List Char) :
    List Char → List Piece
  | [] =>
      match within with
      | some false => []
      | _ => [.plain (run.reverse ++ List.replicate slashes '\\')]
  | c :: rest =>
      match within with
      | some isPlain =>
          if c = ']' then
            (if isPlain then .plain (c :: run).reverse else .tag (run.reverse.drop 1)) ::
              piecesFrom none 0 [] rest
          else piecesFrom within 0 (c :: run) rest
      | none =>
          if c = '\\' then piecesFrom none (slashes + 1) run rest
          else if c = '[' && startsTag rest then
            .plain run.reverse :: .plain (List.replicate (slashes / 2) '\\') ::
              piecesFrom (some (slashes % 2 = 1)) 0 [c] rest
          else piecesFrom none 0 (c :: (List.replicate slashes '\\' ++ run)) rest

def pieces (markup : String) : List Piece := piecesFrom none 0 [] markup.toList

/-- In a plain text a backslash before an opening bracket is left out. -/
def openBrackets : List Char → List Char
  | [] => []
  | '\\' :: '[' :: rest => '[' :: openBrackets rest
  | c :: rest => c :: openBrackets rest

/-- Control characters that a console would act on: bell, backspace, vertical tab, form feed and
carriage return. -/
def isAction (c : Char) : Bool :=
  c = '\x07' || c = '\x08' || c = '\x0b' || c = '\x0c' || c = '\x0d'

def shown (text : List Char) : List Char :=
  (withPictures (openBrackets text)).filter fun c => !isAction c

/-- A markup as far as it is read: what it shows, with the spans that are closed, and the styles
that are open, the latest first, with the places where they start. -/
structure Reading where
  text : Styled
  opened : List (String × Nat)

namespace Reading

def mark (start : Nat) (reading : Reading) : Styled :=
  { reading.text with spans := reading.text.spans ++ [(start, reading.text.length)] }

/-- Closes the latest open tag of a style, or the latest of all if no style is named; nothing if
there is none. -/
def close? (name : List Char) (reading : Reading) : Option Reading :=
  let style := Style.normalName name
  let found := reading.opened.find? fun tag => (Unicode.trim name).isEmpty || tag.1 = style
  found.map fun tag => ⟨reading.mark tag.2, reading.opened.erase tag⟩

/-- Goes on with a piece; nothing if it closes a tag that is not open. What follows an equals sign
is no part of a style's name. -/
def add? (reading : Reading) : Piece → Option Reading
  | .plain text => some { reading with text := reading.text.append (.plain (shown text)) }
  | .tag tag =>
      match tag.takeWhile (· ≠ '=') with
      | '/' :: name => reading.close? name
      | name =>
          some { reading with
            opened := (Style.normalName name, reading.text.length) :: reading.opened }

/-- Goes on with a piece; a tag that closes none is passed over. -/
def add (reading : Reading) (piece : Piece) : Reading := (reading.add? piece).getD reading

/-- At the end all open tags are closed. -/
def finish (reading : Reading) : Styled :=
  reading.opened.foldl (fun text tag => Reading.mark tag.2 ⟨text, []⟩) reading.text

end Reading

def styled (markup : String) : Styled :=
  ((pieces markup).foldl Reading.add ⟨.plain [], []⟩).finish

/-- Whether every closing tag has a tag to close. A tag may stay open. -/
def isBalanced (markup : String) : Bool :=
  ((pieces markup).foldlM Reading.add? ⟨.plain [], []⟩).isSome

end Parlance.Console.Markup
