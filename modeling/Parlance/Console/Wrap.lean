import Parlance.Console.Styled
import Parlance.Unicode.Blank

/-!
Lines for the console. A line that does not fit into a width is broken before a word; a word that
fits into no line is folded or, where the line is cropped, cut off with an ellipsis.
-/

namespace Parlance.Console

inductive Overflow where
  /-- A word that is too long goes on in the next line. -/
  | fold
  /-- A line that is too long ends with an ellipsis. -/
  | crop
  deriving DecidableEq, Repr

inductive Alignment where
  | none
  | left
  | center
  | right
  deriving DecidableEq, Repr

/-- The words of a line, each with the blanks behind it and the first with those before it. A line
of blanks alone has none. -/
def wordsFrom (word : List Char) (ended : Bool) : List Char → List (List Char)
  | [] => if word.all Unicode.isBlank then [] else [word.reverse]
  | c :: rest =>
      if Unicode.isBlank c then
        wordsFrom (c :: word) (!word.all Unicode.isBlank) rest
      else if ended then word.reverse :: wordsFrom [c] false rest
      else wordsFrom (c :: word) false rest

def words (line : List Char) : List (List Char) := wordsFrom [] false line

def withoutEnd (text : List Char) : List Char := (text.reverse.dropWhile Unicode.isBlank).reverse

/-- Lines under way: those that are full, the latest first, the one that is being filled, and how
many cells of it are taken. -/
structure Filling where
  full : List (List Char)
  line : List Char
  taken : Nat

namespace Filling

def isStart (filling : Filling) : Bool := filling.full.isEmpty && filling.line.isEmpty

def append (filling : Filling) (text : List Char) : Filling :=
  { filling with line := filling.line ++ text, taken := filling.taken + cells text }

/-- Puts a text on a new line, or on the first if nothing stands there yet. -/
def appendBelow (filling : Filling) (text : List Char) : Filling :=
  if filling.isStart then ⟨[], text, cells text⟩
  else ⟨filling.line :: filling.full, text, cells text⟩

def addWord (overflow : Overflow) (limit : Nat) (filling : Filling) (word : List Char) :
    Filling :=
  let size := cells (withoutEnd word)
  if filling.taken + size ≤ limit then filling.append word
  else if limit < size then
    match overflow with
    | .fold => (chop limit word).foldl appendBelow filling
    | .crop => filling.appendBelow word
  else if 0 < filling.taken then filling.appendBelow word
  else filling.append word

def lines (filling : Filling) : List (List Char) := (filling.line :: filling.full).reverse

end Filling

def divide (overflow : Overflow) (limit : Nat) (line : List Char) : List (List Char) :=
  match words line with
  | [] => [line]
  | words => (words.foldl (Filling.addWord overflow limit) ⟨[], [], 0⟩).lines

/-- Drops blanks at the end of a line as far as it has more characters than fit. -/
def dropExcess (limit : Nat) (line : Styled) : Styled :=
  let blanks := line.length - (withoutEnd line.chars).length
  line.replace (line.chars.take (line.length - min blanks (line.length - limit)))

def dropEnd (line : Styled) : Styled := line.replace (withoutEnd line.chars)

def truncate (overflow : Overflow) (limit : Nat) (line : Styled) : Styled :=
  if cells line.chars ≤ limit then line
  else
    match overflow with
    | .fold => line.replace (takeCells limit line.chars)
    | .crop => line.replace (takeCells (limit - 1) line.chars ++ ['…'])

def align (alignment : Alignment) (overflow : Overflow) (limit : Nat) (line : Styled) : Styled :=
  match alignment with
  | .none => truncate overflow limit line
  | .left => (truncate overflow limit line).pad (limit - cells line.chars)
  | .center =>
      let line := truncate overflow limit (dropEnd line)
      let line := line.indent ((limit - cells line.chars) / 2)
      line.pad (limit - cells line.chars)
  | .right =>
      let line := truncate overflow limit (dropEnd line)
      line.indent (limit - cells line.chars)

def wrap (alignment : Alignment) (overflow : Overflow) (limit : Nat) (text : Styled) :
    List Styled :=
  text.lines.flatMap fun line =>
    let line := line.expandTabs
    (line.divide ((divide overflow limit line.chars).map List.length)).map fun part =>
      align alignment overflow limit (dropExcess limit part)

end Parlance.Console
