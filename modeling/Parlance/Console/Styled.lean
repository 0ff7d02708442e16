import Parlance.Console.Cluster

/-!
Texts with styled spans. A console writes a text in segments, cut wherever a span starts or ends,
and counts the cells of each segment by itself; so a span that shows nothing else may still part a
joiner from the character that it would draw in.
-/

namespace Parlance.Console

abbrev Line := List (List Char)

def spaces (count : Nat) : List Char := List.replicate count ' '

structure Styled where
  chars : List Char
  /-- Where each span starts and where the first character behind it stands. -/
  spans : List (Nat × Nat)
  deriving DecidableEq, Repr, Inhabited

namespace Styled

def plain (chars : List Char) : Styled := ⟨chars, []⟩

def length (text : Styled) : Nat := text.chars.length

def append (text more : Styled) : Styled :=
  ⟨text.chars ++ more.chars,
    text.spans ++ more.spans.map fun span => (text.length + span.1, text.length + span.2)⟩

/-- The characters of a text from one place on and before another. Spans go as far as they hold any
of them. -/
def slice (first past : Nat) (text : Styled) : Styled where
  chars := (text.chars.drop first).take (past - first)
  spans := text.spans.filterMap fun span =>
    let start := max span.1 first
    let stop := min span.2 past
    if start < stop then some (start - first, stop - first) else none

/-- Slices of given lengths from a place on, `gap` characters between them left out. -/
def slicesFrom (gap first : Nat) (text : Styled) : List Nat → List Styled
  | [] => []
  | count :: rest =>
      text.slice first (first + count) :: slicesFrom gap (first + count + gap) text rest

/-- The parts of given lengths. A text of one part stays as it is. -/
def divide (lengths : List Nat) (text : Styled) : List Styled :=
  match lengths with
  | [] | [_] => [text]
  | lengths => text.slicesFrom 0 0 lengths

def lines (text : Styled) : List Styled :=
  match text.chars.splitOn '\n' with
  | [] | [_] => [text]
  | lines => text.slicesFrom 1 0 (lines.map List.length)

/-- Puts other characters in place of those of a text; spans end where fewer characters do. -/
def replace (chars : List Char) (text : Styled) : Styled :=
  if chars.length < text.length then
    ⟨chars, (text.spans.filter fun span => span.1 < chars.length).map fun span =>
      (span.1, min span.2 chars.length)⟩
  else ⟨chars, text.spans⟩

def indent (count : Nat) (text : Styled) : Styled := append (plain (spaces count)) text

/-- Adds spaces at the end, which no span reaches. -/
def pad (count : Nat) (text : Styled) : Styled :=
  { text with chars := text.chars ++ spaces count }

/-- Adds spaces at the end and takes spans that reach it along. -/
def extend (count : Nat) (text : Styled) : Styled where
  chars := text.chars ++ spaces count
  spans := text.spans.map fun span =>
    (span.1, if text.length ≤ span.2 then span.2 + count else span.2)

/-- Parts that end with a tab, with spaces for it that end at a multiple of eight cells; the first
part starts at `position`. -/
def expandParts (position : Nat) : List Styled → Styled
  | [] => plain []
  | part :: rest =>
      if part.chars.getLast? = some '\t' then
        let part := { part with chars := part.chars.dropLast ++ [' '] }
        let reached := position + cells part.chars
        let more := (8 - reached % 8) % 8
        (part.extend more).append (expandParts (reached + more) rest)
      else part.append (expandParts position rest)

def expandTabs (line : Styled) : Styled :=
  if line.chars.contains '\t' then
    let lengths := (line.chars.splitOn '\t').map (·.length + 1)
    expandParts 0 (line.slicesFrom 0 0 lengths)
  else line

/-- The segments of a text from a place on; `segment` is the one that is read, the latest character
first. -/
def segmentsFrom (cuts : List Nat) (place : Nat) (segment : List Char) :
    List Char → List (List Char)
  | [] => if segment.isEmpty then [] else [segment.reverse]
  | c :: rest =>
      if cuts.contains place && !segment.isEmpty then
        segment.reverse :: segmentsFrom cuts (place + 1) [c] rest
      else segmentsFrom cuts (place + 1) (c :: segment) rest

def segments (text : Styled) : Line :=
  segmentsFrom (text.spans.flatMap fun span => [span.1, span.2]) 0 [] text.chars

end Styled

namespace Line

def cells (line : Line) : Nat := line.foldr (fun segment more => Console.cells segment + more) 0

/-- As many segments as fit, the last of them cut. -/
def crop (limit : Nat) : Line → Line
  | [] => []
  | segment :: rest =>
      let size := Console.cells segment
      if size < limit then segment :: crop (limit - size) rest
      else if size = limit then [segment]
      else [takeCells limit segment]

def within (limit : Nat) (line : Line) : Line :=
  if line.cells ≤ limit then line else crop limit line

/-- A line made to take just so many cells. Spaces added before may not do: a joiner at the end of a
segment draws one of them in, and a joiner at the end of a span draws nothing in. -/
def fit (limit : Nat) (line : Line) : Line :=
  if line.cells < limit then line ++ [spaces (limit - line.cells)] else line.within limit

/-- The content of a cell of a grid with a space at either side, both parts made to fit. -/
def inCell (width : Nat) (line : Line) : Line :=
  fit (width + 2) (fit (width + 2) ([' '] :: fit width line ++ [[' ']]))

end Line

end Parlance.Console
