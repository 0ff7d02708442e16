import Parlance.Console.Markup
import Parlance.Console.Wrap
import Parlance.Text.Lines

/-!
Grids for the console: a title over a box with a heavy heading, one row below the other. Every
column is as wide as its widest cell; where the console has no room for that, the widest columns
give way first.
-/

namespace Parlance.Console

/-- How many cells a line of the console has. -/
def lineLimit : Nat := 2000

/-- Title, headings and cells are markup. -/
structure Grid where
  title : String
  columns : List (Alignment × String)
  rows : List (List String)

namespace Grid

def breadth (text : Styled) : Nat :=
  ((Text.lines (String.ofList text.chars)).map fun line => cells line.toList).foldl max 0

def shownCells (grid : Grid) (row : List String) : List Styled :=
  row.map Markup.styled ++ List.replicate (grid.columns.length - row.length) (.plain [])

def shownRows (grid : Grid) : List (List Styled) :=
  (grid.columns.map fun column => Markup.styled column.2) :: grid.rows.map grid.shownCells

/-- The widths of the columns if there is room for all. -/
def fullWidths (grid : Grid) : List Nat :=
  grid.shownRows.foldl (fun widths row => List.zipWith max widths (row.map breadth))
    (grid.columns.map fun _ => 1)

/-- One of so many equal shares in whole cells; a half goes to the even neighbour. -/
def share (total shares : Nat) : Nat :=
  let part := total / shares
  let rest := total % shares
  if shares < 2 * rest ∨ (2 * rest = shares ∧ part % 2 = 1) then part + 1 else part

/-- Takes cells away from the columns of one width in equal shares, from none more than `most`;
`sharers` of them are still to come. -/
def takeAway (width most excess sharers : Nat) : List Nat → List Nat
  | [] => []
  | w :: rest =>
      if w = width then
        let less := min most (share excess sharers)
        (w - less) :: takeAway width most (excess - less) (sharers - 1) rest
      else w :: takeAway width most excess sharers rest

/-- Narrows the widest columns down to the next widest until all fit into a line. -/
def narrow : (fuel limit : Nat) → List Nat → List Nat
  | 0, _, widths => widths
  | fuel + 1, limit, widths =>
      let excess := widths.foldr (· + ·) 0 - limit
      if excess = 0 then widths
      else
        let widest := widths.foldl max 0
        let next := (widths.filter (· ≠ widest)).foldl max 0
        narrow fuel limit
          (takeAway widest (min excess (widest - next)) excess (widths.count widest) widths)

/-- The cells of a line that the borders leave to the columns. -/
def room (grid : Grid) : Nat := lineLimit - (grid.columns.length + 1)

/-- The widths of the columns, each without the space at either side. -/
def widths (grid : Grid) : List Nat :=
  let padded := grid.fullWidths.map fun width => min (width + 2) grid.room
  (narrow (padded.foldr (· + ·) 0) grid.room padded).map (· - 2)

/-- A line of one character per cell, with corners and crossings. -/
def rule (left cross right line : Char) (widths : List Nat) : List Char :=
  let parts := widths.map fun width => List.replicate (width + 2) line
  left :: [cross].intercalate parts ++ [right]

/-- The lines of a row between its borders, each cell with a space at either side. -/
def rowLines (border : Char) (columns : List (Alignment × Nat)) (row : List Styled) : List Line :=
  let texts := List.zipWith (fun column text => wrap column.1 .crop column.2 text) columns row
  let height := (texts.map List.length).foldl max 1
  (List.range height).map fun n =>
    let cells := List.zipWith
      (fun column lines => ((lines[n]?).getD (.plain [])).segments.inCell column.2) columns texts
    [border] :: [[border]].intercalate cells ++ [[border]]

def lines (grid : Grid) : List Line :=
  let widths := grid.widths
  let columns := (grid.columns.map Prod.fst).zip widths
  let top := rule '┏' '┳' '┓' '━' widths
  let title := (wrap .center .fold top.length (Markup.styled grid.title)).map Styled.segments
  match grid.shownRows with
  | [] => title
  | heading :: rows =>
      title ++ [[top]] ++ rowLines '┃' columns heading ++ [[rule '┡' '╇' '┩' '━' widths]] ++
        rows.flatMap (rowLines '│' columns) ++ [[rule '└' '┴' '┘' '─' widths]]

def isBalanced (grid : Grid) : Bool :=
  Markup.isBalanced grid.title && (grid.columns.all fun column => Markup.isBalanced column.2) &&
    grid.rows.all fun row => row.all Markup.isBalanced

end Grid

/-- What the console shows for lines, each as far as there is room for it. -/
def joinLines (lines : List Line) : String :=
  String.ofList (lines.flatMap fun line => (line.within lineLimit).flatten ++ ['\n'])

def print (markup : String) : String :=
  joinLines ((wrap .none .fold lineLimit (Markup.styled markup)).map Styled.segments)

def printGrid? (grid : Grid) : Option String :=
  if grid.isBalanced then some (joinLines grid.lines) else none

/-- A text without the sequences that set colours: an escape character, a bracket, parameters and
a letter. `pending` holds what was read of one, the latest character first. -/
def withoutColoursFrom (pending : List Char) : List Char → List Char
  | [] => pending.reverse
  | c :: rest =>
      if c = '\x1b' then pending.reverse ++ withoutColoursFrom [c] rest
      else if pending.length = 0 then c :: withoutColoursFrom [] rest
      else if pending.length = 1 then
        if c = '[' then withoutColoursFrom (c :: pending) rest
        else pending.reverse ++ c :: withoutColoursFrom [] rest
      else if c.isDigit || c = ';' || c = '?' then withoutColoursFrom (c :: pending) rest
      else if c.isAlpha then withoutColoursFrom [] rest
      else pending.reverse ++ c :: withoutColoursFrom [] rest

def echo (line : String) : String :=
  String.ofList (withoutColoursFrom [] line.toList ++ ['\n'])

end Parlance.Console
