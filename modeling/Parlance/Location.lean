import Parlance.Place
import Parlance.Text.Lines

/-!
Where an error lies, as its report shows it: the name of the source if it has one, line and
column, and below them the line itself with a mark under the column.
-/

namespace Parlance

structure Location where
  line : Int
  column : Int
  snippet : Option String
  sourceName : Option String
  deriving DecidableEq, Repr, Inhabited

namespace Location

/-- The location of a line and column in a source; the snippet is that line, if there is one. -/
def find (line column : Int) (source sourceName : Option String) : Location :=
  let snippet :=
    if 0 < line then source.bind fun text => (Text.lines text)[(line - 1).toNat]? else none
  ⟨line, column, snippet, sourceName⟩

def ofPlace (place : Place) (source sourceName : Option String) : Location :=
  find place.line place.column source sourceName

/-- A number on the right of a field four wide. -/
def fieldOf (n : Int) : String :=
  let digits := toString n
  String.ofList (List.replicate (4 - digits.length) ' ') ++ digits

/-- The line under a bar, and a mark under the column. -/
def excerpt (location : Location) (snippet : String) : String :=
  let margin := fieldOf location.line ++ " | "
  let indent := (margin.length + location.column - 1).toNat
  margin ++ snippet ++ "\n" ++ String.ofList (List.replicate indent ' ') ++ "^"

def heading (location : Location) : String :=
  match location.sourceName with
  | none | some "" =>
      "line " ++ toString location.line ++ ", column " ++ toString location.column
  | some name => name ++ ":" ++ toString location.line ++ ":" ++ toString location.column

def text (location : Location) : String :=
  match location.snippet with
  | none | some "" => location.heading
  | some snippet => location.heading ++ "\n" ++ location.excerpt snippet

def report (location : Option Location) (message : String) : String :=
  match location with
  | none => message
  | some location => location.text ++ "\n" ++ message

end Location

end Parlance
