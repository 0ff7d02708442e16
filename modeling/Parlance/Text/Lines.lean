/-!
Lines of a text. A line ends at a line feed, a carriage return or the two together, a vertical
tab, a form feed, one of the separators U+001C to U+001E, a next line (U+0085), or a line or
paragraph separator. A break at the end of the text begins no further line. Where only the line
feed counts, `lineFeeds` says so for the carriage return too, and `shortEnds` for a carriage return
before a line feed.
-/

namespace Parlance.Text

def isLineBreak (c : Char) : Bool :=
  c = '\n' || c = '\r' || c = '\x0b' || c = '\x0c' || c = '\x1c' || c = '\x1d' || c = '\x1e' ||
    c = '\x85' || c = '\u2028' || c = '\u2029'

/-- The lines of a text, the characters read of the first one being `line`, the last in front. -/
def linesFrom (line : List Char) : List Char → List (List Char)
  | [] => if line.isEmpty then [] else [line.reverse]
  | '\r' :: '\n' :: rest => line.reverse :: linesFrom [] rest
  | c :: rest =>
      if isLineBreak c then line.reverse :: linesFrom [] rest else linesFrom (c :: line) rest

/-- A text with a line feed in place of every carriage return, alone or before a line feed. -/
def lineFeeds : List Char → List Char
  | [] => []
  | '\r' :: '\n' :: rest => '\n' :: lineFeeds rest
  | c :: rest => (if c = '\r' then '\n' else c) :: lineFeeds rest

/-- A text without the carriage returns that stand right before a line feed. -/
def shortEnds : List Char → List Char
  | [] => []
  | '\r' :: '\n' :: rest => '\n' :: shortEnds rest
  | c :: rest => c :: shortEnds rest

def lines (text : String) : List String := (linesFrom [] text.toList).map String.ofList

end Parlance.Text
