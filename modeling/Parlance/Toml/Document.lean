import Parlance.Toml.Scalar

/-!
Documents of TOML. A statement is a header, which names the table that the pairs after it belong
to, or a pair of a key and a value. A table is opened by one header only, and what a value or a
dotted key made cannot be extended by other means.
-/

namespace Parlance.Toml

/-! ### Keys -/

def isBare (c : Char) : Bool := c.isAlphanum || c = '-' || c = '_'

def simpleKey? (text : List Char) : Option (String × List Char) :=
  match text.takeWhile isBare with
  | [] => lineString? text
  | bare => some (String.ofList bare, text.dropWhile isBare)

/-- A key and the parts that points add to it, space behind it skipped. -/
def key? : (fuel : Nat) → Reader (List String)
  | 0, _ => none
  | fuel + 1, text => do
      let (part, rest) ← simpleKey? text
      match skipSpace rest with
      | '.' :: rest =>
          let (parts, rest) ← key? fuel (skipSpace rest)
          some (part :: parts, rest)
      | rest => some ([part], rest)

/-! ### Values -/

/-- Without the comment at its head; a comment ends with its line. -/
def skipComment? (text : List Char) : Option (List Char) :=
  match text with
  | '#' :: rest =>
      if (rest.takeWhile (· ≠ '\n')).any isControl then none
      else some (rest.dropWhile (· ≠ '\n'))
  | _ => some text

/-- Without the space, line feeds and comments at its head. -/
def skipLines? : (fuel : Nat) → List Char → Option (List Char)
  | 0, text => some text
  | fuel + 1, text => do
      let rest ← skipComment? (text.dropWhile fun c => isSpace c || c = '\n')
      if rest.length = text.length then some text else skipLines? fuel rest

/-- A pair behind its key: the equals sign is read, and the space around it. -/
def equals? (text : List Char) : Option (List Char) := (strip? ['='] text).map skipSpace

/-- Whether later statements may add to a datum. -/
def isClosed : Datum → Bool
  | .list _ | .table _ => true
  | _ => false

def startsWith (start path : List String) : Bool := start.isPrefixOf path

/-- Adds a pair to an inline table; `closed` are the paths of the values in it that take no
further entries. -/
def addInline? (closed : List (List String)) (key : List String) (datum : Datum)
    (table : Table String Datum) : Option (Table String Datum) :=
  if closed.any (startsWith · key) then none
  else Datum.change false (Datum.addNew (key.getLast?.getD "") datum) key.dropLast table

mutual

def value : (fuel : Nat) → Parser Datum
  | 0, _ => .error .invalid
  | fuel + 1, text =>
      match text with
      | '"' :: _ | '\'' :: _ => do
          let (s, rest) ← require (string? text)
          return (.text s, rest)
      | '[' :: rest => do
          let rest ← require (skipLines? rest.length rest)
          let (items, rest) ← items fuel rest
          return (.list items, rest)
      | '\x7b' :: rest =>
          match skipSpace rest with
          | '\x7d' :: rest => .ok (.table [], rest)
          | rest => do
              let (entries, rest) ← inline fuel [] [] rest
              return (.table entries, rest)
      | _ =>
          match strip? ['t', 'r', 'u', 'e'] text, strip? ['f', 'a', 'l', 's', 'e'] text with
          | some rest, _ => .ok (.boolean true, rest)
          | _, some rest => .ok (.boolean false, rest)
          | none, none => plain text

def items : (fuel : Nat) → Parser (List Datum)
  | 0, _ => .error .invalid
  | fuel + 1, text =>
      match text with
      | ']' :: rest => .ok ([], rest)
      | _ => do
          let (item, rest) ← value fuel text
          match ← require (skipLines? rest.length rest) with
          | ']' :: rest => return ([item], rest)
          | ',' :: rest =>
              let rest ← require (skipLines? rest.length rest)
              let (items, rest) ← items fuel rest
              return (item :: items, rest)
          | _ => throw .invalid

def inline : (fuel : Nat) → List (List String) → Table String Datum →
    Parser (Table String Datum)
  | 0, _, _, _ => .error .invalid
  | fuel + 1, closed, table, text => do
      let (key, rest) ← require (key? text.length text)
      let rest ← require (equals? rest)
      let (datum, rest) ← value fuel rest
      let table ← require (addInline? closed key datum table)
      match skipSpace rest with
      | '\x7d' :: rest => return (table, rest)
      | ',' :: rest =>
          inline fuel (if isClosed datum then key :: closed else closed) table (skipSpace rest)
      | _ => throw .invalid

end

/-! ### Statements -/

/-- A document as far as it is read. -/
structure Draft where
  root : Table String Datum
  /-- The table that pairs belong to. -/
  header : List String
  /-- Tables that a header has opened or that dotted keys of earlier sections made. -/
  opened : List (List String)
  /-- Values that take no further entries, at any depth. -/
  closed : List (List String)
  /-- Tables that dotted keys of this section made. -/
  dotted : List (List String)

namespace Draft

def empty : Draft := ⟨[], [], [], [], []⟩

def isClosed (draft : Draft) (path : List String) : Bool :=
  path ≠ [] && draft.closed.any (startsWith · path)

def isOpened (draft : Draft) (path : List String) : Bool := draft.opened.contains path

/-- At a header the tables of dotted keys count as opened. -/
def endSection (draft : Draft) : Draft :=
  { draft with opened := draft.dotted ++ draft.opened, dotted := [] }

/-- A header in single brackets. -/
def openTable? (path : List String) (draft : Draft) : Option Draft :=
  if draft.isOpened path || draft.isClosed path then none
  else
    (Datum.change true some path draft.root).map fun root =>
      { draft with root, header := path, opened := path :: draft.opened }

/-- Adds an empty table to the list under a key. -/
def append? (key : String) (table : Table String Datum) : Option (Table String Datum) :=
  match Table.get? key table with
  | none => some (Table.put key (.list [.table []]) table)
  | some (.list items) => some (Table.put key (.list (items ++ [.table []])) table)
  | some _ => none

/-- A header in double brackets: one more item of a list of tables. What was said about the item
before it no longer counts. -/
def openItem? (path : List String) (draft : Draft) : Option Draft :=
  if draft.isClosed path then none
  else
    let others (paths : List (List String)) := paths.filter (!startsWith path ·)
    (Datum.change true (append? (path.getLast?.getD "")) path.dropLast draft.root).map
      fun root =>
        { draft with
          root, header := path, opened := path :: others draft.opened,
          closed := others draft.closed }

/-- The paths of the tables that a dotted key runs through. -/
def through (header key : List String) : List (List String) :=
  (List.range (key.length - 1)).map fun n => header ++ key.take (n + 1)

/-- A pair under the current header. -/
def add? (key : List String) (datum : Datum) (draft : Draft) : Option Draft :=
  let passed := through draft.header key
  let parent := draft.header ++ key.dropLast
  if passed.any draft.isOpened || draft.isClosed parent then none
  else
    (Datum.change true (Datum.addNew (key.getLast?.getD "") datum) parent draft.root).map
      fun root =>
        { draft with
          root, dotted := passed ++ draft.dotted,
          closed := if Toml.isClosed datum then (draft.header ++ key) :: draft.closed
            else draft.closed }

end Draft

def statement (draft : Draft) : Parser Draft := fun text =>
  match text with
  | '[' :: '[' :: rest => require do
      let (path, rest) ← key? rest.length (skipSpace rest)
      let draft ← draft.endSection.openItem? path
      let rest ← strip? [']', ']'] rest
      return (draft, rest)
  | '[' :: rest => require do
      let (path, rest) ← key? rest.length (skipSpace rest)
      let draft ← draft.endSection.openTable? path
      let rest ← strip? [']'] rest
      return (draft, rest)
  | '#' :: _ => .ok (draft, text)
  | _ => do
      let (key, rest) ← require (key? text.length text)
      let rest ← require (equals? rest)
      let (datum, rest) ← value (2 * rest.length + 2) rest
      let draft ← require (draft.add? key datum)
      return (draft, rest)

def statements : (fuel : Nat) → Draft → List Char → Except Flaw Draft
  | 0, draft, _ => .ok draft
  | fuel + 1, draft, text =>
      match skipSpace text with
      | [] => .ok draft
      | '\n' :: rest => statements fuel draft rest
      | text => do
          let (draft, rest) ← statement draft text
          match ← require (skipComment? (skipSpace rest)) with
          | [] => return draft
          | '\n' :: rest => statements fuel draft rest
          | _ => throw .invalid

/-- The table that a document describes, or its first flaw. Line ends are line feeds already. -/
def document (text : String) : Except Flaw (Table String Datum) :=
  (statements (text.toList.length + 1) .empty text.toList).map (·.root)

end Parlance.Toml
