import Parlance.Datum
import Parlance.Decimal.Numeral

/-!
Scalars of TOML: strings in their four forms, numbers, dates and times. A reader takes the text
from a point on and gives what it read with the rest of the text, or nothing if the text is
invalid there. A whole number to base ten may be too long to be read, which is a flaw of its own.
-/

namespace Parlance.Toml

abbrev Reader (α : Type) := List Char → Option (α × List Char)

/-- Why a document cannot be read. -/
inductive Flaw where
  | invalid
  /-- A whole number to base ten has too many digits. -/
  | overlong (digits : Nat)
  deriving DecidableEq, Repr

/-- A reader that tells flaws apart. -/
abbrev Parser (α : Type) := List Char → Except Flaw (α × List Char)

/-- What was read, if anything was. -/
def require {α : Type} : Option α → Except Flaw α
  | some read => .ok read
  | none => .error .invalid

/-- Space between the parts of a line. -/
def isSpace (c : Char) : Bool := c = ' ' || c = '\t'

def skipSpace (text : List Char) : List Char := text.dropWhile isSpace

/-- Control characters other than the tab; no comment or string on one line holds them. -/
def isControl (c : Char) : Bool := (c.toNat < 0x20 && c ≠ '\t') || c.toNat = 0x7F

/-- Control characters that a string over several lines may not hold. -/
def isBlockControl (c : Char) : Bool := isControl c && c ≠ '\n'

/-- The rest of a text behind something it starts with. -/
def strip? (start : List Char) (text : List Char) : Option (List Char) :=
  if start.isPrefixOf text then some (text.drop start.length) else none

/-! ### Strings -/

def hexValue? (c : Char) : Option Nat :=
  if c.isDigit then some (c.toNat - '0'.toNat)
  else if 'a' ≤ c ∧ c ≤ 'f' then some (c.toNat - 'a'.toNat + 10)
  else if 'A' ≤ c ∧ c ≤ 'F' then some (c.toNat - 'A'.toNat + 10)
  else none

/-- A code point in so many hexadecimal digits. -/
def codePoint? (digits : Nat) : Reader Char := fun text => do
  let values ← (text.take digits).mapM hexValue?
  if values.length = digits then
    let code := values.foldl (fun n value => 16 * n + value) 0
    if h : code.isValidChar then some (Char.ofNatAux code h, text.drop digits) else none
  else none

def simpleEscape? : Char → Option Char
  | 'b' => some '\x08'
  | 't' => some '\t'
  | 'n' => some '\n'
  | 'f' => some '\x0c'
  | 'r' => some '\r'
  | '"' => some '"'
  | '\\' => some '\\'
  | _ => none

/-- An escape behind its backslash. -/
def escape? : Reader Char
  | 'u' :: text => codePoint? 4 text
  | 'U' :: text => codePoint? 8 text
  | c :: text => (simpleEscape? c).map (·, text)
  | [] => none

/-- The rest of a text from the first character of the next line that holds any, behind a
backslash that ends a line. -/
def foldLine? (text : List Char) : Option (List Char) :=
  match text with
  | '\n' :: rest => some (rest.dropWhile fun c => isSpace c || c = '\n')
  | c :: _ =>
      if isSpace c then
        match skipSpace text with
        | '\n' :: rest => some (rest.dropWhile fun c => isSpace c || c = '\n')
        | [] => some []
        | _ => none
      else none
  | [] => none

def basicContent : (fuel : Nat) → Reader (List Char)
  | 0, _ => none
  | _, [] => none
  | _, '"' :: rest => some ([], rest)
  | fuel + 1, '\\' :: rest => do
      let (c, rest) ← escape? rest
      let (content, rest) ← basicContent fuel rest
      some (c :: content, rest)
  | fuel + 1, c :: rest =>
      if isControl c then none
      else (basicContent fuel rest).map fun (content, rest) => (c :: content, rest)

def basicBlock : (fuel : Nat) → Reader (List Char)
  | 0, _ => none
  | _, [] => none
  | _, '"' :: '"' :: '"' :: rest => some ([], rest)
  | fuel + 1, '\\' :: rest =>
      match foldLine? rest with
      | some rest => basicBlock fuel rest
      | none => do
          let (c, rest) ← escape? rest
          let (content, rest) ← basicBlock fuel rest
          some (c :: content, rest)
  | fuel + 1, c :: rest =>
      if isBlockControl c then none
      else (basicBlock fuel rest).map fun (content, rest) => (c :: content, rest)

def literalContent : Reader (List Char)
  | [] => none
  | '\'' :: rest => some ([], rest)
  | c :: rest =>
      if isControl c then none
      else (literalContent rest).map fun (content, rest) => (c :: content, rest)

def literalBlock : Reader (List Char)
  | [] => none
  | '\'' :: '\'' :: '\'' :: rest => some ([], rest)
  | c :: rest =>
      if isBlockControl c then none
      else (literalBlock rest).map fun (content, rest) => (c :: content, rest)

/-- Up to two further quotes right behind the closing three belong to the content. -/
def closingQuotes (quote : Char) (content rest : List Char) : String × List Char :=
  match rest with
  | c :: d :: more =>
      if c = quote ∧ d = quote then (String.ofList (content ++ [c, d]), more)
      else if c = quote then (String.ofList (content ++ [c]), d :: more)
      else (String.ofList content, rest)
  | [c] => if c = quote then (String.ofList (content ++ [c]), []) else (String.ofList content, rest)
  | [] => (String.ofList content, [])

/-- A line feed right behind the opening quotes does not count. -/
def afterOpening : List Char → List Char
  | '\n' :: rest => rest
  | rest => rest

def lineString? : Reader String
  | '"' :: rest =>
      (basicContent (rest.length + 1) rest).map fun (content, rest) =>
        (String.ofList content, rest)
  | '\'' :: rest =>
      (literalContent rest).map fun (content, rest) => (String.ofList content, rest)
  | _ => none

def string? (text : List Char) : Option (String × List Char) :=
  match strip? ['"', '"', '"'] text, strip? ['\'', '\'', '\''] text with
  | some rest, _ =>
      (basicBlock (rest.length + 1) (afterOpening rest)).map fun (content, rest) =>
        closingQuotes '"' content rest
  | _, some rest =>
      (literalBlock (afterOpening rest)).map fun (content, rest) =>
        closingQuotes '\'' content rest
  | none, none => lineString? text

/-! ### Numbers -/

/-- Digits of one base, single underscores between them, and the rest; at least one digit. -/
def digitsOf? (isDigit : Char → Bool) : List Char → Option (List Char × List Char)
  | [] => none
  | c :: rest => if isDigit c then some (more [c] rest) else none
where
  more (done : List Char) : List Char → List Char × List Char
    | '_' :: d :: rest =>
        if isDigit d then more (d :: done) rest else (done.reverse, '_' :: d :: rest)
    | c :: rest => if isDigit c then more (c :: done) rest else (done.reverse, c :: rest)
    | [] => (done.reverse, [])

def valueIn (base : Nat) (digits : List Char) : Nat :=
  digits.foldl (fun n c => base * n + (hexValue? c).getD 0) 0

def based? (text : List Char) : Option (Datum × List Char) :=
  let read (base : Nat) (isDigit : Char → Bool) (rest : List Char) :=
    (digitsOf? isDigit rest).map fun (digits, rest) =>
      (Datum.integer (valueIn base digits), rest)
  match text with
  | '0' :: 'x' :: rest => read 16 (fun c => (hexValue? c).isSome) rest
  | '0' :: 'b' :: rest => read 2 (fun c => c = '0' || c = '1') rest
  | '0' :: 'o' :: rest => read 8 (fun c => '0' ≤ c && c ≤ '7') rest
  | _ => none

/-- The digits of a whole part: a zero alone, or digits that start with another. -/
def whole? : List Char → Option (List Char × List Char)
  | '0' :: rest => some (['0'], rest)
  | text => digitsOf? Char.isDigit text

def fraction? : List Char → Option (List Char × List Char)
  | '.' :: rest => digitsOf? Char.isDigit rest
  | _ => none

def exponent? : List Char → Option (List Char × List Char)
  | mark :: rest =>
      if mark = 'e' ∨ mark = 'E' then
        match rest with
        | '-' :: rest => (digitsOf? Char.isDigit rest).map fun (ds, rest) => ('-' :: ds, rest)
        | '+' :: rest => digitsOf? Char.isDigit rest
        | rest => digitsOf? Char.isDigit rest
      else none
  | [] => none

/-- The most digits that a whole number to base ten may have. -/
def digitLimit : Nat := 4300

def wholeNumber (negative : Bool) (digits : List Char) : Except Flaw Datum :=
  if digitLimit < digits.length then .error (.overlong digits.length)
  else
    let n : Int := valueIn 10 digits
    .ok (.integer (if negative then -n else n))

/-- A whole number or a float to base ten. -/
def decimal? (text : List Char) : Option (Except Flaw (Datum × List Char)) := do
  let (negative, rest) := Decimal.signed text
  let (whole, rest) ← whole? rest
  let (part, rest) := (fraction? rest).getD ([], rest)
  let (power, rest) := (exponent? rest).getD ([], rest)
  if part.isEmpty ∧ power.isEmpty then
    some ((wholeNumber negative whole).map (·, rest))
  else
    let lexeme := (if negative then ['-'] else []) ++ whole ++
      (if part.isEmpty then [] else '.' :: part) ++ (if power.isEmpty then [] else 'e' :: power)
    (Decimal.numeralValue? lexeme).map fun x => .ok (.float x, rest)

def special? (text : List Char) : Option (Datum × List Char) :=
  let named (negative : Bool) (text : List Char) : Option (Datum × List Char) :=
    match text with
    | 'i' :: 'n' :: 'f' :: rest =>
        some (.float (Binary64.ofBits negative Binary64.infinityBits), rest)
    | 'n' :: 'a' :: 'n' :: rest => some (.float (0 / 0), rest)
    | _ => none
  let (negative, rest) := Decimal.signed text
  named negative rest

/-! ### Dates and times -/

/-- A number of just so many digits, between bounds. -/
def field? (digits low high : Nat) : Reader Nat := fun text =>
  let taken := text.take digits
  if taken.length = digits ∧ taken.all Char.isDigit then
    let n := valueIn 10 taken
    if low ≤ n ∧ n ≤ high then some (n, text.drop digits) else none
  else none

def isLeap (year : Nat) : Bool := year % 4 = 0 && (year % 100 ≠ 0 || year % 400 = 0)

def daysIn (year month : Nat) : Nat :=
  if month = 2 then (if isLeap year then 29 else 28)
  else if month = 4 ∨ month = 6 ∨ month = 9 ∨ month = 11 then 30
  else 31

/-- Digits behind a point of a second, if there are any. -/
def subsecond (text : List Char) : List Char :=
  match text with
  | '.' :: c :: rest => if c.isDigit then rest.dropWhile Char.isDigit else text
  | _ => text

/-- The rest of a text behind a time of day. -/
def timeOfDay? (text : List Char) : Option (List Char) := do
  let (_, rest) ← field? 2 0 23 text
  let rest ← strip? [':'] rest
  let (_, rest) ← field? 2 0 59 rest
  let rest ← strip? [':'] rest
  let (_, rest) ← field? 2 0 59 rest
  some (subsecond rest)

/-- The rest of a text behind an offset from universal time, if one stands there. -/
def offset (text : List Char) : List Char :=
  let read : Option (List Char) :=
    match text with
    | 'Z' :: rest | 'z' :: rest => some rest
    | '+' :: rest | '-' :: rest => do
        let (_, rest) ← field? 2 0 23 rest
        let rest ← strip? [':'] rest
        let (_, rest) ← field? 2 0 59 rest
        some rest
    | _ => none
  read.getD text

/-- A date as the digits stand, whether there is such a day or not. -/
def calendarDate? (text : List Char) : Option ((Nat × Nat × Nat) × List Char) := do
  let (year, rest) ← field? 4 0 9999 text
  let rest ← strip? ['-'] rest
  let (month, rest) ← field? 2 1 12 rest
  let rest ← strip? ['-'] rest
  let (day, rest) ← field? 2 1 31 rest
  some ((year, month, day), rest)

/-- A date, perhaps with a time; `some none` if there is no such day. -/
def date? (text : List Char) : Option (Option (Datum × List Char)) := do
  let ((year, month, day), rest) ← calendarDate? text
  if 1 ≤ year ∧ day ≤ daysIn year month then
    let timed : Option (List Char) :=
      match rest with
      | 'T' :: rest | 't' :: rest | ' ' :: rest => timeOfDay? rest
      | _ => none
    match timed with
    | some rest => some (some (.dateTime, offset rest))
    | none => some (some (.date, rest))
  else some none

/-- A date, a time or a number. -/
def plain : Parser Datum := fun text =>
  match date? text, timeOfDay? text with
  | some read, _ => require read
  | none, some rest => .ok (.time, rest)
  | none, none =>
      match based? text, decimal? text with
      | some read, _ => .ok read
      | none, some read => read
      | none, none => require (special? text)

end Parlance.Toml
