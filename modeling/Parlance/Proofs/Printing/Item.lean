import Parlance.Grammar.Expression
import Parlance.Proofs.Token.Number

/-!
Items of a printed program: the words and symbols of the grammar, names, numbers and texts. Each
has a source of its own, which is read as one token unless a character behind it is taken along.
-/

namespace Parlance.Printing

/-- Words and symbols that a printed program is made of. -/
inductive Fixed where
  | declare | assign | say | giveBack | loop | whileLoop | each | within | function
  | conditional | otherwise | yes | no | nothing
  | wordBegin | wordDo | wordThen | wordEnd
  | gets | openParen | closeParen | openBrace | closeBrace | comma | semicolon
  | binary (op : BinaryOp)
  deriving DecidableEq, Repr

namespace Fixed

def spelling : Fixed → String
  | .declare => "let"
  | .assign => "set"
  | .say => "say"
  | .giveBack => "return"
  | .loop => "loop"
  | .whileLoop => "while"
  | .each => "each"
  | .within => "in"
  | .function => "function"
  | .conditional => "if"
  | .otherwise => "else"
  | .yes => "true"
  | .no => "false"
  | .nothing => "void"
  | .wordBegin => "begin"
  | .wordDo => "do"
  | .wordThen => "then"
  | .wordEnd => "end"
  | .gets => "="
  | .openParen => "("
  | .closeParen => ")"
  | .openBrace => "\x7b"
  | .closeBrace => "\x7d"
  | .comma => ","
  | .semicolon => ";"
  | .binary .add => "+"
  | .binary .sub => "-"
  | .binary .mul => "*"
  | .binary .div => "/"
  | .binary .mod => "%"
  | .binary .eq => "=="
  | .binary .ne => "!="
  | .binary .gt => ">"
  | .binary .lt => "<"
  | .binary .ge => ">="
  | .binary .le => "<="
  | .binary .and => "and"
  | .binary .or => "or"

def isWord : Fixed → Bool
  | .declare | .assign | .say | .giveBack | .loop | .whileLoop | .each | .within | .function
  | .conditional | .otherwise | .yes | .no | .nothing
  | .wordBegin | .wordDo | .wordThen | .wordEnd | .binary .and | .binary .or => true
  | _ => false

def kind (word : Fixed) : Token.Kind := if word.isWord then .keyword else .symbol

/-- A character that would be taken along if it followed the word or symbol: the second one of a
symbol, or of the beginning of a comment. -/
def glued (word : Fixed) (c : Char) : Bool :=
  if word.isWord then Piece.isWordChar c
  else
    match word.spelling.toList with
    | [first] => Piece.isPair first c || (first = '/' && (c = '/' || c = '*'))
    | _ => false

def keyword? : Fixed → Option Keyword
  | .declare => some .declare
  | .assign => some .assign
  | .say => some .output
  | .giveBack => some .giveBack
  | .loop => some .loop
  | .whileLoop => some .whileLoop
  | .each => some .each
  | .within => some .within
  | .function => some .function
  | .conditional => some .conditional
  | .otherwise => some .otherwise
  | .yes => some .true
  | .no => some .false
  | .nothing => some .void
  | .gets => some .assignOp
  | .openBrace | .wordBegin | .wordDo | .wordThen => some .blockOpen
  | .closeBrace | .wordEnd => some .blockClose
  | .binary op => some op.keyword
  | .openParen | .closeParen | .comma | .semicolon => none

theorem ofSpelling?_spelling (word : Fixed) :
    Keyword.ofSpelling? word.spelling = word.keyword? := by
  cases word with
  | binary op => cases op <;> decide +kernel
  | _ => decide +kernel

end Fixed

/-- A name that means nothing but itself: no keyword, no word for a number, and not on the list of
callable names. -/
structure Name (capabilities : Capabilities) where
  first : Char
  rest : List Char
  start : Piece.isWordStart first = true
  inner : ∀ c ∈ rest, Piece.isWordChar c = true
  noKeyword : Keyword.isWordSpelling (Unicode.lower (String.ofList (first :: rest))) = false
  noNumber : numberWord? (String.ofList (first :: rest)) = none
  noCall : capabilities.allowsImplicitCall (String.ofList (first :: rest)) = false

structure Numeral where
  first : Char
  whole : List Char
  fraction : List Char
  start : first.isDigit = true
  digits : ∀ c ∈ whole, Unicode.isDigit c = true
  decimals : ∀ c ∈ fraction, Unicode.isDigit c = true

theorem Numeral.no_digits : ∀ c ∈ ([] : List Char), Unicode.isDigit c = true :=
  List.forall_mem_nil _

def Numeral.digit (c : Char) (start : c.isDigit = true) : Numeral :=
  ⟨c, [], [], start, no_digits, no_digits⟩

def Name.text {capabilities : Capabilities} (name : Name capabilities) : String :=
  String.ofList (name.first :: name.rest)

namespace Numeral

def tail (numeral : Numeral) : List Char :=
  match numeral.fraction with
  | [] => numeral.whole
  | fraction => numeral.whole ++ '.' :: fraction

def text (numeral : Numeral) : String := String.ofList (numeral.first :: numeral.tail)

def value (numeral : Numeral) : Float :=
  Decimal.Scaled.toFloat false
    ⟨Decimal.ofDigits ((numeral.first :: numeral.whole ++ numeral.fraction).map Decimal.digitValue),
      -numeral.fraction.length⟩

theorem numberValue_text (numeral : Numeral) :
    Grammar.numberValue numeral.text = numeral.value := by
  have first := Piece.isDigit_of_isDigit numeral.start
  have whole := Decimal.numeral?_whole first numeral.digits
  have parts := Decimal.numeral?_fraction first numeral.digits numeral.decimals
  rw [Grammar.numberValue, text, String.toList_ofList, Decimal.numeralValue?]
  cases fraction : numeral.fraction with
  | nil => simp [tail, fraction, whole, value]
  | cons digit rest =>
      rw [fraction] at parts
      simp [tail, fraction, parts, value]

end Numeral

def escape (c : Char) : List Char :=
  if c = '"' ∨ c = '\\' then ['\\', c] else [c]

inductive Item (capabilities : Capabilities) where
  | fixed (word : Fixed)
  | name (word : Name capabilities)
  | number (numeral : Numeral)
  | text (content : String)

namespace Item

variable {capabilities : Capabilities}

def kind : Item capabilities → Token.Kind
  | .fixed word => word.kind
  | .name _ => .identifier
  | .number _ => .number
  | .text _ => .string

def lexeme : Item capabilities → String
  | .fixed word => word.spelling
  | .name word => word.text
  | .number numeral => numeral.text
  | .text content => content

def source : Item capabilities → List Char
  | .fixed word => word.spelling.toList
  | .name word => word.first :: word.rest
  | .number numeral => numeral.first :: numeral.tail
  | .text content => '"' :: (content.toList.flatMap escape ++ ['"'])

def glued : Item capabilities → Char → Bool
  | .fixed word, c => word.glued c
  | .name _, c => Piece.isWordChar c
  | .number _, c => Unicode.isDigit c || c = '.'
  | .text _, _ => false

end Item

end Parlance.Printing
