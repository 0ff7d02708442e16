import Parlance.Proofs.Printing.Item
import Parlance.Proofs.Token.Tiling
import Parlance.Proofs.Token.Word
import Parlance.Unicode.Blank

/-!
Printed items in a text, with white space between them where it is needed. Cut into tokens, such a
text gives one token for each item.
-/

namespace Parlance

namespace Piece

theorem read_word {c : Char} {tail text : List Char} (start : isWordStart c = true)
    (inner : ∀ d ∈ tail, isWordChar d = true) (stops : ∀ d ∈ text.head?, isWordChar d = false) :
    read c (tail ++ text) =
      (.token (wordKind (String.ofList (c :: tail))) (String.ofList (c :: tail)), tail.length) := by
  obtain ⟨low, high⟩ := bounds_of_isWordStart start
  obtain ⟨blank, slash, double, single⟩ := apart_of_bounds (by omega) high
  have digit : c.isDigit = false := by
    refine Bool.eq_false_iff.mpr fun digit => ?_
    have bounds := bounds_of_isDigit digit
    omega
  simp [read, blank, slash, double, single, digit, start, takeWhile_run inner stops]

theorem numberTail_whole {whole text : List Char} (digits : ∀ c ∈ whole, Unicode.isDigit c = true)
    (stops : ∀ c ∈ text.head?, Unicode.isDigit c = false ∧ c ≠ '.') :
    numberTail (whole ++ text) = whole := by
  have ends : ∀ c ∈ text.head?, Unicode.isDigit c = false := fun c head => (stops c head).1
  simp only [numberTail, takeWhile_run digits ends, dropWhile_run digits ends]
  split
  · exact absurd rfl (stops '.' rfl).2
  · rfl

theorem numberTail_fraction {whole fraction text : List Char}
    (digits : ∀ c ∈ whole, Unicode.isDigit c = true)
    (decimals : ∀ c ∈ fraction, Unicode.isDigit c = true) (some' : fraction ≠ [])
    (stops : ∀ c ∈ text.head?, Unicode.isDigit c = false) :
    numberTail (whole ++ '.' :: fraction ++ text) = whole ++ '.' :: fraction := by
  have point : ∀ c ∈ ('.' :: (fraction ++ text)).head?, Unicode.isDigit c = false := by
    intro c head
    obtain rfl := Option.some.inj head
    decide
  simp only [numberTail, List.append_assoc, List.cons_append, takeWhile_run digits point,
    dropWhile_run digits point, takeWhile_run decimals stops]

theorem read_number {c : Char} {tail text : List Char} (start : c.isDigit = true)
    (taken : numberTail (tail ++ text) = tail) :
    read c (tail ++ text) = (.token .number (String.ofList (c :: tail)), tail.length) := by
  obtain ⟨low, high⟩ := bounds_of_isDigit start
  obtain ⟨blank, slash, _, _⟩ := apart_of_bounds low (by omega)
  simp [read, blank, slash, start, taken]

/-- A text between quotes is read back, whatever its characters are. -/
theorem quotedTail_escape (content text : List Char) :
    quotedTail '"' (content.flatMap Printing.escape ++ '"' :: text) =
      (content, (content.flatMap Printing.escape).length + 1) := by
  induction content with
  | nil => rfl
  | cons c content ih =>
      by_cases quoted : c = '"' ∨ c = '\\'
      · have same : unescape c = c := by
          rcases quoted with rfl | rfl <;> rfl
        simp [Printing.escape, quoted, quotedTail, ih, same]
      · have plain : c ≠ '"' ∧ c ≠ '\\' := not_or.mp quoted
        simp [Printing.escape, quotedTail, ih, plain]

theorem read_text (content text : List Char) :
    read '"' (content.flatMap Printing.escape ++ '"' :: text) =
      (.token .string (String.ofList content), (content.flatMap Printing.escape).length + 1) := by
  have blank : Unicode.isBlank '"' = false := by decide
  have digit : '"'.isDigit = false := by decide
  simp [read, blank, digit, quotedTail_escape]

/-- The character begins no gap but a comment, no number, no text and no word. -/
def isSign (c : Char) : Bool :=
  !(Unicode.isBlank c || c.isDigit || (c = '"' || c = '\'') || isWordStart c)

theorem read_sign {c : Char} {text : List Char} (sign : isSign c = true)
    (comment : c = '/' → ∀ d ∈ text.head?, d ≠ '/' ∧ d ≠ '*') :
    read c text = symbol c text := by
  have line : ¬ (c = '/' ∧ text.head? = some '/') := fun both =>
    (comment both.1 '/' both.2).1 rfl
  have block : ¬ (c = '/' ∧ text.head? = some '*') := fun both =>
    (comment both.1 '*' both.2).2 rfl
  simp only [isSign, Bool.not_eq_true', Bool.or_eq_false_iff, decide_eq_false_iff_not] at sign
  obtain ⟨⟨⟨blank, digit⟩, quote⟩, word⟩ := sign
  simp only [read, blank, digit, not_or.mpr quote, word, line, block, Bool.false_eq_true,
    ↓reduceIte]

theorem symbol_single {c : Char} {text : List Char} (single : isSingle c = true)
    (pair : ∀ d ∈ text.head?, isPair c d = false) :
    symbol c text = (.token .symbol (String.ofList [c]), 0) := by
  cases text with
  | nil => simp [symbol, single]
  | cons d text => simp [symbol, single, pair d rfl]

end Piece

namespace Printing

namespace Fixed

theorem word_shape {word : Fixed} (isWord : word.isWord = true) :
    ∃ c tail, word.spelling.toList = c :: tail ∧ Piece.isWordStart c = true ∧
      (∀ d ∈ tail, Piece.isWordChar d = true) ∧ Piece.wordKind word.spelling = .keyword := by
  have shape : ∀ {c tail}, word.spelling.toList = c :: tail →
      (Piece.isWordStart c && tail.all Piece.isWordChar) = true →
      Piece.wordKind word.spelling = .keyword →
      ∃ c tail, word.spelling.toList = c :: tail ∧ Piece.isWordStart c = true ∧
        (∀ d ∈ tail, Piece.isWordChar d = true) ∧ Piece.wordKind word.spelling = .keyword := by
    intro c tail spelt chars kind
    obtain ⟨start, inner⟩ := Bool.and_eq_true_iff.mp chars
    exact ⟨c, tail, spelt, start, List.all_eq_true.mp inner, kind⟩
  cases word with
  | binary op =>
      cases op <;> first
        | exact absurd isWord (by decide)
        | exact shape rfl (by decide) (by decide +kernel)
  | _ => first
    | exact absurd isWord (by decide)
    | exact shape rfl (by decide) (by decide +kernel)

/-- A sign is one character, or two that make a pair. -/
theorem sign_shape {word : Fixed} (sign : word.isWord = false) :
    (∃ c, word.spelling.toList = [c] ∧ Piece.isSign c = true ∧ Piece.isSingle c = true) ∨
      ∃ c d, word.spelling.toList = [c, d] ∧ Piece.isSign c = true ∧ c ≠ '/' ∧
        Piece.isPair c d = true := by
  cases word with
  | binary op =>
      cases op with
      | and | or => exact absurd sign (by decide)
      | eq | ne | ge | le => exact Or.inr ⟨_, _, rfl, by decide, by decide, by decide⟩
      | _ => exact Or.inl ⟨_, rfl, by decide, by decide⟩
  | gets | openParen | closeParen | openBrace | closeBrace | comma | semicolon =>
      exact Or.inl ⟨_, rfl, by decide, by decide⟩
  | _ => exact absurd sign (by decide)

theorem read_sign {word : Fixed} (sign : word.isWord = false) {text : List Char}
    (apart : ∀ c ∈ text.head?, word.glued c = false) :
    ∃ c tail, word.spelling.toList = c :: tail ∧
      Piece.read c (tail ++ text) = (.token .symbol word.spelling, tail.length) := by
  have whole : ∀ chars, word.spelling.toList = chars → String.ofList chars = word.spelling := by
    rintro _ rfl
    exact String.ofList_toList
  rcases sign_shape sign with ⟨c, spelt, isSign, single⟩ | ⟨c, d, spelt, isSign, slash, pair⟩
  · have free : ∀ d ∈ text.head?, Piece.isPair c d = false ∧ (c = '/' → d ≠ '/' ∧ d ≠ '*') := by
      intro d head
      simpa [glued, sign, spelt] using apart d head
    refine ⟨c, [], spelt, ?_⟩
    rw [List.nil_append, Piece.read_sign isSign fun slash d head => (free d head).2 slash,
      Piece.symbol_single single fun d head => (free d head).1, whole _ spelt]
    rfl
  · refine ⟨c, [d], spelt, ?_⟩
    rw [Piece.read_sign isSign fun here => absurd here slash, ← whole _ spelt]
    simp [Piece.symbol, pair]

end Fixed

namespace Item

variable {capabilities : Capabilities}

theorem read_fixed {word : Fixed} {text : List Char}
    (apart : ∀ c ∈ text.head?, (Item.fixed word : Item capabilities).glued c = false) :
    ∃ c tail, word.spelling.toList = c :: tail ∧
      Piece.read c (tail ++ text) = (.token word.kind word.spelling, tail.length) := by
  by_cases isWord : word.isWord = true
  · obtain ⟨c, tail, spelt, start, inner, kind⟩ := Fixed.word_shape isWord
    have same : String.ofList (c :: tail) = word.spelling := by rw [← spelt, String.ofList_toList]
    refine ⟨c, tail, spelt, ?_⟩
    simp only [glued, Fixed.glued, isWord, ↓reduceIte] at apart
    rw [Piece.read_word start inner apart, same, kind, Fixed.kind, if_pos isWord]
  · obtain ⟨c, tail, spelt, read⟩ := Fixed.read_sign (Bool.not_eq_true _ ▸ isWord) apart
    refine ⟨c, tail, spelt, ?_⟩
    rw [read, Fixed.kind, if_neg isWord]

/-- An item is read as its token unless the next character belongs to it. -/
theorem read_source (item : Item capabilities) {text : List Char}
    (apart : ∀ c ∈ text.head?, item.glued c = false) :
    ∃ c tail, item.source = c :: tail ∧
      Piece.read c (tail ++ text) = (.token item.kind item.lexeme, tail.length) := by
  cases item with
  | fixed word => exact read_fixed apart
  | name word =>
      have identifier : Piece.wordKind word.text = .identifier := by
        simp only [Piece.wordKind, Name.text, word.noKeyword, Bool.false_eq_true, ↓reduceIte]
      refine ⟨word.first, word.rest, rfl, ?_⟩
      rw [Piece.read_word word.start word.inner apart]
      simp only [kind, lexeme, ← identifier]
      rfl
  | number numeral =>
      have stops : ∀ c ∈ text.head?, Unicode.isDigit c = false ∧ c ≠ '.' := by
        intro c head
        simpa [glued] using apart c head
      refine ⟨numeral.first, numeral.tail, rfl, Piece.read_number numeral.start ?_⟩
      cases fraction : numeral.fraction with
      | nil =>
          simp only [Numeral.tail, fraction]
          exact Piece.numberTail_whole numeral.digits stops
      | cons digit rest =>
          simp only [Numeral.tail, fraction]
          exact Piece.numberTail_fraction numeral.digits (fraction ▸ numeral.decimals)
            (List.cons_ne_nil _ _) fun c head => (stops c head).1
  | text content =>
      refine ⟨'"', content.toList.flatMap escape ++ ['"'], rfl, ?_⟩
      simp [Piece.read_text, kind, lexeme]

structure Spells (item : Item capabilities) (token : Token) : Prop where
  kind : token.kind = item.kind
  lexeme : token.lexeme = item.lexeme

end Item

variable {capabilities : Capabilities}

/-- Items in a text: white space may follow each, and must where the next character would be taken
along. What is given back begins on the line of the word for it. -/
inductive Laid : List (Item capabilities) → List Char → Prop
  | finish : Laid [] []
  | item {item : Item capabilities} {items : List (Item capabilities)} {gap text : List Char}
      (blank : ∀ c ∈ gap, Unicode.isBlank c = true)
      (apart : ∀ c ∈ (gap ++ text).head?, item.glued c = false)
      (line : item = .fixed .giveBack → '\n' ∉ gap) (later : Laid items text) :
      Laid (item :: items) (item.source ++ (gap ++ text))

def Spelt : List (Item capabilities) → List Token → Prop
  | [], tokens => tokens = []
  | item :: items, tokens =>
      ∃ token behind, tokens = token :: behind ∧ item.Spells token ∧
        (item = .fixed .giveBack → ∀ next ∈ behind.head?, next.line = token.line) ∧
        Spelt items behind

def Printed (items : List (Item capabilities)) (source : String) : Prop :=
  ∃ gap text, source.toList = gap ++ text ∧ (∀ c ∈ gap, Unicode.isBlank c = true) ∧ Laid items text

end Printing

namespace Mark

theorem scanFrom_gap {gap : List Char} (blank : ∀ c ∈ gap, Unicode.isBlank c = true)
    (text : List Char) (offset : Nat) (place : Place) :
    scanFrom 0 offset place (gap ++ text) =
      scanFrom 0 (offset + gap.length) (gap.foldl Place.after place) text := by
  induction gap generalizing offset place with
  | nil => rfl
  | cons c gap ih =>
      have here : Piece.read c (gap ++ text) = (.gap, 0) := by
        simp [Piece.read, blank c List.mem_cons_self]
      simp only [List.cons_append, scanFrom, here, List.foldl_cons, List.length_cons]
      rw [ih fun d member => blank d (List.mem_cons_of_mem c member)]
      congr 1
      omega

end Mark

theorem Place.line_foldl_after {text : List Char} (oneLine : '\n' ∉ text) (place : Place) :
    (text.foldl Place.after place).line = place.line := by
  induction text generalizing place with
  | nil => rfl
  | cons c text ih =>
      simp only [List.mem_cons, not_or] at oneLine
      rw [List.foldl_cons, ih oneLine.2]
      simp [Place.after, Ne.symm oneLine.1]

namespace Printing

variable {capabilities : Capabilities}

/-- Cut into tokens, a text of items gives their tokens and one that closes them. -/
theorem scanFrom_laid {items : List (Item capabilities)} {text : List Char}
    (laid : Laid items text) (offset : Nat) (place : Place) :
    ∃ tokens finish, Mark.scanFrom 0 offset place text = (tokens ++ [finish]).map Mark.token ∧
      Spelt items tokens ∧ finish.kind = .finish ∧ ∀ first ∈ tokens.head?, first.place = place := by
  -- items are read one by one; the offset and the place move on over each and its gap
  induction laid generalizing offset place with
  | finish => exact ⟨[], _, rfl, rfl, rfl, fun _ none => nomatch none⟩
  | @item item items gap text blank apart line later ih =>
      obtain ⟨c, tail, source, read⟩ := item.read_source apart
      obtain ⟨tokens, finish, scanned, spelt, ends, begins⟩ :=
        ih (offset + 1 + tail.length + gap.length)
          (gap.foldl Place.after (tail.foldl Place.after (place.after c)))
      refine ⟨⟨item.kind, item.lexeme, offset, place, offset + 1 + tail.length⟩ :: tokens,
        finish, ?_, ?_, ends, ?_⟩
      · rw [source, List.cons_append, Mark.scanFrom]
        simp only [read]
        rw [Mark.scanFrom_skip, Mark.scanFrom_gap blank, scanned]
        rfl
      · refine ⟨_, _, rfl, ⟨rfl, rfl⟩, fun giveBack next head => ?_, spelt⟩
        have oneLine : '\n' ∉ c :: tail := by
          rw [← source, giveBack]
          exact (by decide : '\n' ∉ "return".toList)
        rw [Token.line, begins next head, Place.line_foldl_after (line giveBack),
          ← List.foldl_cons]
        exact Place.line_foldl_after oneLine place
      · intro first head
        obtain rfl := Option.some.inj head
        rfl

/-- A printed program is cut into the tokens of its items and one that closes them. -/
theorem scan_printed {items : List (Item capabilities)} {source : String}
    (printed : Printed items source) :
    ∃ tokens finish, Mark.scan source.toList = (tokens ++ [finish]).map Mark.token ∧
      Spelt items tokens ∧ finish.kind = .finish := by
  obtain ⟨gap, text, whole, blank, laid⟩ := printed
  obtain ⟨tokens, finish, scanned, spelt, ends, _⟩ :=
    scanFrom_laid laid (0 + gap.length) (gap.foldl Place.after .start)
  refine ⟨tokens, finish, ?_, spelt, ends⟩
  rw [Mark.scan, whole, Mark.scanFrom_gap blank, scanned]

/-! ### A layout -/

def spaced (items : List (Item capabilities)) : List Char :=
  items.flatMap fun item => item.source ++ [' ']

theorem Fixed.glued_space (word : Fixed) : word.glued ' ' = false := by
  cases word with
  | binary op => cases op <;> decide
  | _ => decide

theorem Item.glued_space (item : Item capabilities) : item.glued ' ' = false := by
  cases item with
  | fixed word => exact word.glued_space
  | name | number | text => rfl

theorem laid_spaced (items : List (Item capabilities)) : Laid items (spaced items) := by
  induction items with
  | nil => exact .finish
  | cons item items ih =>
      have space : ∀ c ∈ [' '], Unicode.isBlank c = true :=
        List.forall_mem_singleton.mpr (by decide)
      have apart : ∀ c ∈ ([' '] ++ spaced items).head?, item.glued c = false := by
        intro c head
        obtain rfl := Option.some.inj head
        exact item.glued_space
      have line : '\n' ∉ [' '] := by decide
      have laid := Laid.item space apart (fun _ => line) ih
      simpa [spaced] using laid

theorem printed_spaced (items : List (Item capabilities)) :
    Printed items (String.ofList (spaced items)) :=
  ⟨[], spaced items, String.toList_ofList, nofun, laid_spaced items⟩

end Printing

end Parlance
