import Parlance.Proofs.Printing.Layout

/-!
Tokens written down. Words, numbers and symbols are written as they are, and a text between double
quotes, with a backslash before each quote and each backslash in it. A space between any two keeps
them apart, so what is written down is cut into the same tokens again. Main statement:
`Token.writings_scanned`.
-/

namespace Parlance

namespace Piece

theorem isSign_of_isSingle {c : Char} (single : isSingle c = true) : isSign c = true := by
  have all : "()\x7b\x7d[],;:.=+-*/%<>!".toList.all isSign = true := by decide +kernel
  exact List.all_eq_true.mp all c (List.contains_iff_mem.mp single)

theorem isSign_of_isPair {c d : Char} (pair : isPair c d = true) : isSign c = true ∧ c ≠ '/' := by
  unfold isPair at pair
  split at pair
  all_goals first
    | exact ⟨by decide, by decide⟩
    | cases pair

theorem isPair_space (c : Char) : isPair c ' ' = false := by
  unfold isPair
  split
  all_goals first
    | rfl
    | contradiction

end Piece

/-- What can be written down as a token: a word, a number or a symbol by its characters, or a text
by its content. -/
inductive Writing where
  | word (letters : List Char) (isWord : Lexeme.IsWord letters)
  | number (digits : List Char) (isNumber : Lexeme.IsNumber digits)
  | symbol (signs : List Char) (isSymbol : Lexeme.IsSymbol signs)
  | text (content : String)

namespace Writing

/-- A word is a keyword if its lower case is in the set of these. -/
def kind : Writing → Token.Kind
  | .word letters _ =>
      if Unicode.lower (String.ofList letters) ∈ Keyword.wordSpellings then .keyword
      else .identifier
  | .number .. => .number
  | .symbol .. => .symbol
  | .text _ => .string

def lexeme : Writing → String
  | .word letters _ => String.ofList letters
  | .number digits _ => String.ofList digits
  | .symbol signs _ => String.ofList signs
  | .text content => content

def source : Writing → List Char
  | .word letters _ => letters
  | .number digits _ => digits
  | .symbol signs _ => signs
  | .text content => '"' :: (content.toList.flatMap Printing.escape ++ ['"'])

def written : List Writing → List Char
  | [] => []
  | [last] => last.source
  | first :: rest => first.source ++ ' ' :: written rest

def Spaced (text : List Char) : Prop := ∀ c ∈ text.head?, c = ' '

section

variable {text : List Char} (spaced : Spaced text)

include spaced

theorem read_word {letters : List Char} (isWord : Lexeme.IsWord letters) :
    ∃ c tail, letters = c :: tail ∧ Piece.read c (tail ++ text) =
      (.token (kind (.word letters isWord)) (String.ofList letters), tail.length) := by
  cases letters with
  | nil => exact isWord.elim
  | cons c tail =>
      have stops : ∀ d ∈ text.head?, Piece.isWordChar d = false := by
        intro d head
        obtain rfl := spaced d head
        decide
      refine ⟨c, tail, rfl, ?_⟩
      rw [Piece.read_word isWord.1 isWord.2 stops]
      simp [kind, Piece.wordKind, Keyword.isWordSpelling]

theorem read_number {digits : List Char} (isNumber : Lexeme.IsNumber digits) :
    ∃ c tail, digits = c :: tail ∧ Piece.read c (tail ++ text) =
      (.token .number (String.ofList digits), tail.length) := by
  have stops : ∀ d ∈ text.head?, Unicode.isDigit d = false ∧ d ≠ '.' := by
    intro d head
    obtain rfl := spaced d head
    decide
  cases isNumber with
  | whole first digits =>
      exact ⟨_, _, rfl, Piece.read_number first (Piece.numberTail_whole digits stops)⟩
  | fraction first digits decimals some' =>
      exact ⟨_, _, rfl, Piece.read_number first (Piece.numberTail_fraction digits decimals some'
        fun d head => (stops d head).1)⟩

theorem read_symbol {signs : List Char} (isSymbol : Lexeme.IsSymbol signs) :
    ∃ c tail, signs = c :: tail ∧ Piece.read c (tail ++ text) =
      (.token .symbol (String.ofList signs), tail.length) := by
  match signs, isSymbol with
  | [c], single =>
      have comment : c = '/' → ∀ d ∈ text.head?, d ≠ '/' ∧ d ≠ '*' := by
        rintro - d head
        obtain rfl := spaced d head
        decide
      have alone : ∀ d ∈ text.head?, Piece.isPair c d = false := by
        intro d head
        obtain rfl := spaced d head
        exact Piece.isPair_space c
      refine ⟨c, [], rfl, ?_⟩
      rw [List.nil_append, Piece.read_sign (Piece.isSign_of_isSingle single) comment,
        Piece.symbol_single single alone]
      rfl
  | [c, d], pair =>
      obtain ⟨sign, slash⟩ := Piece.isSign_of_isPair pair
      refine ⟨c, [d], rfl, ?_⟩
      rw [Piece.read_sign sign fun here => absurd here slash]
      simp [Piece.symbol, show Piece.isPair c d = true from pair]

/-- What is written is read as one token, whatever it is. -/
theorem read_source (writing : Writing) :
    ∃ c tail, writing.source = c :: tail ∧
      Piece.read c (tail ++ text) = (.token writing.kind writing.lexeme, tail.length) := by
  cases writing with
  | word letters isWord => exact read_word spaced isWord
  | number digits isNumber => exact read_number spaced isNumber
  | symbol signs isSymbol => exact read_symbol spaced isSymbol
  | text content =>
      refine ⟨'"', _, rfl, ?_⟩
      simp [Piece.read_text, kind, lexeme]

end

theorem scanFrom_source (writing : Writing) {text : List Char} (spaced : Spaced text) (offset : Nat)
    (place : Place) :
    ∃ token offset' place', token.kind = writing.kind ∧ token.lexeme = writing.lexeme ∧
      Mark.scanFrom 0 offset place (writing.source ++ text) =
        .token token :: Mark.scanFrom 0 offset' place' text := by
  obtain ⟨c, tail, source, read⟩ := writing.read_source spaced
  refine ⟨⟨writing.kind, writing.lexeme, offset, place, offset + 1 + tail.length⟩,
    offset + 1 + tail.length, tail.foldl Place.after (place.after c), rfl, rfl, ?_⟩
  rw [source, List.cons_append, Mark.scanFrom]
  simp only [read]
  rw [Mark.scanFrom_skip]

theorem scanFrom_written (writings : List Writing) (offset : Nat) (place : Place) :
    ∃ tokens offset' place',
      tokens.map (fun token => (token.kind, token.lexeme)) =
        writings.map (fun writing => (writing.kind, writing.lexeme)) ∧
      Mark.scanFrom 0 offset place (written writings) =
        (tokens ++ [.finishAt offset' place' offset']).map Mark.token := by
  -- one is read after the other, each in front of a space or the end
  fun_induction written writings generalizing offset place with
  | case1 => exact ⟨[], offset, place, rfl, rfl⟩
  | case2 last =>
      have ends : Spaced [] := nofun
      obtain ⟨token, offset', place', kind, lexeme, scanned⟩ :=
        last.scanFrom_source ends offset place
      rw [List.append_nil] at scanned
      exact ⟨[token], offset', place', by simp [kind, lexeme], scanned⟩
  | case3 first rest _ ih =>
      have space : Spaced (' ' :: written rest) := fun c head => (Option.some.inj head).symm
      have blank : ∀ c ∈ [' '], Unicode.isBlank c = true :=
        List.forall_mem_singleton.mpr (by decide)
      obtain ⟨token, middle, between, kind, lexeme, scanned⟩ :=
        first.scanFrom_source space offset place
      obtain ⟨tokens, offset', place', same, scanned'⟩ := ih (middle + 1) (between.after ' ')
      have gap : Mark.scanFrom 0 middle between (' ' :: written rest) = _ :=
        Mark.scanFrom_gap blank (written rest) middle between
      refine ⟨token :: tokens, offset', place', by simp [kind, lexeme, same], ?_⟩
      rw [scanned, gap]
      exact congrArg (Mark.token token :: ·) scanned'

end Writing

/-- The tokens of a text are these, by their kinds and lexemes, and one that closes them; a strict
reader finds nothing to refuse. -/
def Token.CutInto (source : String) (cut : List (Kind × String)) : Prop :=
  (scan source).map (fun token => (token.kind, token.lexeme)) = cut ++ [(.finish, "")] ∧
    scanStrict source = .ok (scan source)

theorem Writing.cutInto (writings : List Writing) :
    Token.CutInto (String.ofList (written writings))
      (writings.map fun writing => (writing.kind, writing.lexeme)) := by
  obtain ⟨tokens, offset, place, same, marks⟩ := scanFrom_written writings 0 .start
  have found : Mark.scan (String.ofList (written writings)).toList =
      (tokens ++ [Token.finishAt offset place offset]).map Mark.token := by
    rw [String.toList_ofList]
    exact marks
  have cut : Token.scan (String.ofList (written writings)) =
      tokens ++ [.finishAt offset place offset] := by
    rw [Token.scan, found, List.filterMap_map]
    exact List.filterMap_some
  have clean : Token.junk (String.ofList (written writings)) = [] := by
    rw [Token.junk, found]
    simp [Mark.junk?]
  constructor
  · rw [cut, List.map_append, same]
    rfl
  · rw [Token.scanStrict_eq, clean]

/-- What is written down is cut into the same tokens again. In particular every text can be written
down. -/
theorem Token.writings_scanned :
    (∀ writings : List Writing, CutInto (String.ofList (Writing.written writings))
      (writings.map fun writing => (writing.kind, writing.lexeme))) ∧
    ∀ content : String, ∃ source, CutInto source [(.string, content)] :=
  ⟨Writing.cutInto, fun content => ⟨_, Writing.cutInto [.text content]⟩⟩

end Parlance
