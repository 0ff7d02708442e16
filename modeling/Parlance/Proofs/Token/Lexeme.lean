import Parlance.Token.Scan

/-!
The lexemes of the language, said without a reader: which slices of a text are numbers, words,
symbols, quoted texts and comments. What a reader cuts off is one of them, a number, a word or a
symbol as long as there is any; a character that it gives up as junk begins none.
-/

namespace Parlance

namespace Lexeme

/-- A digit from 0 to 9, digits of any script behind it, and perhaps a point and more of them. -/
inductive IsNumber : List Char → Prop where
  | whole {c : Char} {digits : List Char} : c.isDigit = true →
      (∀ d ∈ digits, Unicode.isDigit d = true) → IsNumber (c :: digits)
  | fraction {c : Char} {digits decimals : List Char} : c.isDigit = true →
      (∀ d ∈ digits, Unicode.isDigit d = true) → (∀ d ∈ decimals, Unicode.isDigit d = true) →
        decimals ≠ [] → IsNumber (c :: (digits ++ '.' :: decimals))

def IsWord : List Char → Prop
  | [] => False
  | c :: rest => Piece.isWordStart c = true ∧ ∀ d ∈ rest, Piece.isWordChar d = true

def IsSymbol : List Char → Prop
  | [c] => Piece.isSingle c = true
  | [c, d] => Piece.isPair c d = true
  | _ => False

/-- What stands between quotes and what it means: a backslash takes the next character along. -/
inductive Means (quote : Char) : List Char → List Char → Prop where
  | nil : Means quote [] []
  | escape (c : Char) {source content : List Char} : Means quote source content →
      Means quote ('\\' :: c :: source) (Piece.unescape c :: content)
  | plain {c : Char} {source content : List Char} : c ≠ quote → c ≠ '\\' →
      Means quote source content → Means quote (c :: source) (c :: content)

/-- A quoted text with its content and what is behind it. One that is not closed runs to the end;
a backslash that is the last character stands for itself. -/
inductive IsQuoted : (slice content rest : List Char) → Prop where
  | closed {quote : Char} {source content rest : List Char} : quote = '"' ∨ quote = '\'' →
      Means quote source content → IsQuoted (quote :: (source ++ [quote])) content rest
  | unclosed {quote : Char} {source content : List Char} : quote = '"' ∨ quote = '\'' →
      Means quote source content → IsQuoted (quote :: source) content []
  | brokenOff {quote : Char} {source content : List Char} : quote = '"' ∨ quote = '\'' →
      Means quote source content → IsQuoted (quote :: (source ++ ['\\'])) (content ++ ['\\']) []

/-- A comment and what is behind it: one that ends before a line feed, or behind the first star and
slash. Without these it runs to the end. -/
inductive IsComment : (slice rest : List Char) → Prop where
  | line {body rest : List Char} : '\n' ∉ body → (∀ c ∈ rest.head?, c = '\n') →
      IsComment ('/' :: '/' :: body) rest
  | block {body rest : List Char} : ¬ ['*', '/'] <:+: body →
      IsComment ('/' :: '*' :: (body ++ ['*', '/'])) rest
  | unclosed {body : List Char} : ¬ ['*', '/'] <:+: body → IsComment ('/' :: '*' :: body) []

/-- A slice that is the lexeme of some token, before what is behind it. -/
def IsToken (slice rest : List Char) : Prop :=
  IsNumber slice ∨ IsWord slice ∨ IsSymbol slice ∨ ∃ content, IsQuoted slice content rest

/-- No slice from here is the lexeme of a token. -/
def BeginsNone (text : List Char) : Prop :=
  ∀ slice rest, slice ++ rest = text → ¬ IsToken slice rest

/-- No more of what is behind a slice can be taken along. -/
def Longest (sort : List Char → Prop) (slice rest : List Char) : Prop :=
  ∀ more, more <+: rest → sort (slice ++ more) → more = []

/-- A token's kind, the slice of the text it takes, its lexeme, and what is behind it. -/
inductive Cut : Token.Kind → List Char → String → List Char → Prop where
  | number {slice rest : List Char} : IsNumber slice → Longest IsNumber slice rest →
      Cut .number slice (String.ofList slice) rest
  | word {slice rest : List Char} : IsWord slice → Longest IsWord slice rest →
      Cut (Piece.wordKind (String.ofList slice)) slice (String.ofList slice) rest
  | symbol {slice rest : List Char} : IsSymbol slice → Longest IsSymbol slice rest →
      Cut .symbol slice (String.ofList slice) rest
  | string {slice content rest : List Char} : IsQuoted slice content rest →
      Cut .string slice (String.ofList content) rest

theorem Cut.kind_ne_finish {kind : Token.Kind} {slice rest : List Char} {lexeme : String}
    (cut : Cut kind slice lexeme rest) : kind ≠ .finish := by
  cases cut with
  | word => simp only [Piece.wordKind]; split <;> nofun
  | number | symbol | string => nofun

theorem Cut.slice_ne_nil {kind : Token.Kind} {slice rest : List Char} {lexeme : String}
    (cut : Cut kind slice lexeme rest) : slice ≠ [] := by
  rintro rfl
  cases cut with
  | number number => cases number
  | word word => exact word
  | symbol symbol => exact symbol
  | string quoted => cases quoted

theorem Cut.head {kind : Token.Kind} {slice rest : List Char} {lexeme : String}
    (cut : Cut kind slice lexeme rest) :
    ∃ c more, slice = c :: more ∧ c ≠ '\n' ∧ c ≠ '\r' := by
  -- each sort has its own first characters, and neither end of a line is one of them
  cases cut with
  | number number =>
      cases number with
      | whole digit | fraction digit =>
          refine ⟨_, _, rfl, ?_, ?_⟩
          all_goals
            rintro rfl
            exact absurd digit (by decide)
  | word word =>
      match slice, word with
      | c :: rest, ⟨begins, _⟩ =>
          refine ⟨c, rest, rfl, ?_, ?_⟩
          all_goals
            rintro rfl
            exact absurd begins (by decide +kernel)
  | symbol symbol =>
      match slice, symbol with
      | [c], single =>
          refine ⟨c, [], rfl, ?_, ?_⟩
          all_goals
            rintro rfl
            cases single
      | [c, d], pair =>
          refine ⟨c, [d], rfl, ?_, ?_⟩
          all_goals
            rintro rfl
            simp [IsSymbol, Piece.isPair] at pair
  | string quoted =>
      cases quoted with
      | closed opens _ | unclosed opens _ | brokenOff opens _ =>
          refine ⟨_, _, rfl, ?_, ?_⟩
          all_goals
            rintro rfl
            revert opens
            decide

/-- Nothing can be taken along if what is behind a slice begins with nothing that could. -/
theorem longest_of_stops {sort : List Char → Prop} {slice rest : List Char}
    (stops : ∀ c more, c ∈ rest.head? → ¬ sort (slice ++ c :: more)) :
    Longest sort slice rest := by
  intro more taken longer
  cases more with
  | nil => rfl
  | cons c more =>
      obtain ⟨behind, rfl⟩ := taken
      exact absurd longer (stops c more rfl)

/-- One more unit of a quoted text, a character or a backslash and the one it takes along. -/
theorem IsQuoted.unit {quote : Char} {source content rest : List Char} (unit mark : List Char)
    (goes : ∀ {source content}, Means quote source content →
      Means quote (unit ++ source) (mark ++ content))
    (quoted : IsQuoted (quote :: source) content rest) :
    IsQuoted (quote :: (unit ++ source)) (mark ++ content) rest := by
  generalize opened : quote :: source = slice at quoted
  cases quoted with
  | closed opens means =>
      obtain ⟨rfl, rfl⟩ := List.cons.inj opened
      rw [← List.append_assoc]
      exact .closed opens (goes means)
  | unclosed opens means =>
      obtain ⟨rfl, rfl⟩ := List.cons.inj opened
      exact .unclosed opens (goes means)
  | brokenOff opens means =>
      obtain ⟨rfl, rfl⟩ := List.cons.inj opened
      rw [← List.append_assoc, ← List.append_assoc]
      exact .brokenOff opens (goes means)

/-- No mark of the end begins with a further character unless it closes it with the next. -/
theorem no_end_cons {c : Char} {body : List Char} (apart : c = '*' → body.head? ≠ some '/')
    (none : ¬ ['*', '/'] <:+: body) : ¬ ['*', '/'] <:+: c :: body := by
  rw [List.infix_cons_iff, not_or]
  refine ⟨?_, none⟩
  rintro ⟨behind, same⟩
  obtain ⟨rfl, rfl⟩ := List.cons.inj same
  exact apart rfl rfl

/-- One more character of a block comment. -/
theorem IsComment.cons {c : Char} {body rest : List Char}
    (apart : c = '*' → body.head? ≠ some '/') (comment : IsComment ('/' :: '*' :: body) rest) :
    IsComment ('/' :: '*' :: c :: body) rest := by
  generalize opened : '/' :: '*' :: body = slice at comment
  cases comment with
  | line => cases (List.cons.inj (List.cons.inj opened).2).1
  | @block inner _ none =>
      obtain rfl := (List.cons.inj (List.cons.inj opened).2).2
      refine @IsComment.block (c :: inner) _ (no_end_cons (fun star head => apart star ?_) none)
      simp [List.head?_append, head]
  | unclosed none =>
      obtain rfl := (List.cons.inj (List.cons.inj opened).2).2
      exact .unclosed (no_end_cons apart none)

end Lexeme

namespace Piece

open Lexeme

theorem takeWhile_run {sort : Char → Bool} {run text : List Char} (all : ∀ c ∈ run, sort c = true)
    (stops : ∀ c ∈ text.head?, sort c = false) : (run ++ text).takeWhile sort = run := by
  rw [List.takeWhile_append_of_pos all]
  cases text with
  | nil => simp
  | cons c text => simp [stops c rfl]

theorem dropWhile_run {sort : Char → Bool} {run text : List Char} (all : ∀ c ∈ run, sort c = true)
    (stops : ∀ c ∈ text.head?, sort c = false) : (run ++ text).dropWhile sort = text := by
  rw [List.dropWhile_append_of_pos all]
  cases text with
  | nil => rfl
  | cons c text => simp [stops c rfl]

theorem exists_run (sort : Char → Bool) (text : List Char) :
    ∃ run rest, text = run ++ rest ∧ (∀ c ∈ run, sort c = true) ∧
      ∀ c ∈ rest.head?, sort c = false := by
  refine ⟨text.takeWhile sort, text.dropWhile sort, List.takeWhile_append_dropWhile.symm,
    List.all_eq_true.mp List.all_takeWhile, fun c head => ?_⟩
  have first := List.head?_dropWhile_not sort text
  rw [Option.mem_def.mp head] at first
  simpa using first

/-! ### Numbers -/

/-- Digits can be told from what is behind them. -/
theorem digits_unique {digits whole rest rest' : List Char}
    (all : ∀ c ∈ digits, Unicode.isDigit c = true) (all' : ∀ c ∈ whole, Unicode.isDigit c = true)
    (stops : ∀ c ∈ rest.head?, Unicode.isDigit c = false)
    (stops' : ∀ c ∈ rest'.head?, Unicode.isDigit c = false)
    (same : digits ++ rest = whole ++ rest') : digits = whole ∧ rest = rest' := by
  have front := congrArg (List.takeWhile Unicode.isDigit) same
  rw [takeWhile_run all stops, takeWhile_run all' stops'] at front
  subst front
  exact ⟨rfl, List.append_cancel_left same⟩

theorem point_stops (decimals : List Char) :
    ∀ c ∈ ('.' :: decimals).head?, Unicode.isDigit c = false := by
  rintro c ⟨⟩
  decide

/-- A number without a fraction is as long as can be where no digit and no fraction follows. -/
theorem longest_whole {c : Char} {whole rest : List Char}
    (all : ∀ d ∈ whole, Unicode.isDigit d = true)
    (stops : ∀ d ∈ rest.head?, Unicode.isDigit d = false)
    (plain : ∀ behind, rest = '.' :: behind → ∀ d ∈ behind.head?, Unicode.isDigit d = false) :
    Longest IsNumber (c :: whole) rest := by
  intro more taken number
  cases more with
  | nil => rfl
  | cons d more =>
      obtain ⟨behind, rfl⟩ := taken
      have other : Unicode.isDigit d = false := stops d rfl
      generalize longer : c :: whole ++ d :: more = slice at number
      cases number with
      | whole _ digits =>
          obtain ⟨_, rfl⟩ := List.cons.inj longer
          simp [digits d (by simp)] at other
      | @fraction _ digits decimals _ all' decimal some' =>
          have next : ∀ e ∈ (d :: more).head?, Unicode.isDigit e = false := by
            rintro e ⟨⟩
            exact other
          obtain ⟨rfl, point⟩ :=
            digits_unique all all' next (point_stops decimals) (List.cons.inj longer).2
          obtain ⟨rfl, rfl⟩ := List.cons.inj point
          -- the fraction was there to be taken
          cases more with
          | nil => exact absurd rfl some'
          | cons e more =>
              have digit := decimal e List.mem_cons_self
              rw [plain _ rfl e rfl] at digit
              cases digit

/-- A number with a fraction is as long as can be where no digit follows. -/
theorem longest_fraction {c : Char} {whole decimals rest : List Char}
    (all : ∀ d ∈ whole, Unicode.isDigit d = true)
    (stops : ∀ d ∈ rest.head?, Unicode.isDigit d = false) :
    Longest IsNumber (c :: (whole ++ '.' :: decimals)) rest := by
  refine longest_of_stops fun d more head number => ?_
  have other := stops d head
  generalize longer : c :: (whole ++ '.' :: decimals) ++ d :: more = slice at number
  rw [List.cons_append, List.append_assoc, List.cons_append] at longer
  cases number with
  | whole _ digits =>
      obtain ⟨_, rfl⟩ := List.cons.inj longer
      simp [digits d (by simp)] at other
  | @fraction _ digits decimals' _ all' decimal _ =>
      obtain ⟨rfl, same⟩ := digits_unique all all' (point_stops _) (point_stops _)
        (List.cons.inj longer).2
      obtain ⟨_, rfl⟩ := List.cons.inj same
      simp [decimal d (by simp)] at other

theorem numberTail_cut {c : Char} (digit : c.isDigit = true) (rest : List Char) :
    ∃ text, rest = numberTail rest ++ text ∧ IsNumber (c :: numberTail rest) ∧
      Longest IsNumber (c :: numberTail rest) text := by
  obtain ⟨whole, text, rfl, all, stops⟩ := exists_run Unicode.isDigit rest
  simp only [numberTail, takeWhile_run all stops, dropWhile_run all stops]
  split
  · rename_i behind
    obtain ⟨decimals, text, rfl, decimal, ends⟩ := exists_run Unicode.isDigit behind
    simp only [takeWhile_run decimal ends]
    cases decimals with
    | nil =>
        refine ⟨_, rfl, .whole digit all, longest_whole all (point_stops _) ?_⟩
        rintro behind ⟨⟩
        exact ends
    | cons d decimals =>
        exact ⟨text, by simp, .fraction digit all decimal (List.cons_ne_nil _ _),
          longest_fraction all ends⟩
  · rename_i plain
    refine ⟨text, rfl, .whole digit all, longest_whole all stops ?_⟩
    rintro behind rfl
    exact absurd rfl (plain behind)

/-! ### Quoted texts and comments -/

theorem quotedTail_cut {quote : Char} (opens : quote = '"' ∨ quote = '\'') (rest : List Char) :
    ∃ source text, rest = source ++ text ∧ (quotedTail quote rest).2 = source.length ∧
      IsQuoted (quote :: source) (quotedTail quote rest).1 text := by
  fun_induction quotedTail quote rest with
  | case1 => exact ⟨[], [], rfl, rfl, .unclosed opens .nil⟩
  | case2 escaped rest content length tail ih =>
      obtain ⟨source, text, rfl, taken, quoted⟩ := ih
      rw [tail] at taken quoted
      refine ⟨'\\' :: escaped :: source, text, rfl, by simpa using taken, ?_⟩
      exact quoted.unit ['\\', escaped] [unescape escaped] (.escape escaped)
  | case3 rest notEscape =>
      exact ⟨[quote], rest, rfl, rfl, .closed opens .nil⟩
  | case4 c rest notEscape other content length tail ih =>
      obtain ⟨source, text, rfl, taken, quoted⟩ := ih
      rw [tail] at taken quoted
      by_cases backslash : c = '\\'
      · -- a backslash that takes nothing along is the last character
        subst backslash
        cases whole : source ++ text with
        | cons escaped behind => exact (notEscape escaped behind rfl whole).elim
        | nil =>
            rw [whole] at tail
            obtain ⟨rfl, rfl⟩ := Prod.mk.inj tail
            exact ⟨['\\'], [], rfl, rfl, .brokenOff opens .nil⟩
      · refine ⟨c :: source, text, rfl, by simpa using taken, ?_⟩
        exact quoted.unit [c] [c] (.plain other backslash)

theorem commentTail_cut (rest : List Char) :
    ∃ body text, rest = body ++ text ∧ commentTail rest = body.length ∧
      IsComment ('/' :: '*' :: body) text := by
  fun_induction commentTail rest with
  | case1 => exact ⟨[], [], rfl, rfl, .unclosed (by simp)⟩
  | case2 c => exact ⟨[c], [], rfl, rfl, .unclosed (no_end_cons nofun (by simp))⟩
  | case3 rest => exact ⟨['*', '/'], rest, rfl, rfl, @IsComment.block [] _ (by simp)⟩
  | case4 c rest single closes ih =>
      obtain ⟨body, text, rfl, taken, comment⟩ := ih
      refine ⟨c :: body, text, rfl, by simp [taken], comment.cons fun star head => ?_⟩
      obtain ⟨behind, rfl⟩ := List.head?_eq_some_iff.mp head
      exact closes (behind ++ text) star rfl

/-! ### Reading -/

def Takes (c : Char) (tail text : List Char) : Piece → Prop
  | .gap => tail = [] ∧ Unicode.isBlank c = true ∨ IsComment (c :: tail) text
  | .token kind lexeme => Cut kind (c :: tail) lexeme text
  | .junk => tail = [] ∧ BeginsNone (c :: text)

theorem takes_line {rest : List Char} (head : rest.head? = some '/') :
    ∃ tail text, rest = tail ++ text ∧ (rest.takeWhile (· ≠ '\n')).length = tail.length ∧
      Takes '/' tail text .gap := by
  obtain ⟨body, rfl⟩ := List.head?_eq_some_iff.mp head
  obtain ⟨run, text, rfl, all, stops⟩ := exists_run (· ≠ '\n') body
  refine ⟨'/' :: run, text, rfl, ?_, Or.inr (.line ?_ ?_)⟩
  · simp only [List.takeWhile_cons, takeWhile_run all stops]
    rfl
  · exact fun member => by simpa using all _ member
  · exact fun c first => by simpa using stops c first

theorem takes_block {rest : List Char} (head : rest.head? = some '*') :
    ∃ tail text, rest = tail ++ text ∧ commentTail rest.tail + 1 = tail.length ∧
      Takes '/' tail text .gap := by
  obtain ⟨rest, rfl⟩ := List.head?_eq_some_iff.mp head
  obtain ⟨body, text, rfl, taken, comment⟩ := commentTail_cut rest
  exact ⟨'*' :: body, text, rfl, by simpa using taken, Or.inr comment⟩

theorem takes_word {c : Char} (start : isWordStart c = true) (rest : List Char) :
    ∃ tail text, rest = tail ++ text ∧ (rest.takeWhile isWordChar).length = tail.length ∧
      let word := String.ofList (c :: rest.takeWhile isWordChar)
      Takes c tail text (.token (wordKind word) word) := by
  obtain ⟨run, text, rfl, all, stops⟩ := exists_run isWordChar rest
  refine ⟨run, text, rfl, by rw [takeWhile_run all stops], ?_⟩
  rw [takeWhile_run all stops]
  refine .word ⟨start, all⟩ (longest_of_stops fun d more head word => ?_)
  have other := stops d head
  rw [word.2 d (by simp)] at other
  cases other

theorem beginsNone {c : Char} {text : List Char} (digit : c.isDigit = false)
    (quote : ¬ (c = '"' ∨ c = '\'')) (word : isWordStart c = false) (single : isSingle c = false)
    (pair : ∀ d ∈ text.head?, isPair c d = false) : BeginsNone (c :: text) := by
  -- each sort of token would have to begin with the character, and none may
  rintro slice rest same (number | isWord | symbol | ⟨content, quoted⟩)
  · cases number with
    | whole first | fraction first =>
        obtain ⟨rfl, _⟩ := List.cons.inj same
        rw [first] at digit
        cases digit
  · cases slice with
    | nil => exact isWord
    | cons first behind =>
        obtain ⟨rfl, _⟩ := List.cons.inj same
        rw [isWord.1] at word
        cases word
  · match slice, symbol with
    | [first], found =>
        obtain ⟨rfl, _⟩ := List.cons.inj same
        rw [show isSingle first = true from found] at single
        cases single
    | [first, second], found =>
        obtain ⟨rfl, rfl⟩ := List.cons.inj same
        have apart := pair second rfl
        rw [show isPair first second = true from found] at apart
        cases apart
  · cases quoted with
    | closed opens | unclosed opens | brokenOff opens =>
        obtain ⟨rfl, _⟩ := List.cons.inj same
        exact quote opens

theorem takes_symbol {c : Char} (digit : c.isDigit = false) (quote : ¬ (c = '"' ∨ c = '\''))
    (word : isWordStart c = false) (rest : List Char) :
    ∃ tail text, rest = tail ++ text ∧ (symbol c rest).2 = tail.length ∧
      Takes c tail text (symbol c rest).1 := by
  -- one character is a symbol if it makes no longer one with the next, else the two are
  have alone : (∀ d ∈ rest.head?, isPair c d = false) → (symbol c rest).2 = 0 ∧
      Takes c [] rest (symbol c rest).1 := by
    intro pair
    by_cases single : isSingle c = true
    · have read : symbol c rest = (.token .symbol (String.ofList [c]), 0) := by
        cases rest with
        | nil => simp [symbol, single]
        | cons d rest => simp [symbol, single, pair d rfl]
      rw [read]
      refine ⟨rfl, .symbol single (longest_of_stops fun d more head longer => ?_)⟩
      cases more with
      | nil =>
          have apart := pair d head
          rw [show isPair c d = true from longer] at apart
          cases apart
      | cons e more => exact longer
    · rw [Bool.not_eq_true] at single
      have read : symbol c rest = (.junk, 0) := by
        cases rest with
        | nil => simp [symbol, single]
        | cons d rest => simp [symbol, single, pair d rfl]
      rw [read]
      exact ⟨rfl, rfl, beginsNone digit quote word single pair⟩
  cases rest with
  | nil => exact ⟨[], [], rfl, alone nofun⟩
  | cons d text =>
      by_cases pair : isPair c d = true
      · refine ⟨[d], text, rfl, by simp [symbol, pair], ?_⟩
        simp only [symbol, pair, ↓reduceIte]
        exact .symbol pair (longest_of_stops fun e more _ longer => longer)
      · refine ⟨[], d :: text, rfl, alone ?_⟩
        rintro e ⟨⟩
        simpa using pair

/-- Every piece takes what it should. -/
theorem read_takes (c : Char) (rest : List Char) :
    ∃ tail text, rest = tail ++ text ∧ (read c rest).2 = tail.length ∧
      Takes c tail text (read c rest).1 := by
  simp only [read]
  split
  · rename_i blank
    exact ⟨[], rest, rfl, rfl, Or.inl ⟨rfl, blank⟩⟩
  split
  · rename_i line
    obtain ⟨rfl, head⟩ := line
    exact takes_line head
  split
  · rename_i block
    obtain ⟨rfl, head⟩ := block
    exact takes_block head
  split
  · rename_i digit
    obtain ⟨text, whole, number, longest⟩ := numberTail_cut digit rest
    exact ⟨numberTail rest, text, whole, rfl, .number number longest⟩
  rename_i digit
  split
  · rename_i opens
    obtain ⟨source, text, whole, taken, quoted⟩ := quotedTail_cut opens rest
    exact ⟨source, text, whole, taken, .string quoted⟩
  -- what is neither a number nor a string is a word, a symbol or thrown away
  rename_i quote
  split
  · rename_i start
    exact takes_word start rest
  · rename_i word
    exact takes_symbol (by simpa using digit) quote (by simpa using word) rest

end Piece

end Parlance
