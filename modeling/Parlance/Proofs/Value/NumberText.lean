import Mathlib
import Parlance.Proofs.Decimal.Layout
import Parlance.Proofs.Reading.Mention
import Parlance.Proofs.Token.Word
import Parlance.Proofs.Token.Writing
import Parlance.Value.Operation

/-!
Numbers as texts. A finite number is read back from the text it is shown as, and a text between
quotes stands for the number that it is read as without them, as long as there is one. Main
statements: `Value.number_read_back` and `Token.quoted_number`.
-/

namespace Parlance

/-! ### Numerals without blanks -/

namespace Unicode

theorem isBlank_of_isDigit {c : Char} (digit : isDigit c = true) : isBlank c = false := by
  have apart : ∀ first ∈ zeros, ∀ range ∈ blankRanges, range.2 < first ∨ first + 10 ≤ range.1 := by
    decide
  obtain ⟨value, found⟩ := Option.isSome_iff_exists.mp digit
  obtain ⟨first, known, -⟩ := Option.map_eq_some_iff.mp found
  have member := List.mem_of_find?_eq_some known
  have within := List.find?_some known
  simp only [Bool.and_eq_true, decide_eq_true_eq] at within
  refine List.any_eq_false.mpr fun range blank inside => ?_
  simp only [Range.holds, Bool.and_eq_true, decide_eq_true_eq] at inside
  have between := apart first member range blank
  omega

end Unicode

namespace Decimal

open Unicode

variable {text : List Char}

theorem solid_of_digitRun (behind : Solid (digitRun text).2) : Solid text := by
  induction text with
  | nil => exact behind
  | cons c rest ih =>
      rw [digitRun] at behind
      split at behind
      case h_1 value digit =>
        have digit : isDigit c = true := by rw [isDigit, digit, Option.isSome_some]
        exact List.forall_mem_cons.mpr ⟨isBlank_of_isDigit digit, ih behind⟩
      case h_2 => exact behind

theorem solid_of_signed (behind : Solid (signed text).2) : Solid text := by
  unfold signed at behind
  split at behind
  case h_3 => exact behind
  all_goals exact List.forall_mem_cons.mpr ⟨by decide, behind⟩

theorem solid_of_pointRun (behind : Solid (pointRun text).2) : Solid text := by
  unfold pointRun at behind
  split at behind
  case h_1 => exact List.forall_mem_cons.mpr ⟨by decide, solid_of_digitRun behind⟩
  case h_2 => exact behind

theorem solid_of_exponentOf? {exponent : Int} (found : exponentOf? text = some exponent) :
    Solid text := by
  cases text with
  | nil => exact List.forall_mem_nil _
  | cons mark rest =>
      simp only [exponentOf?] at found
      split at found
      case isFalse => cases found
      case isTrue marked =>
        have first : isBlank mark = false := by
          rcases marked with rfl | rfl <;> decide
        refine List.forall_mem_cons.mpr ⟨first, solid_of_signed (solid_of_digitRun ?_)⟩
        split at found
        case h_1 => cases found
        case h_2 run => exact run ▸ List.forall_mem_nil _
        case h_3 => cases found

theorem solid_of_numeral? {number : Bool × Scaled} (found : numeral? text = some number) :
    Solid text := by
  simp only [numeral?] at found
  split at found
  case isTrue => cases found
  case isFalse =>
    obtain ⟨exponent, behind, -⟩ := Option.map_eq_some_iff.mp found
    exact solid_of_signed (solid_of_digitRun (solid_of_pointRun (solid_of_exponentOf? behind)))

end Decimal

/-- A text that is a numeral stands for the number, unless this is too large. -/
theorem numberOfText_of_numeral {text : String} {x : Float}
    (found : Decimal.numeralValue? text.toList = some x) :
    numberOfText text = if x.isFinite then x else 0 := by
  obtain ⟨number, numeral, -⟩ := Option.map_eq_some_iff.mp found
  have same := (Decimal.solid_of_numeral? numeral).trim
  simp only [numberOfText, same, found]

/-- The digits of an integer are read as the number nearest to it. -/
theorem numeralValue?_integerText (n : Int) :
    Decimal.numeralValue? (integerText n).toList = some (Binary64.ofInt n) := by
  obtain ⟨read, found, same⟩ : ∃ read, Decimal.numeral? (Decimal.minus (decide (n < 0)) ++
      Decimal.digits n.natAbs) = some (decide (n < 0), read) ∧
        read.value = Decimal.Scaled.value ⟨n.natAbs, 0⟩ :=
    Decimal.numeral?_padded _ (Decimal.digits n.natAbs) [] [] 0 0 (by simp [Decimal.point])
      Nat.toDigits_ne_nil (by simp [Decimal.zeros]) rfl (fun c head => nomatch head) rfl
  have sign : (if n < 0 then ['-'] else []) = Decimal.minus (decide (n < 0)) := by
    simp [Decimal.minus]
  have whole : Decimal.Scaled.num ⟨n.natAbs, 0⟩ = n.natAbs := Nat.mul_one _
  rw [integerText, String.toList_ofList, sign, Decimal.numeralValue?, found, Option.map_some]
  dsimp only
  rw [Decimal.Scaled.toFloat_congr _ same, Decimal.Scaled.toFloat_eq, whole]
  rfl

theorem numberOfText_numberText {x : Float} (finite : x.isFinite = true) :
    numberOfText (numberText x) = if x == 0 then 0 else x := by
  rw [numberText]
  -- a whole number below ten to the sixteenth is shown as an integer, without the sign of zero
  split
  case isTrue whole =>
    rw [numberOfText_of_numeral (numeralValue?_integerText _), Binary64.ofInt_truncate whole.1]
    by_cases nought : (x == 0) = true
    · rw [if_pos nought]
      rfl
    · rw [if_neg nought, if_pos finite]
  case isFalse part =>
    have some : ¬ (x == 0) = true := by
      refine fun nought => part ⟨Binary64.isIntegral_of_zero nought, ?_⟩
      rw [(Binary64.units_eq_zero_iff x).mpr ((Binary64.beq_zero_iff x).mp nought)]
      exact Nat.mul_pos (Decimal.tenTo_pos 16) (Binary64.twoTo_pos 1074)
    rw [numberOfText_of_numeral (Decimal.numeralValue?_text finite), if_pos finite, if_neg some]

/-- A finite number that is shown and read again is the same, bit for bit unless it is zero, whose
sign is lost. -/
theorem Value.number_read_back {x : Float} (finite : x.isFinite = true) :
    (Value.text (Value.number x).toText).toNumber = (if x == 0 then 0 else x) ∧
      ((Value.text (Value.number x).toText).toNumber == x) = true := by
  have read : (Value.text (Value.number x).toText).toNumber = if x == 0 then 0 else x := by
    rw [Value.toText, Value.toNumber, numberOfText_numberText finite]
  refine ⟨read, ?_⟩
  rw [read]
  split
  case isTrue nought =>
    obtain ⟨some, zero, same⟩ := Float.beq_iff_ne_nan_and_eq.mp nought
    refine Float.beq_iff_ne_nan_and_eq.mpr ⟨zero, some, ?_⟩
    rcases same with rfl | ⟨rfl, _⟩ | ⟨rfl, _⟩
    · exact .inl rfl
    · exact .inl rfl
    · exact .inr (.inl ⟨rfl, rfl⟩)
  case isFalse =>
    refine Float.beq_self_iff.mpr fun none => ?_
    have number := (Binary64.of_finite finite).1
    rw [Float.isNaN_eq_decide_eq_nan, none] at number
    cases number

/-- With a fraction, on both sides of the change to an exponent, and the zero with a sign. -/
theorem Value.numbers_read_back :
    [2.5e-7, 9007199254740993.0, -1e16, -0.0].all Float.isFinite = true ∧
      ∀ x ∈ [2.5e-7, 9007199254740993.0, -1e16, -0.0],
        (Value.text (Value.number x).toText).toNumber = (if x == 0 then 0 else x) ∧
          (Value.text (Value.number x).toText).toNumber == x := by
  have finite : [2.5e-7, 9007199254740993.0, -1e16, -0.0].all Float.isFinite = true := by
    decide +kernel
  exact ⟨finite, fun x member => Value.number_read_back (List.all_eq_true.mp finite x member)⟩

/-- A fraction with an exponent, a whole number rounded to an even neighbour, and a power of ten on
either side of the change. -/
example : [2.5e-7, 9007199254740993.0, 1e15, -1e16].map numberText =
    ["2.5e-07", "9007199254740992", "1000000000000000", "-1e+16"] := by decide +kernel

/-! ### Words for numbers -/

theorem mem_of_numberWord? {word : String} {x : Float} (found : numberWord? word = some x) :
    (Unicode.lower word, x) ∈ numberWords := by
  obtain ⟨before, after, same, -⟩ := List.lookup_eq_some_iff.mp found
  rw [same]
  exact List.mem_append_right before List.mem_cons_self

theorem isFinite_of_numberWord? {word : String} {x : Float} (found : numberWord? word = some x) :
    x.isFinite = true := by
  have all : numberWords.all (fun entry => entry.2.isFinite) = true := by decide +kernel
  exact List.all_eq_true.mp all (Unicode.lower word, x) (mem_of_numberWord? found)

namespace Lexeme

theorem numeral?_word {letters : List Char} (isWord : IsWord letters) :
    Decimal.numeral? letters = none := by
  cases letters with
  | nil => exact isWord.elim
  | cons c rest =>
      have bounds := Piece.bounds_of_isWordStart isWord.1
      have apart : ∀ first ∈ Unicode.zeros, first + 10 ≤ 65 ∨ 122 < first := by decide
      have digit : Unicode.digitValue? c = none := by
        refine Option.map_eq_none_iff.mpr (List.find?_eq_none.mpr fun first member within => ?_)
        have away := apart first member
        simp only [Bool.and_eq_true, decide_eq_true_eq] at within
        omega
      have other : ∀ d : Char, d.toNat < 65 → c ≠ d := by
        rintro d below rfl
        omega
      have minus := other '-' (by decide)
      have plus := other '+' (by decide)
      have point := other '.' (by decide)
      simp [Decimal.numeral?, Decimal.signed, minus, plus, Decimal.digitRun, digit,
        Decimal.pointRun, point]

theorem numberOfText_word {letters : List Char} (isWord : IsWord letters) :
    numberOfText (String.ofList letters) = (numberWord? (String.ofList letters)).getD 0 := by
  simp [numberOfText, isWord.solid.trim, Decimal.numeralValue?, numeral?_word isWord]

theorem Cut.number_word {kind : Token.Kind} {slice rest : List Char} {lexeme : String}
    (cut : Cut kind slice lexeme rest) (noNumber : kind ≠ .number) (unquoted : kind ≠ .string)
    (known : (numberWord? lexeme).isSome = true) :
    kind = .identifier ∧ ∃ letters, IsWord letters ∧ lexeme = String.ofList letters := by
  cases cut with
  | number => exact absurd rfl noNumber
  | string => exact absurd rfl unquoted
  | word word =>
      have apart : ∀ entry ∈ numberWords, Keyword.isWordSpelling entry.1 = false := by
        decide +kernel
      obtain ⟨value, found⟩ := Option.isSome_iff_exists.mp known
      have free := apart _ (mem_of_numberWord? found)
      refine ⟨?_, slice, word, rfl⟩
      rw [Piece.wordKind, free]
      rfl
  | symbol symbol =>
      rw [symbol.no_number] at known
      cases known

end Lexeme

/-! ### Quoted numbers -/

/-- The operators that read their operands as numbers only. -/
def BinaryOp.readsNumbers : BinaryOp → Bool
  | .eq | .ne | .and | .or => false
  | _ => true

/-- Two values that arithmetic, order, counts and positions do not tell apart. -/
structure Value.CountsAs (value other : Value) : Prop where
  left : ∀ op : BinaryOp, op.readsNumbers = true →
    ∀ operand, op.apply value operand = op.apply other operand
  right : ∀ op : BinaryOp, op.readsNumbers = true →
    ∀ operand, op.apply operand value = op.apply operand other
  negated : UnaryOp.negate.apply value = UnaryOp.negate.apply other
  count : countOf value.toNumber = countOf other.toNumber
  position : positionOf value = positionOf other

theorem Value.CountsAs.of_toNumber {value other : Value} (same : value.toNumber = other.toNumber) :
    value.CountsAs other where
  left op reads operand := by
    cases op with
    | eq | ne | and | or => cases reads
    | _ => simp only [BinaryOp.apply, same]
  right op reads operand := by
    cases op with
    | eq | ne | and | or => cases reads
    | _ => simp only [BinaryOp.apply, same]
  negated := by simp only [UnaryOp.apply, same]
  count := by rw [same]
  position := by
    funext size
    simp only [positionOf, same]

theorem Decimal.numeral?_power (count : Nat) :
    numeral? ('1' :: zeros count) = some (false, ⟨10 ^ count, 0⟩) := by
  have power : ofDigits (('1' :: zeros count).map digitValue) = 1 * 10 ^ count :=
    ofDigits_padded 0 1 count
  rw [numeral?_whole (by decide) fun c member =>
    Piece.isDigit_of_isDigit (zeros_ascii count c member), power, one_mul]

theorem Decimal.bound_le_power {count : Nat} (large : 309 ≤ count) :
    Binary64.bound ≤ Scaled.value ⟨10 ^ count, 0⟩ := by
  rw [Scaled.value, zpow_zero, mul_one]
  exact Nat.cast_le.mpr ((Nat.sub_le _ _).trans (two_pow_1024_le large))

namespace Lexeme

variable {kind : Token.Kind} {slice rest : List Char} {lexeme : String}

theorem IsNumber.numeral? (isNumber : IsNumber slice) :
    ∃ magnitude, Decimal.numeral? slice = some (false, magnitude) := by
  cases isNumber with
  | whole digit all => exact ⟨_, Decimal.numeral?_whole (Piece.isDigit_of_isDigit digit) all⟩
  | fraction digit all decimals =>
      exact ⟨_, Decimal.numeral?_fraction (Piece.isDigit_of_isDigit digit) all decimals⟩

theorem Cut.numeral? (cut : Cut kind slice lexeme rest) (number : kind = .number) :
    ∃ magnitude, Decimal.numeral? lexeme.toList = some (false, magnitude) := by
  cases cut with
  | number isNumber => exact String.toList_ofList ▸ isNumber.numeral?
  | word => exact absurd number (Piece.wordKind_ne_number _)
  | symbol | string => cases number

end Lexeme

namespace Token

variable {source : String} {token : Token}

theorem cut_of_scan (member : token ∈ scan source) :
    (∃ slice rest, Lexeme.Cut token.kind slice token.lexeme rest) ∨
      token.kind = .finish ∧ token.lexeme = "" := by
  obtain ⟨tokens, same, cut, -⟩ := scan_accounts source
  rw [same] at member
  rcases List.mem_append.mp member with inner | last
  · exact .inl ⟨_, _, (cut token inner).2.cut⟩
  · rw [List.mem_singleton.mp last]
    exact .inr ⟨rfl, rfl⟩

theorem numeral?_of_scan (member : token ∈ scan source) (number : token.kind = .number) :
    ∃ magnitude, Decimal.numeral? token.lexeme.toList = some (false, magnitude) := by
  rcases cut_of_scan member with ⟨slice, rest, cut⟩ | ⟨finish, _⟩
  · exact cut.numeral? number
  · rw [number] at finish
    cases finish

/-- A word for a number is a name, and a text that stands for the number. -/
theorem number_word_of_scan (member : token ∈ scan source) (noNumber : token.kind ≠ .number)
    (unquoted : token.kind ≠ .string) {x : Float} (known : numberWord? token.lexeme = some x) :
    token.kind = .identifier ∧ numberOfText token.lexeme = x := by
  rcases cut_of_scan member with ⟨slice, rest, cut⟩ | ⟨_, empty⟩
  · obtain ⟨name, letters, isWord, same⟩ := cut.number_word noNumber unquoted (by simp [known])
    refine ⟨name, ?_⟩
    rw [same] at known ⊢
    rw [Lexeme.numberOfText_word isWord, known, Option.getD_some]
  · have none : numberWord? "" = none := by decide +kernel
    rw [empty, none] at known
    cases known

/-- A token that stands for a number: digits, or a word for a number in any letter case, unless it
is on the list of callable names. -/
def StandsForNumber (capabilities : Capabilities) (token : Token) : Prop :=
  token.kind = .number ∨ token.kind ≠ .string ∧ (numberWord? token.lexeme).isSome = true ∧
    capabilities.allowsImplicitCall token.lexeme = false

instance (capabilities : Capabilities) (token : Token) :
    Decidable (token.StandsForNumber capabilities) :=
  inferInstanceAs (Decidable (_ ∨ _))

section

open Grammar

variable {mode : Mode} (expression : Rule Expr) {cursor : Cursor}

/-- The literal of a lexeme of digits, and what the lexeme stands for between quotes. -/
theorem digits_read (member : token ∈ scan source) (number : token.kind = .number)
    (here : cursor.current = token) :
    ∃ magnitude, Decimal.numeral? token.lexeme.toList = some (false, magnitude) ∧
      primary expression mode cursor =
        .done (.literal (.number (magnitude.toFloat false)) token.place) cursor.advance [] ∧
      numberOfText token.lexeme =
        if (magnitude.toFloat false).isFinite then magnitude.toFloat false else 0 := by
  obtain ⟨magnitude, numeral⟩ := numeral?_of_scan member number
  have value : Decimal.numeralValue? token.lexeme.toList = some (magnitude.toFloat false) := by
    rw [Decimal.numeralValue?, numeral]
    rfl
  have opens : opening cursor.current = .literal (.number (magnitude.toFloat false)) := by
    rw [here, opening, number, numberValue, value, Option.getD_some]
  exact ⟨magnitude, numeral, here ▸ primary_literal expression mode opens,
    numberOfText_of_numeral value⟩

theorem number_word_read (member : token ∈ scan source) (noNumber : token.kind ≠ .number)
    (unquoted : token.kind ≠ .string) {x : Float} (known : numberWord? token.lexeme = some x)
    (unlisted : mode.capabilities.allowsImplicitCall token.lexeme = false)
    (here : cursor.current = token) :
    primary expression mode cursor =
        .done (.literal (.number x) token.place) cursor.advance [] ∧
      numberOfText token.lexeme = x := by
  obtain ⟨name, text⟩ := number_word_of_scan member noNumber unquoted known
  have opens : opening token = .name := by rw [opening, name]
  have quiet : cursor.advance.callsImplicitly mode.capabilities token = false := by
    rw [Cursor.callsImplicitly, unlisted, Bool.false_and, Bool.false_and]
  refine ⟨?_, text⟩
  simp [primary, Rule.here, opens, nameExpr, Rule.next, Rule.capabilities, here, quiet, known]

/-- A number without quotes is a literal. Between quotes it stands for the same number, and no
arithmetic, order, count or position tells the two apart, if the literal is finite. It is infinite
for digits alone, and only if these lie half a step past the greatest number, or further; then the
text stands for zero. -/
theorem quoted_number (member : token ∈ scan source)
    (stands : token.StandsForNumber mode.capabilities) (here : cursor.current = token) :
    ∃ x, primary expression mode cursor =
        .done (.literal (.number x) token.place) cursor.advance [] ∧
      (x.isFinite = true → (Value.text token.lexeme).toNumber = x ∧
        (Value.text token.lexeme).CountsAs (.number x)) ∧
      (x.isFinite = false → token.kind = .number ∧
        x = Binary64.ofBits false Binary64.infinityBits ∧ (Value.text token.lexeme).toNumber = 0 ∧
        ∃ magnitude, Decimal.numeral? token.lexeme.toList = some (false, magnitude) ∧
          Binary64.bound ≤ magnitude.value) := by
  -- digits may lie past the bound; the words for numbers are all small
  by_cases number : token.kind = .number
  · obtain ⟨magnitude, numeral, read, text⟩ := digits_read expression member number here
    refine ⟨_, read, fun finite => ?_, fun large => ?_⟩
    · rw [if_pos finite] at text
      exact ⟨text, .of_toNumber text⟩
    · have past : Binary64.bound ≤ magnitude.value := by
        rw [← not_lt, ← magnitude.toFloat_isFinite_iff false, large]
        exact Bool.false_ne_true
      rw [large] at text
      exact ⟨number, magnitude.toFloat_of_large false past, text, magnitude, numeral, past⟩
  · obtain ⟨unquoted, word, unlisted⟩ := stands.resolve_left number
    obtain ⟨x, known⟩ := Option.isSome_iff_exists.mp word
    obtain ⟨read, text⟩ :=
      number_word_read expression member number unquoted known unlisted here
    refine ⟨x, read, fun _ => ⟨text, .of_toNumber text⟩, fun large => ?_⟩
    rw [isFinite_of_numberWord? known] at large
    cases large

/-- A word in another letter case, and digits of two scripts. -/
theorem twelve_quoted :
    (scan "Twelve 1٢.5").map Token.kind = [.identifier, .number, .finish] ∧
      (∀ token ∈ (scan "Twelve 1٢.5").dropLast, token.StandsForNumber .standard) ∧
      ∀ token ∈ (scan "Twelve 1٢.5").dropLast, ∃ x,
        primary Grammar.expression ⟨false, .standard⟩ (.ofTokens [token]) =
          .done (.literal (.number x) token.place) (Cursor.ofTokens [token]).advance [] ∧
        (x.isFinite = true → (Value.text token.lexeme).toNumber = x) := by
  have stand : ∀ token ∈ (scan "Twelve 1٢.5").dropLast, token.StandsForNumber .standard := by
    decide +kernel
  refine ⟨by decide +kernel, stand, fun token member => ?_⟩
  obtain ⟨x, read, small, -⟩ : ∃ x,
      primary Grammar.expression ⟨false, .standard⟩ (.ofTokens [token]) = _ ∧ _ ∧ _ :=
    quoted_number _ (List.mem_of_mem_dropLast member) (stand token member) rfl
  exact ⟨x, read, fun finite => (small finite).1⟩

/-- One and three hundred and nine zeros, without quotes and between them. -/
theorem ten_to_309_quoted :
    let source := String.ofList ('1' :: Decimal.zeros 309)
    ∃ token ∈ scan source, token.kind = .number ∧ token.lexeme = source ∧
      ∃ x, primary Grammar.expression ⟨false, .standard⟩ (.ofTokens [token]) =
          .done (.literal (.number x) token.place) (Cursor.ofTokens [token]).advance [] ∧
        (Value.text token.lexeme).toNumber ≠ x := by
  intro source
  have isNumber : Lexeme.IsNumber ('1' :: Decimal.zeros 309) :=
    .whole rfl fun c member => Piece.isDigit_of_isDigit (Decimal.zeros_ascii 309 c member)
  obtain ⟨same, -⟩ := Writing.cutInto [.number _ isNumber]
  obtain ⟨token, member, found⟩ : ∃ token ∈ scan source, (token.kind, token.lexeme) =
      (.number, source) := List.mem_map.mp (same ▸ List.mem_cons_self)
  obtain ⟨number, lexeme⟩ := Prod.mk.inj found
  obtain ⟨magnitude, numeral, read, text⟩ : ∃ magnitude, _ ∧
      primary Grammar.expression ⟨false, .standard⟩ (.ofTokens [token]) = _ ∧ _ :=
    digits_read _ member number rfl
  have past : Binary64.bound ≤ magnitude.value := by
    rw [lexeme, String.toList_ofList, Decimal.numeral?_power] at numeral
    obtain rfl := (Prod.mk.inj (Option.some.inj numeral)).2
    exact Decimal.bound_le_power (Nat.le_refl 309)
  have infinite : (Binary64.ofBits false Binary64.infinityBits).isFinite = false := by decide
  rw [magnitude.toFloat_of_large false past] at read text
  rw [infinite] at text
  refine ⟨token, member, number, lexeme, _, read, fun same => ?_⟩
  rw [Value.toNumber, text] at same
  exact absurd same (by decide)

end

end Token

end Parlance
