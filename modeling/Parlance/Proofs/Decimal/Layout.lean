import Mathlib
import Parlance.Decimal.Layout
import Parlance.Proofs.Decimal.Reading
import Parlance.Proofs.Token.Number

/-!
Reading what was set out. In whatever layout the digits of a decimal are set out, they are read as
the rational it stands for; so the text of a finite number is read as that number. Main statements:
`Decimal.numeral?_magnitude` and `Decimal.numeralValue?_text`.
-/

namespace Parlance.Decimal

/-! ### Digits -/

theorem ofDigits_append (values more : List Nat) :
    ofDigits (values ++ more) = ofDigits values * 10 ^ more.length + ofDigits more := by
  induction more using List.reverseRecOn with
  | nil => simp [ofDigits]
  | append_singleton more value ih =>
      simp only [ofDigits, ← List.append_assoc, List.foldl_append, List.foldl_cons, List.foldl_nil,
        List.length_append, List.length_singleton] at ih ⊢
      rw [ih]
      ring

/-- Of the digits of ASCII the value is the usual one. -/
theorem ofDigits_map {text : List Char} (ascii : ∀ c ∈ text, c.isDigit = true) :
    ofDigits (text.map digitValue) = Nat.ofDigitChars 10 text 0 := by
  rw [ofDigits, List.foldl_map, Nat.ofDigitChars_eq_foldl]
  refine List.foldl_ext _ _ 0 fun n c member => ?_
  rw [digitValue, Piece.digitValue?_of_isDigit (ascii c member)]
  rfl

theorem digits_ascii (n : Nat) : ∀ c ∈ digits n, c.isDigit = true := fun _ member =>
  Nat.isDigit_of_mem_toDigits (by decide) (by decide) member

theorem ofDigits_digits (n : Nat) : ofDigits ((digits n).map digitValue) = n := by
  rw [ofDigits_map (digits_ascii n), digits, Nat.ofDigitChars_toDigits (by decide) (by decide)]

theorem zeros_ascii (count : Nat) : ∀ c ∈ zeros count, c.isDigit = true := by
  intro c member
  rw [List.eq_of_mem_replicate member]
  rfl

theorem ofDigits_zeros (count : Nat) : ofDigits ((zeros count).map digitValue) = 0 := by
  rw [ofDigits_map (zeros_ascii count), zeros, Nat.ofDigitChars_replicate_zero, Nat.mul_zero]

/-! ### Numerals -/

def minus (negative : Bool) : List Char := if negative then ['-'] else []

/-- A point and the digits behind it; without digits there is no point. -/
def point (part : List Char) : List Char := if part.isEmpty then [] else '.' :: part

theorem signed_minus (negative : Bool) {text : List Char}
    (first : ∀ c ∈ text.head?, Unicode.isDigit c = true) :
    signed (minus negative ++ text) = (negative, text) := by
  cases negative with
  | true => rfl
  | false =>
      cases text with
      | nil => rfl
      | cons c text => exact signed_digit (first c rfl) text

/-- A numeral that is set out: perhaps a minus, digits, perhaps a point and more digits, and perhaps
an exponent. -/
theorem numeral?_setOut (negative : Bool) {whole part tail : List Char} {exponent : Int}
    (some : whole ≠ []) (all : ∀ c ∈ whole ++ part, Unicode.isDigit c = true)
    (behind : exponentOf? tail = .some exponent)
    (stops : ∀ c ∈ tail.head?, Unicode.isDigit c = false ∧ c ≠ '.') :
    numeral? (minus negative ++ (whole ++ (point part ++ tail))) =
      .some (negative, ⟨ofDigits ((whole ++ part).map digitValue), exponent - part.length⟩) := by
  obtain ⟨allWhole, allPart⟩ := List.forall_mem_append.mp all
  have first : ∀ c ∈ (whole ++ (point part ++ tail)).head?, Unicode.isDigit c = true := by
    cases whole with
    | nil => exact absurd rfl some
    | cons c whole => exact fun d head => Option.some.inj head ▸ allWhole c List.mem_cons_self
  have pointed : Unicode.isDigit '.' = false := by decide
  simp only [numeral?, signed_minus negative first]
  -- without a fraction no point is written, and what follows may not be taken for one
  cases part with
  | nil =>
      have run := digitRun_append allWhole fun c head => (stops c head).1
      have none : pointRun tail = ([], tail) := by
        cases tail with
        | nil => rfl
        | cons c tail =>
            have other := (stops c rfl).2
            simp [pointRun, other]
      simp [point, run, none, some, behind]
  | cons d part =>
      have run : digitRun (whole ++ '.' :: (d :: part ++ tail)) = _ :=
        digitRun_append allWhole fun c head => Option.some.inj head ▸ pointed
      have later := digitRun_append allPart fun c head => (stops c head).1
      simp only [point, List.isEmpty_cons, Bool.false_eq_true, ↓reduceIte, List.cons_append,
        pointRun] at run later ⊢
      simp [run, later, some, behind]

theorem padded_isDigit (before n after : Nat) :
    ∀ c ∈ zeros before ++ digits n ++ zeros after, Unicode.isDigit c = true := by
  intro c member
  refine Piece.isDigit_of_isDigit ?_
  rcases List.mem_append.mp member with member | zero
  · exact (List.mem_append.mp member).elim (zeros_ascii before c) (digits_ascii n c)
  · exact zeros_ascii after c zero

/-- Zeros before a number change nothing, each zero behind it is a power of ten. -/
theorem ofDigits_padded (before n after : Nat) :
    ofDigits ((zeros before ++ digits n ++ zeros after).map digitValue) = n * 10 ^ after := by
  rw [List.map_append, List.map_append, ofDigits_append, ofDigits_append, ofDigits_zeros,
    ofDigits_zeros, ofDigits_digits, Nat.zero_mul, Nat.zero_add, Nat.add_zero, List.length_map,
    zeros, List.length_replicate]

/-- The exponent of any layout is read as what it is. -/
theorem exponentOf?_exponentText (layout : Layout) (exponent : Int) :
    exponentOf? (layout.exponentText exponent) = .some exponent := by
  simp only [Layout.exponentText]
  generalize layout.exponentDigits - (digits exponent.natAbs).length = count
  have all := padded_isDigit count exponent.natAbs 0
  have value := ofDigits_padded count exponent.natAbs 0
  have some : zeros count ++ digits exponent.natAbs ++ zeros 0 ≠ [] := by
    simp [digits, Nat.toDigits_ne_nil]
  have tail : zeros 0 = [] := rfl
  rw [tail, List.append_nil] at all value some
  rw [List.append_assoc, List.cons_append]
  generalize zeros count ++ digits exponent.natAbs = text at all value some
  obtain ⟨c, rest, rfl⟩ := List.exists_cons_of_ne_nil some
  have run := digitRun_nil all
  rw [List.map_cons] at run value
  -- a plus is read as no sign, and without a sign the first digit is not taken for one
  have sign : signed ((if exponent < 0 then ['-'] else if layout.plus then ['+'] else []) ++
      c :: rest) = (decide (exponent < 0), c :: rest) := by
    split
    case isTrue below => rw [decide_eq_true below]; rfl
    case isFalse above =>
      rw [decide_eq_false above]
      split
      case isTrue => rfl
      case isFalse => exact signed_digit (all c List.mem_cons_self) rest
  simp only [exponentOf?, true_or, ↓reduceIte, sign, run, value, decide_eq_true_eq]
  congr 1
  split <;> omega

theorem Scaled.value_trimmed (fuel : Nat) (number : Scaled) :
    (number.trimmed fuel).value = number.value := by
  -- the zeros that are dropped were of no weight
  induction fuel generalizing number with
  | zero => rfl
  | succ fuel ih =>
      rw [trimmed]
      split
      case isFalse => rfl
      case isTrue more =>
        have whole : number.coefficient = number.coefficient / 10 * 10 := by omega
        rw [ih, value, value, zpow_add_one₀ (by norm_num), mul_comm (10 ^ _), ← mul_assoc]
        conv_rhs => rw [whole]
        push_cast
        rfl

theorem Scaled.value_shift (coefficient : Nat) (exponent : Int) (shift : Nat) :
    value ⟨coefficient * 10 ^ shift, exponent - shift⟩ = value ⟨coefficient, exponent⟩ := by
  simp only [value]
  rw [zpow_sub₀ (by norm_num), zpow_natCast]
  push_cast
  field_simp

/-- Wherever the point stands, the digits of a number and zeros around them are read as it. -/
theorem numeral?_padded (negative : Bool) (whole part tail : List Char) {text : List Char}
    {exponent : Int} {number : Scaled} (before after : Nat)
    (out : text = whole ++ (point part ++ tail)) (some : whole ≠ [])
    (same : whole ++ part = zeros before ++ digits number.coefficient ++ zeros after)
    (behind : exponentOf? tail = .some exponent)
    (stops : ∀ c ∈ tail.head?, Unicode.isDigit c = false ∧ c ≠ '.')
    (shifted : exponent - part.length = number.exponent - after) :
    ∃ read, numeral? (minus negative ++ text) = .some (negative, read) ∧
      read.value = number.value := by
  have all := padded_isDigit before number.coefficient after
  refine ⟨_, out ▸ numeral?_setOut negative some (same ▸ all) behind stops, ?_⟩
  rw [same, ofDigits_padded, shifted, Scaled.value_shift]

theorem numeral?_magnitude (layout : Layout) (negative : Bool) (number : Scaled) :
    ∃ read, numeral? (minus negative ++ layout.magnitude number) = .some (negative, read) ∧
      read.value = number.value := by
  rw [← Scaled.value_trimmed 400 number, Layout.magnitude]
  generalize number.trimmed 400 = number
  obtain ⟨coefficient, exponent⟩ := number
  have none : ∀ c ∈ ([] : List Char).head?, Unicode.isDigit c = false ∧ c ≠ '.' :=
    fun c head => nomatch head
  have some : digits coefficient ≠ [] := Nat.toDigits_ne_nil
  have length : 0 < (digits coefficient).length := List.length_pos_iff.mpr some
  dsimp only
  obtain ⟨leading, place⟩ :
      ∃ leading, leading = exponent + ((digits coefficient).length : Int) - 1 := ⟨_, rfl⟩
  rw [← place]
  split
  case isTrue positional =>
    split
    case isTrue whole =>
      -- a whole number, with the zeros of its exponent, and with or without `.0`
      cases layout.pointZero with
      | true =>
          refine numeral?_padded negative (digits coefficient ++ zeros exponent.toNat) ['0'] []
            0 (exponent.toNat + 1) (by simp [point]) (by simp [some]) ?_ rfl none ?_
          · simp [zeros, List.replicate_succ']
          · simp; omega
      | false =>
          refine numeral?_padded negative (digits coefficient ++ zeros exponent.toNat) [] []
            0 exponent.toNat (by simp [point]) (by simp [some]) ?_ rfl none ?_
          · simp [zeros]
          · simp; omega
    case isFalse fraction =>
      split
      case isTrue large =>
        -- the point stands among the digits
        refine numeral?_padded negative ((digits coefficient).take (leading.toNat + 1))
          ((digits coefficient).drop (leading.toNat + 1)) [] 0 0 ?_ ?_ ?_ rfl none ?_
        · simp [List.splitAt_eq, point]; omega
        · simp [some]
        · simp [zeros]
        · simp; omega
      case isFalse small =>
        -- the point stands before the digits, and zeros between the two
        refine numeral?_padded negative ['0'] (zeros (-leading - 1).toNat ++ digits coefficient) []
          ((-leading - 1).toNat + 1) 0 ?_ ?_ ?_ rfl none ?_
        · simp [point, some]
        · simp
        · simp [zeros, List.replicate_succ]
        · simp [zeros]; omega
  case isFalse scientific =>
    -- one digit before the point, and the exponent is that of this digit
    refine numeral?_padded negative ((digits coefficient).take 1) ((digits coefficient).drop 1)
      (layout.exponentText leading) 0 0 ?_ ?_ ?_ (exponentOf?_exponentText layout leading) ?_ ?_
    · simp [List.splitAt_eq, point]
    · simp [some]
    · simp [zeros, -List.drop_one]
    · simp [Layout.exponentText]; decide
    · simp; omega

/-! ### Texts of numbers -/

theorem numeralValue?_of_near {x : Float} {text : List Char} {read number : Scaled}
    (finite : x.isFinite = true) (near : number.Near x)
    (found : numeral? text = some (Binary64.isNegative x, read))
    (same : read.value = number.value) : numeralValue? text = some x := by
  rw [numeralValue?, found, Option.map_some]
  dsimp only
  rw [Scaled.toFloat_congr _ same, Scaled.toFloat_of_near finite near]

/-- In any layout, the text of a finite number is read as it, if the digits that were chosen for it
are. -/
theorem Layout.numeralValue?_text (layout : Layout) (choose : Float → Scaled) {x : Float}
    (finite : x.isFinite = true) (near : 0 < Binary64.units x → (choose x).Near x) :
    numeralValue? (layout.text choose x).toList = some x := by
  obtain ⟨number, digits⟩ := Binary64.of_finite finite
  rw [Layout.text, number, digits]
  simp only [Bool.false_eq_true, ↓reduceIte, apply_ite String.toList, String.toList_ofList]
  rw [← minus]
  split
  case isTrue nought =>
    have exact : Scaled.Near x ⟨0, 0⟩ := Scaled.near_of_exact (by simp [nought, Scaled.num])
    obtain ⟨read, found, same⟩ : ∃ read, numeral? (minus (Binary64.isNegative x) ++
        '0' :: if layout.pointZero then ['.', '0'] else []) =
          some (Binary64.isNegative x, read) ∧ read.value = Scaled.value ⟨0, 0⟩ := by
      cases layout.pointZero with
      | true => exact numeral?_padded _ ['0'] ['0'] [] 0 1 rfl (by simp) rfl rfl (by simp) rfl
      | false => exact numeral?_padded _ ['0'] [] [] 0 0 rfl (by simp) rfl rfl (by simp) rfl
    exact numeralValue?_of_near finite exact found same
  case isFalse some =>
    obtain ⟨read, found, same⟩ := numeral?_magnitude layout (Binary64.isNegative x) (choose x)
    exact numeralValue?_of_near finite (near (Nat.pos_of_ne_zero some)) found same

/-- The text of a finite number is read as it, the sign of zero included. -/
theorem numeralValue?_text {x : Float} (finite : x.isFinite = true) :
    numeralValue? (text x).toList = some x :=
  standard.numeralValue?_text shortest finite near_shortest

end Parlance.Decimal
