import Parlance.Decimal.Numeral
import Parlance.Token.Scan

/-!
Numbers among the tokens of a text. Whatever a text is cut into, the lexeme of a number is a
numeral, so its value can always be read.
-/

namespace Parlance

namespace Decimal

def digitValue (c : Char) : Nat := (Unicode.digitValue? c).getD 0

theorem digitRun_append {digits rest : List Char} (all : ∀ c ∈ digits, Unicode.isDigit c = true)
    (stops : ∀ c ∈ rest.head?, Unicode.isDigit c = false) :
    digitRun (digits ++ rest) = (digits.map digitValue, rest) := by
  induction digits with
  | nil =>
      cases rest with
      | nil => rfl
      | cons c rest =>
          have other : Unicode.digitValue? c = none := by
            simpa [Unicode.isDigit] using stops c rfl
          simp [digitRun, other]
  | cons c digits ih =>
      obtain ⟨value, found⟩ := Option.isSome_iff_exists.mp (all c List.mem_cons_self)
      have later := ih fun d member => all d (List.mem_cons_of_mem c member)
      simp [digitRun, found, later, digitValue]

theorem digitRun_nil {digits : List Char} (all : ∀ c ∈ digits, Unicode.isDigit c = true) :
    digitRun digits = (digits.map digitValue, []) := by
  have stops : ∀ c ∈ ([] : List Char).head?, Unicode.isDigit c = false := fun c none => nomatch none
  simpa using digitRun_append all stops

theorem signed_digit {c : Char} (digit : Unicode.isDigit c = true) (text : List Char) :
    signed (c :: text) = (false, c :: text) := by
  have minus : c ≠ '-' := by
    rintro rfl
    exact absurd digit (by decide)
  have plus : c ≠ '+' := by
    rintro rfl
    exact absurd digit (by decide)
  simp [signed, minus, plus]

theorem numeral?_whole {c : Char} {whole : List Char} (first : Unicode.isDigit c = true)
    (all : ∀ d ∈ whole, Unicode.isDigit d = true) :
    numeral? (c :: whole) = some (false, ⟨ofDigits ((c :: whole).map digitValue), 0⟩) := by
  have run := digitRun_nil (List.forall_mem_cons.mpr ⟨first, all⟩)
  simp [numeral?, signed_digit first, run, pointRun, exponentOf?]

theorem numeral?_fraction {c : Char} {whole fraction : List Char}
    (first : Unicode.isDigit c = true) (all : ∀ d ∈ whole, Unicode.isDigit d = true)
    (decimals : ∀ d ∈ fraction, Unicode.isDigit d = true) :
    numeral? (c :: (whole ++ '.' :: fraction)) =
      some (false, ⟨ofDigits ((c :: whole ++ fraction).map digitValue), -fraction.length⟩) := by
  have point : ∀ d ∈ ('.' :: fraction).head?, Unicode.isDigit d = false := by
    intro d head
    obtain rfl := Option.some.inj head
    decide
  have run := digitRun_append (List.forall_mem_cons.mpr ⟨first, all⟩) point
  have part := digitRun_nil decimals
  rw [List.cons_append] at run
  simp [numeral?, signed_digit first, run, pointRun, part, exponentOf?]

end Decimal

namespace Piece

theorem digitValue?_of_isDigit {c : Char} (digit : c.isDigit = true) :
    Unicode.digitValue? c = some (c.toNat - 48) := by
  have bounds : 48 ≤ c.toNat ∧ c.toNat ≤ 57 := by
    simpa [Char.isDigit, UInt32.le_iff_toNat_le] using digit
  have first : ([0x30] ++ Unicode.zeros.tail).find?
      (fun first => decide (first ≤ c.toNat) && decide (c.toNat < first + 10)) = some 0x30 := by
    rw [List.find?_append, List.find?_cons_of_pos]
    · rfl
    · simp only [Bool.and_eq_true, decide_eq_true_eq]
      omega
  have zeros : Unicode.zeros = [0x30] ++ Unicode.zeros.tail := rfl
  rw [← zeros] at first
  simp [Unicode.digitValue?, first]

theorem isDigit_of_isDigit {c : Char} (digit : c.isDigit = true) : Unicode.isDigit c = true := by
  simp [Unicode.isDigit, digitValue?_of_isDigit digit]

theorem numeral_numberTail {c : Char} (digit : c.isDigit = true) (rest : List Char) :
    (Decimal.numeral? (c :: numberTail rest)).isSome = true := by
  have first := isDigit_of_isDigit digit
  have whole : ∀ d ∈ rest.takeWhile Unicode.isDigit, Unicode.isDigit d = true :=
    List.all_eq_true.mp (List.all_takeWhile)
  have wholly := Decimal.numeral?_whole first whole
  simp only [numberTail]
  split
  · rename_i tail _
    have part : ∀ d ∈ tail.takeWhile Unicode.isDigit, Unicode.isDigit d = true :=
      List.all_eq_true.mp (List.all_takeWhile)
    split
    · rw [wholly, Option.isSome_some]
    · rw [Decimal.numeral?_fraction first whole part, Option.isSome_some]
  · rw [wholly, Option.isSome_some]

theorem wordKind_ne_number (word : String) : wordKind word ≠ .number := by
  simp only [wordKind]
  split <;> simp

theorem symbol_ne_number (c : Char) (rest : List Char) (lexeme : String) (length : Nat) :
    symbol c rest ≠ (.token .number lexeme, length) := by
  simp only [symbol]
  repeat' split
  all_goals simp

theorem numeral_of_read {c : Char} {rest : List Char} {lexeme : String} {length : Nat}
    (found : read c rest = (.token .number lexeme, length)) :
    (Decimal.numeralValue? lexeme.toList).isSome = true := by
  simp only [read] at found
  split at found
  · simp at found
  · split at found
    · simp at found
    · split at found
      · simp at found
      · split at found
        · rename_i digit
          simp only [Prod.mk.injEq, Piece.token.injEq, true_and] at found
          rw [← found.1, String.toList_ofList]
          simpa [Decimal.numeralValue?] using numeral_numberTail digit rest
        · split at found
          · simp at found
          · split at found
            · simp only [Prod.mk.injEq, Piece.token.injEq] at found
              exact absurd found.1.1 (wordKind_ne_number _)
            · exact absurd found (symbol_ne_number c rest lexeme length)

end Piece

theorem Mark.numeral_of_scanFrom (text : List Char) (skip offset : Nat) (place : Place) :
    ∀ token, Mark.token token ∈ scanFrom skip offset place text → token.kind = .number →
      (Decimal.numeralValue? token.lexeme.toList).isSome = true := by
  induction text generalizing skip offset place with
  | nil =>
      intro token member number
      simp only [scanFrom, List.mem_singleton, Mark.token.injEq] at member
      simp [member, Token.finishAt] at number
  | cons c rest ih =>
      intro token member number
      cases skip with
      | succ skip => exact ih skip _ _ token member number
      | zero =>
          simp only [scanFrom] at member
          split at member
          · exact ih _ _ _ token member number
          · rename_i kind lexeme length found
            rcases List.mem_cons.mp member with here | later
            · obtain rfl := Mark.token.inj here
              obtain rfl : kind = .number := number
              exact Piece.numeral_of_read found
            · exact ih _ _ _ token later number
          · rename_i length found
            rcases List.mem_cons.mp member with here | later
            · cases here
            · exact ih _ _ _ token later number

/-- The lexeme of a number is a numeral. -/
theorem Token.numeral_of_scan (text : String) {token : Token} (member : token ∈ scan text)
    (number : token.kind = .number) :
    (Decimal.numeralValue? token.lexeme.toList).isSome = true := by
  obtain ⟨mark, found, same⟩ := List.mem_filterMap.mp member
  cases mark with
  | junk c place => cases same
  | token other =>
      obtain rfl := Option.some.inj same
      exact Mark.numeral_of_scanFrom text.toList 0 0 .start other found number

end Parlance
