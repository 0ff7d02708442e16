import Parlance.Module.Registry
import Parlance.Proofs.Token.Lexeme

/-!
Words. Their characters are letters and digits of ASCII and the low line, so there are no blanks to
be taken off a word, and what is in lower case stays as it is. No symbol spells a type or a number.
-/

namespace Parlance

namespace Piece

theorem apart_of_bounds {c : Char} (low : 48 ≤ c.toNat) (high : c.toNat ≤ 122) :
    Unicode.isBlank c = false ∧ c ≠ '/' ∧ c ≠ '"' ∧ c ≠ '\'' := by
  have other : ∀ d : Char, d.toNat < 48 → c ≠ d := by
    rintro d below rfl
    omega
  refine ⟨?_, other _ (by decide), other _ (by decide), other _ (by decide)⟩
  simp [Unicode.isBlank, Unicode.inRanges, Unicode.blankRanges, Unicode.Range.holds]
  omega

theorem bounds_of_isWordStart {c : Char} (start : isWordStart c = true) :
    65 ≤ c.toNat ∧ c.toNat ≤ 122 := by
  have letter : (decide (c.val ≥ 'A'.val ∧ c.val ≤ 'Z'.val) ||
      (decide (c.val ≥ 'a'.val) && decide (c.val ≤ 'z'.val)) || decide (c = '_')) = true := start
  simp only [Bool.or_eq_true, Bool.and_eq_true, decide_eq_true_eq] at letter
  rcases letter with (⟨above, below⟩ | ⟨above, below⟩) | rfl
  · have low : 65 ≤ c.toNat := UInt32.le_iff_toNat_le.mp above
    have high : c.toNat ≤ 90 := UInt32.le_iff_toNat_le.mp below
    omega
  · have low : 97 ≤ c.toNat := UInt32.le_iff_toNat_le.mp above
    have high : c.toNat ≤ 122 := UInt32.le_iff_toNat_le.mp below
    omega
  · decide

theorem bounds_of_isDigit {c : Char} (digit : c.isDigit = true) : 48 ≤ c.toNat ∧ c.toNat ≤ 57 := by
  simpa [Char.isDigit, UInt32.le_iff_toNat_le] using digit

theorem bounds_of_isWordChar {c : Char} (inner : isWordChar c = true) :
    48 ≤ c.toNat ∧ c.toNat ≤ 122 := by
  simp only [isWordChar, Char.isAlphanum, Bool.or_eq_true] at inner
  rcases inner with (letter | digit) | underscore
  · have bounds := bounds_of_isWordStart (c := c) (by simp [isWordStart, letter])
    omega
  · have bounds := bounds_of_isDigit digit
    omega
  · have bounds := bounds_of_isWordStart (c := c) (by simp [isWordStart, underscore])
    omega

end Piece

namespace Unicode

theorem toLower_ascii {c : Char} (ascii : c.toNat < 128) :
    c.toLower.toNat < 128 ∧ c.toLower.toLower = c.toLower := by
  -- there are few enough of them to be looked at one by one
  have all : ∀ n < 128, (Char.ofNat n).toLower.toNat < 128 ∧
      (Char.ofNat n).toLower.toLower = (Char.ofNat n).toLower := by decide +kernel
  simpa only [Char.ofNat_toNat] using all c.toNat ascii

theorem lowerFrom_ascii (before : List Char) {text : List Char}
    (ascii : ∀ c ∈ text, c.toNat < 128) :
    lowerFrom before text = text.map Char.toLower := by
  induction text generalizing before with
  | nil => rfl
  | cons c rest ih =>
      obtain ⟨first, later⟩ := List.forall_mem_cons.mp ascii
      -- the one letter whose lower case depends on its place is not of ASCII
      have sigma : c ≠ 'Σ' := by
        rintro rfl
        exact absurd first (by decide)
      have alone : lowerChar c = [c.toLower] := if_pos first
      simp [lowerFrom, sigma, alone, ih (c :: before) later]

/-- A text of ASCII in lower case is in lower case. -/
theorem lower_lower {text : List Char} (ascii : ∀ c ∈ text, c.toNat < 128) :
    lower (lower (String.ofList text)) = lower (String.ofList text) := by
  have once : ∀ c ∈ text.map Char.toLower, c.toNat < 128 := by
    intro c member
    obtain ⟨d, here, rfl⟩ := List.mem_map.mp member
    exact (toLower_ascii (ascii d here)).1
  have twice : (text.map Char.toLower).map Char.toLower = text.map Char.toLower := by
    rw [List.map_map]
    exact List.map_congr_left fun c here => (toLower_ascii (ascii c here)).2
  simp only [lower, String.toList_ofList, lowerFrom_ascii [] ascii, lowerFrom_ascii [] once, twice]

end Unicode

namespace Lexeme

theorem IsWord.bounds {word : List Char} (isWord : IsWord word) :
    ∀ c ∈ word, 48 ≤ c.toNat ∧ c.toNat ≤ 122 := by
  cases word with
  | nil => exact isWord.elim
  | cons first rest =>
      intro c member
      rcases List.mem_cons.mp member with rfl | inner
      · have bounds := Piece.bounds_of_isWordStart isWord.1
        omega
      · exact Piece.bounds_of_isWordChar (isWord.2 c inner)

theorem IsWord.solid {word : List Char} (isWord : IsWord word) : Unicode.Solid word :=
  fun c member =>
    (Piece.apart_of_bounds (isWord.bounds c member).1 (isWord.bounds c member).2).1

theorem IsWord.key {word : List Char} (isWord : IsWord word) :
    Registry.key (String.ofList word) = Unicode.lower (String.ofList word) := by
  rw [Registry.key, String.toList_ofList, isWord.solid.trim]

theorem IsSymbol.all {p : String → Bool}
    (single : "()\x7b\x7d[],;:.=+-*/%<>!".toList.all (fun c => p (String.ofList [c])) = true)
    (pair : ["==", "!=", "<=", ">=", "&&", "||"].all p = true) {symbol : List Char}
    (isSymbol : IsSymbol symbol) : p (String.ofList symbol) = true := by
  -- there are few enough symbols to be looked at one by one
  match symbol, isSymbol with
  | [c], alone => exact List.all_eq_true.mp single c (List.contains_iff_mem.mp alone)
  | [c, d], both =>
      simp only [IsSymbol, Piece.isPair] at both
      split at both
      case h_7 => cases both
      all_goals exact List.all_eq_true.mp pair _ (by decide)

theorem IsSymbol.no_type {symbol : List Char} (isSymbol : IsSymbol symbol) :
    Keyword.ofSpelling? (String.ofList symbol) ≠ some .typeWord :=
  bne_iff_ne.mp (isSymbol.all (p := fun spelling => Keyword.ofSpelling? spelling != some .typeWord)
    (by decide +kernel) (by decide +kernel))

theorem IsSymbol.no_number {symbol : List Char} (isSymbol : IsSymbol symbol) :
    numberWord? (String.ofList symbol) = none :=
  Option.isNone_iff_eq_none.mp (isSymbol.all (p := fun spelling => (numberWord? spelling).isNone)
    (by decide +kernel) (by decide +kernel))

end Lexeme

end Parlance
