import Mathlib.Tactic.ByContra
import Parlance.Proofs.Token.Tiling
import Parlance.Text.Lines

/-!
The rows of a text, as places count them: only a line feed begins a new one. A carriage return right
before a line feed belongs to the end of its row; among the rows by number, one that ends the text
does too. Where nothing else ends a line the rows are the lines, up to the empty row behind the last
line feed; and those up to some number are exactly if no other end of a line breaks one of them.
-/

namespace Parlance.Text

/-- The rows of a text, the characters read of the first one being `row`, the last in front. -/
def rowsFrom (row : List Char) : List Char → List (List Char)
  | [] => [row.reverse]
  | '\r' :: '\n' :: rest => row.reverse :: rowsFrom [] rest
  | c :: rest => if c = '\n' then row.reverse :: rowsFrom [] rest else rowsFrom (c :: row) rest

def rows (text : String) : List String := (rowsFrom [] text.toList).map String.ofList

/-- Every line of a text ends at a line feed, perhaps behind a carriage return, or at its end. -/
def feedsOnly : List Char → Bool
  | [] => true
  | '\r' :: '\n' :: rest => feedsOnly rest
  | c :: rest => (decide (c = '\n') || !isLineBreak c) && feedsOnly rest

theorem rowsFrom_lines (row : List Char) {chars : List Char} (feeds : feedsOnly chars = true) :
    rowsFrom row chars = linesFrom row chars ∨
      rowsFrom row chars = linesFrom row chars ++ [[]] := by
  -- by the way that lines are cut off, of which only that at a line feed is left
  fun_induction linesFrom row chars with
  | case1 row empty =>
      obtain rfl := List.isEmpty_iff.mp empty
      exact Or.inr rfl
  | case2 row filled => exact Or.inl rfl
  | case3 row rest ih =>
      have later := ih (by simpa [feedsOnly] using feeds)
      simpa [rowsFrom] using later
  | case4 row c rest unpaired breaks ih =>
      rw [feedsOnly] at feeds
      · simp only [breaks, Bool.not_true, Bool.or_false, Bool.and_eq_true, decide_eq_true_eq]
          at feeds
        rw [rowsFrom, if_pos feeds.1]
        · simpa using ih feeds.2
        · exact unpaired
      · exact unpaired
  | case5 row c rest unpaired breaks ih =>
      have other : c ≠ '\n' := by
        rintro rfl
        exact breaks rfl
      rw [feedsOnly] at feeds
      · rw [rowsFrom, if_neg other]
        · exact ih (Bool.and_eq_true_iff.mp feeds).2
        · exact unpaired
      · exact unpaired

/-- Where only line feeds end lines, what a line of some number shows is the row of that number. No
line is there for the empty row behind the last line feed. -/
theorem line_eq_row {text : String} (feeds : feedsOnly text.toList = true) (index : Nat) :
    (lines text)[index]?.getD "" = (rows text)[index]?.getD "" := by
  have same : rows text = lines text ∨ rows text = lines text ++ [""] := by
    rcases rowsFrom_lines [] feeds with same | same
    · exact Or.inl (by simp [rows, lines, same])
    · exact Or.inr (by simp [rows, lines, same])
  rcases same with same | same
  · rw [same]
  · -- the row behind the last line feed is empty, and no line is there to show
    rw [same]
    rcases Nat.lt_or_ge index (lines text).length with within | beyond
    · rw [List.getElem?_append_left within]
    · rw [List.getElem?_eq_none beyond, List.getElem?_append_right beyond]
      rcases Nat.lt_or_ge (index - (lines text).length) 1 with last | past
      · rw [Nat.lt_one_iff.mp last]
        rfl
      · rw [List.getElem?_eq_none past]

/-! ### Rows by number -/

def feedRow : Nat → List Char → List Char
  | _, [] => []
  | 0, c :: rest => if c = '\n' then [] else c :: feedRow 0 rest
  | line + 1, c :: rest => if c = '\n' then feedRow line rest else feedRow (line + 1) rest

/-- Characters without a carriage return that is the last of them. -/
def withoutReturn (chars : List Char) : List Char :=
  if chars.getLast? = some '\r' then chars.dropLast else chars

def rowAt (text : List Char) : Nat → List Char
  | 0 => []
  | line + 1 => withoutReturn (feedRow line text)

def lineAt (text : List Char) : Nat → List Char
  | 0 => []
  | line + 1 => (linesFrom [] text)[line]?.getD []

def Unbroken (chars : List Char) : Prop := ∀ c ∈ chars, isLineBreak c = false

section

variable {chars : List Char} {c : Char}

theorem withoutReturn_concat (chars : List Char) : withoutReturn (chars ++ ['\r']) = chars := by
  simp [withoutReturn]

theorem withoutReturn_of_unbroken (unbroken : Unbroken chars) : withoutReturn chars = chars := by
  refine if_neg fun last => ?_
  have breaks := unbroken '\r' (List.mem_of_getLast? last)
  exact absurd breaks (by decide)

theorem mem_withoutReturn {front back : List Char} (stays : back = [] → c ≠ '\r') :
    c ∈ withoutReturn (front ++ c :: back) := by
  unfold withoutReturn
  split
  · rename_i last
    cases back with
    | nil => simp [stays rfl] at last
    | cons d back => simp [List.dropLast_append_of_ne_nil]
  · simp

theorem getElem?_withoutReturn {front back : List Char} (other : c ≠ '\r') :
    (withoutReturn (front ++ c :: back))[front.length]? = some c := by
  unfold withoutReturn
  split
  · rename_i last
    cases back with
    | nil => simp [other] at last
    | cons d back => simp [List.dropLast_append_of_ne_nil]
  · simp

end

/-! ### Lines that are rows -/

/-- Lines have no ends in them. -/
theorem unbroken_of_mem_linesFrom {line : List Char} (unbroken : Unbroken line) (text : List Char) :
    ∀ found ∈ linesFrom line text, Unbroken found := by
  have turned {line : List Char} (unbroken : Unbroken line) : Unbroken line.reverse :=
    fun c member => unbroken c (List.mem_reverse.mp member)
  fun_induction linesFrom line text with
  | case1 line empty => nofun
  | case2 line filled => exact List.forall_mem_singleton.mpr (turned unbroken)
  | case3 line rest ih =>
      exact List.forall_mem_cons.mpr ⟨turned unbroken, ih (List.forall_mem_nil _)⟩
  | case4 line c rest unpaired breaks ih =>
      exact List.forall_mem_cons.mpr ⟨turned unbroken, ih (List.forall_mem_nil _)⟩
  | case5 line c rest unpaired whole ih =>
      exact ih (List.forall_mem_cons.mpr ⟨Bool.not_eq_true _ ▸ whole, unbroken⟩)

/-- The row of a number, counted from zero, where some characters of the first were read before, the
last in front. -/
def rowFrom (line : List Char) (text : List Char) : Nat → List Char
  | 0 => withoutReturn (line.reverse ++ feedRow 0 text)
  | number + 1 => withoutReturn (feedRow (number + 1) text)

theorem rowFrom_nil (text : List Char) (number : Nat) :
    rowFrom [] text number = rowAt text (number + 1) := by
  cases number <;> rfl

theorem rowFrom_feed (line rest : List Char) (number : Nat) :
    rowFrom line ('\n' :: rest) (number + 1) = rowFrom [] rest number := by
  rw [rowFrom_nil]
  rfl

theorem rowFrom_cons {c : Char} (other : c ≠ '\n') (line rest : List Char) (number : Nat) :
    rowFrom line (c :: rest) number = rowFrom (c :: line) rest number := by
  cases number with
  | zero => simp [rowFrom, feedRow, other]
  | succ number => simp [rowFrom, feedRow, other]

/-- Rows that are not broken are the lines. -/
theorem linesFrom_eq_rowFrom {line : List Char} (unbroken : Unbroken line) {text : List Char}
    {last : Nat} (rows : ∀ number ≤ last, Unbroken (rowFrom line text number)) :
    (linesFrom line text)[last]?.getD [] = rowFrom line text last := by
  have turned {line : List Char} (unbroken : Unbroken line) : Unbroken line.reverse :=
    fun c member => unbroken c (List.mem_reverse.mp member)
  -- by the way that lines are cut off, for as long as the first row is not broken
  fun_induction linesFrom line text generalizing last with
  | case1 line empty =>
      obtain rfl := List.isEmpty_iff.mp empty
      cases last <;> rfl
  | case2 line filled =>
      cases last with
      | zero => simp [rowFrom, feedRow, withoutReturn_of_unbroken (turned unbroken)]
      | succ last => rfl
  | case3 line rest ih =>
      have first : rowFrom line ('\r' :: '\n' :: rest) 0 = line.reverse := withoutReturn_concat _
      cases last with
      | zero => simp [first]
      | succ last =>
          have later (number : Nat) : rowFrom line ('\r' :: '\n' :: rest) (number + 1) =
              rowFrom [] rest number := by
            rw [rowFrom_cons (by decide), rowFrom_feed]
          rw [later, List.getElem?_cons_succ]
          exact ih (List.forall_mem_nil _) fun number less =>
            later number ▸ rows (number + 1) (by omega)
  | case4 line c rest unpaired breaks ih =>
      by_cases feed : c = '\n'
      · subst feed
        cases last with
        | zero => simp [rowFrom, feedRow, withoutReturn_of_unbroken (turned unbroken)]
        | succ last =>
            rw [rowFrom_feed, List.getElem?_cons_succ]
            exact ih (List.forall_mem_nil _) fun number less =>
              rowFrom_feed line rest number ▸ rows (number + 1) (by omega)
      · -- the row goes on behind another end of a line, unless that is a carriage return at its end
        have first : Unbroken (withoutReturn (line.reverse ++ c :: feedRow 0 rest)) := by
          simpa [rowFrom, feedRow, feed] using rows 0 (Nat.zero_le _)
        have ends : feedRow 0 rest = [] ∧ c = '\r' := by
          by_contra stays
          have within := first c (mem_withoutReturn fun none same => stays ⟨none, same⟩)
          rw [breaks] at within
          cases within
        obtain ⟨none, rfl⟩ := ends
        cases rest with
        | nil =>
            cases last with
            | zero => exact (withoutReturn_concat _).symm
            | succ last => rfl
        | cons d rest =>
            have paired : d = '\n' := by
              by_contra other
              simp [feedRow, other] at none
            exact (unpaired rest rfl (by rw [paired])).elim
  | case5 line c rest unpaired whole ih =>
      have other : c ≠ '\n' := by
        rintro rfl
        exact whole rfl
      rw [rowFrom_cons other]
      refine ih (List.forall_mem_cons.mpr ⟨Bool.not_eq_true _ ▸ whole, unbroken⟩) ?_
      exact fun number less => rowFrom_cons other line rest number ▸ rows number less

/-- A row is shown as the line of its number if neither it nor one before it is broken, and if all
are shown so then none is broken. -/
theorem lineAt_eq_rowAt_iff (text : List Char) (last : Nat) :
    (∀ number ≤ last, lineAt text number = rowAt text number) ↔
      ∀ number ≤ last, Unbroken (rowAt text number) := by
  constructor
  · intro same number less
    rw [← same number less]
    cases number with
    | zero => exact List.forall_mem_nil _
    | succ number =>
        simp only [lineAt]
        cases found : (linesFrom [] text)[number]? with
        | none => exact List.forall_mem_nil _
        | some line =>
            exact unbroken_of_mem_linesFrom (List.forall_mem_nil _) text line
              (List.mem_of_getElem? found)
  · intro unbroken number less
    cases number with
    | zero => rfl
    | succ number =>
        rw [← rowFrom_nil]
        refine linesFrom_eq_rowFrom (List.forall_mem_nil _) fun earlier below => ?_
        exact rowFrom_nil text earlier ▸ unbroken (earlier + 1) (by omega)

/-! ### Characters of rows -/

/-- A row begins behind its line feed. -/
theorem feedRow_append_feed (front rest : List Char) :
    feedRow (front.count '\n' + 1) (front ++ '\n' :: rest) = feedRow 0 rest := by
  induction front with
  | nil => rfl
  | cons d front ih => by_cases feed : d = '\n' <;> simpa [feedRow, feed] using ih

theorem feedRow_zero_append {front : List Char} (feedless : '\n' ∉ front) {c : Char}
    (other : c ≠ '\n') (back : List Char) :
    feedRow 0 (front ++ c :: back) = front ++ c :: feedRow 0 back := by
  induction front with
  | nil => simp [feedRow, other]
  | cons d front ih =>
      obtain ⟨feed, later⟩ := List.ne_and_not_mem_of_not_mem_cons feedless
      simp [feedRow, Ne.symm feed, ih later]

/-- Where a character stands, its row has it in its column. -/
theorem feedRow_behind {c : Char} (other : c ≠ '\n') (front back : List Char) :
    ∃ before after, feedRow (front.count '\n') (front ++ c :: back) = before ++ c :: after ∧
      before.length = (front.reverse.takeWhile (· ≠ '\n')).length := by
  let column := front.reverse.takeWhile (· ≠ '\n')
  let earlier := front.reverse.dropWhile (· ≠ '\n')
  have feedless : '\n' ∉ column.reverse := by
    intro member
    have kept : column.all (· ≠ '\n') = true := List.all_takeWhile
    simpa using List.all_eq_true.mp kept '\n' (List.mem_reverse.mp member)
  have split : front = earlier.reverse ++ column.reverse := by
    rw [← List.reverse_append, List.takeWhile_append_dropWhile, List.reverse_reverse]
  refine ⟨column.reverse, feedRow 0 back, ?_, List.length_reverse⟩
  have found : ∀ d ∈ earlier.head?, d = '\n' := by
    intro d head
    have stops := List.head?_dropWhile_not (· ≠ '\n') front.reverse
    rw [show (front.reverse.dropWhile (· ≠ '\n')).head? = some d from head] at stops
    simpa using stops
  rw [split, List.count_append, List.count_eq_zero.mpr feedless, Nat.add_zero]
  cases begins : earlier with
  | nil => exact feedRow_zero_append feedless other back
  | cons d rest =>
      obtain rfl := found d (by rw [begins]; rfl)
      rw [List.reverse_cons, List.append_assoc, List.append_assoc, List.singleton_append,
        List.count_append, List.count_singleton_self, feedRow_append_feed]
      exact feedRow_zero_append feedless other back

/-- The place behind the front of a text is that of its next character in the rows. -/
theorem rowAt_behind {text : List Char} {offset : Nat} {c : Char} (here : text[offset]? = some c)
    (feed : c ≠ '\n') (other : c ≠ '\r') :
    (rowAt text (Place.behind (text.take offset)).line)[
      (Place.behind (text.take offset)).column - 1]? = some c := by
  obtain ⟨less, rfl⟩ := List.getElem?_eq_some_iff.mp here
  have split : text = text.take offset ++ text[offset] :: text.drop (offset + 1) := by
    simp
  obtain ⟨before, after, row, column⟩ :=
    feedRow_behind feed (text.take offset) (text.drop (offset + 1))
  rw [← split] at row
  change (withoutReturn (feedRow _ text))[_]? = _
  rw [row, Place.behind, Nat.add_sub_cancel, ← column]
  exact getElem?_withoutReturn other

end Parlance.Text
