import Parlance.Proofs.Token.Lexeme

/-!
The tokens of a text tile it. A text is cut into blanks, comments, tokens and junk, one behind the
other and nothing in between; each token is the slice of the text between its offsets, and its place
counts the line feeds before it. Main statement: `Token.scan_accounts`.
-/

namespace Parlance

/-- The place behind a text: its line feeds are counted, and the characters behind the last. -/
def Place.behind (text : List Char) : Place :=
  ⟨text.count '\n' + 1, (text.reverse.takeWhile (· ≠ '\n')).length + 1⟩

theorem Place.behind_concat (text : List Char) (c : Char) :
    behind (text ++ [c]) = (behind text).after c := by
  by_cases feed : c = '\n'
  · simp [behind, after, feed]
  · simp [behind, after, feed]

theorem Place.behind_append (before slice : List Char) :
    behind (before ++ slice) = slice.foldl after (behind before) := by
  induction slice generalizing before with
  | nil => simp
  | cons c slice ih =>
      rw [List.foldl_cons, ← behind_concat, ← ih, List.append_assoc, List.singleton_append]

/-- A token is cut from a text: it takes the slice between its offsets and knows its place. -/
structure Token.CutFrom (text : List Char) (token : Token) : Prop where
  some : token.offset < token.stop
  cut : Lexeme.Cut token.kind (text.extract token.offset token.stop) token.lexeme
    (text.drop token.stop)
  place : token.place = .behind (text.take token.offset)

theorem Token.CutFrom.head {text : List Char} {token : Token} (cut : token.CutFrom text) :
    ∃ c, text[token.offset]? = Option.some c ∧ c ≠ '\n' ∧ c ≠ '\r' := by
  obtain ⟨c, more, slice, feed, other⟩ := cut.cut.head
  refine ⟨c, ?_, feed, other⟩
  have first : (text.extract token.offset token.stop)[0]? = Option.some c := by
    rw [slice]
    rfl
  simpa [List.extract_eq_take_drop, Nat.sub_pos_of_lt cut.some] using first

/-- An offset lies in a comment that stands clear of tokens. -/
structure Lexeme.InComment (text : List Char) (tokens : List Token) (offset start stop : Nat) :
    Prop where
  begins : start ≤ offset
  ends : offset < stop
  comment : IsComment (text.extract start stop) (text.drop stop)
  apart : ∀ token ∈ tokens, token.stop ≤ start ∨ stop ≤ token.offset

namespace Mark

open Lexeme

theorem scanFrom_skip (skipped text : List Char) (offset : Nat) (place : Place) :
    scanFrom skipped.length offset place (skipped ++ text) =
      scanFrom 0 (offset + skipped.length) (skipped.foldl Place.after place) text := by
  induction skipped generalizing offset place with
  | nil => rfl
  | cons c skipped ih =>
      simp only [List.length_cons, List.cons_append, scanFrom, ih, List.foldl_cons]
      congr 1
      omega

inductive Tile (before : List Char) : (slice text : List Char) → List Mark → Prop where
  | blank {c : Char} {text : List Char} : Unicode.isBlank c = true → Tile before [c] text []
  | comment {slice text : List Char} : IsComment slice text → Tile before slice text []
  | token {slice text : List Char} {kind : Token.Kind} {lexeme : String} :
      Cut kind slice lexeme text → Tile before slice text
        [.token ⟨kind, lexeme, before.length, .behind before, (before ++ slice).length⟩]
  | junk {c : Char} {text : List Char} : BeginsNone (c :: text) →
      Tile before [c] text [.junk c (.behind before)]

inductive Tiles : (before text : List Char) → List Mark → Prop where
  | finish (before : List Char) :
      Tiles before [] [.token (.finishAt before.length (.behind before) before.length)]
  | tile {before slice text : List Char} {mark marks : List Mark} :
      Tile before slice text mark → Tiles (before ++ slice) text marks →
        Tiles before (slice ++ text) (mark ++ marks)

theorem scanFrom_behind (before : List Char) (c : Char) (tail text : List Char) :
    scanFrom tail.length (before.length + 1) ((Place.behind before).after c) (tail ++ text) =
      scanFrom 0 (before ++ c :: tail).length (.behind (before ++ c :: tail)) text := by
  rw [scanFrom_skip, Place.behind_append, List.foldl_cons, List.length_append, List.length_cons]
  congr 1
  omega

/-- Scanning cuts a text into its pieces. -/
theorem tiles_scanFrom (before text : List Char) :
    Tiles before text (scanFrom 0 before.length (.behind before) text) := by
  -- every piece takes a character, so what is left gets shorter
  generalize bound : text.length = length
  induction length using Nat.strongRecOn generalizing before text with
  | ind length ih =>
      cases text with
      | nil => exact .finish before
      | cons c rest =>
          obtain ⟨tail, text, rfl, taken, takes⟩ := Piece.read_takes c rest
          have shorter : text.length < length := by
            simp only [List.length_cons, List.length_append] at bound
            omega
          have later := ih text.length shorter (before ++ c :: tail) text rfl
          rw [← scanFrom_behind] at later
          simp only [scanFrom]
          generalize read : Piece.read c (tail ++ text) = found at taken takes
          obtain ⟨piece, length⟩ := found
          obtain rfl := taken
          cases piece with
          | gap =>
              rcases takes with ⟨rfl, blank⟩ | comment
              · exact .tile (.blank blank) later
              · exact .tile (.comment comment) later
          | token kind lexeme =>
              have stop : before.length + 1 + tail.length = (before ++ c :: tail).length := by
                rw [List.length_append, List.length_cons]
                omega
              simp only [stop]
              exact .tile (.token takes) later
          | junk =>
              obtain ⟨rfl, none⟩ := takes
              exact .tile (.junk none) later

section

variable {before slice text whole : List Char} {mark marks : List Mark}

theorem Tile.cutFrom (tile : Tile before slice text mark) {token : Token}
    (member : token ∈ mark.filterMap token?) :
    token.offset = before.length ∧ token.stop = (before ++ slice).length ∧
      token.CutFrom (before ++ slice ++ text) := by
  cases tile with
  | blank | comment | junk => cases member
  | @token slice text kind lexeme cut =>
      obtain rfl := List.mem_singleton.mp member
      have some : 0 < slice.length := List.length_pos_iff.mpr cut.slice_ne_nil
      refine ⟨rfl, rfl, by simpa using some, ?_, ?_⟩
      · simpa [List.extract_eq_take_drop] using cut
      · simp

/-- Tokens begin behind what has been cut off before, and the last one closes the text. -/
theorem Tiles.tokens (tiles : Tiles before text marks) (same : whole = before ++ text) :
    ∃ tokens, marks.filterMap token? =
        tokens ++ [.finishAt whole.length (.behind whole) whole.length] ∧
      ∀ token ∈ tokens, before.length ≤ token.offset ∧ token.CutFrom whole := by
  induction tiles with
  | finish before =>
      rw [List.append_nil] at same
      exact ⟨[], by rw [same]; rfl, nofun⟩
  | @tile before slice text mark marks tile _ ih =>
      obtain ⟨tokens, found, cut⟩ := ih (by rw [same, List.append_assoc])
      refine ⟨mark.filterMap token? ++ tokens, by simp [found], fun token member => ?_⟩
      rcases List.mem_append.mp member with here | later
      · obtain ⟨offset, _, cut⟩ := tile.cutFrom here
        rw [List.append_assoc, ← same] at cut
        exact ⟨Nat.le_of_eq offset.symm, cut⟩
      · have behind := (cut token later).1
        rw [List.length_append] at behind
        exact ⟨by omega, (cut token later).2⟩

theorem Tiles.offset_le (tiles : Tiles before text marks) :
    ∀ token ∈ marks.filterMap token?, before.length ≤ token.offset := by
  intro token member
  obtain ⟨tokens, found, cut⟩ := tiles.tokens rfl
  rw [found] at member
  rcases List.mem_append.mp member with inner | last
  · exact (cut token inner).1
  · obtain rfl := List.mem_singleton.mp last
    simp [Token.finishAt]

theorem Tiles.ordered (tiles : Tiles before text marks) :
    (marks.filterMap token?).Pairwise fun token later => token.stop ≤ later.offset := by
  induction tiles with
  | finish before => exact List.pairwise_singleton _ _
  | @tile before slice text mark marks tile tiles ih =>
      rw [List.filterMap_append, List.pairwise_append]
      refine ⟨?_, ih, fun token here later behind => ?_⟩
      · cases tile with
        | blank | comment | junk => exact .nil
        | token => exact List.pairwise_singleton _ _
      · rw [(tile.cutFrom here).2.1]
        exact tiles.offset_le later behind

/-- A tile of one character has no other. -/
theorem only_here {c d : Char} {offset : Nat} (same : whole = before ++ ([d] ++ text))
    (behind : before.length ≤ offset) (ends : offset < (before ++ [d]).length)
    (here : whole[offset]? = some c) : offset = before.length ∧ d = c := by
  have only : offset = before.length := by
    rw [List.length_append, List.length_singleton] at ends
    omega
  subst only
  exact ⟨rfl, by simpa [same] using here⟩

/-- Every character lies in a token, or is white space, part of a comment or junk. -/
theorem Tiles.accounts (tiles : Tiles before text marks) (same : whole = before ++ text)
    {offset : Nat} {c : Char} (behind : before.length ≤ offset) (here : whole[offset]? = some c) :
    (∃ token ∈ marks.filterMap token?, token.offset ≤ offset ∧ offset < token.stop) ∨
      Unicode.isBlank c = true ∨
      (∃ start stop, before.length ≤ start ∧
        InComment whole (marks.filterMap token?) offset start stop) ∨
      (c, .behind (whole.take offset)) ∈ marks.filterMap junk? ∧
        BeginsNone (whole.drop offset) := by
  induction tiles with
  | finish before =>
      rw [same, List.append_nil, List.getElem?_eq_none behind] at here
      cases here
  | @tile before slice text mark marks tile tiles ih =>
      have same' : whole = before ++ slice ++ text := by rw [same, List.append_assoc]
      by_cases later : (before ++ slice).length ≤ offset
      · -- what lies behind the tile is accounted for there
        rcases ih same' later with
          ⟨token, member, covers⟩ | blank | ⟨start, stop, low, inside⟩ | junk
        · exact Or.inl ⟨token, by simp [member], covers⟩
        · exact Or.inr (Or.inl blank)
        · refine Or.inr (Or.inr (Or.inl ⟨start, stop, ?_, { inside with apart := ?_ }⟩))
          · rw [List.length_append] at low
            omega
          · intro token member
            rw [List.filterMap_append] at member
            rcases List.mem_append.mp member with first | other
            · rw [(tile.cutFrom first).2.1]
              exact Or.inl low
            · exact inside.apart token other
        · exact Or.inr (Or.inr (Or.inr ⟨by simp [junk.1], junk.2⟩))
      · have ends : offset < (before ++ slice).length := Nat.lt_of_not_le later
        cases tile with
        | token => exact Or.inl ⟨_, List.mem_cons_self, behind, ends⟩
        | blank blank =>
            obtain ⟨rfl, rfl⟩ := only_here same behind ends here
            exact Or.inr (Or.inl blank)
        | comment comment =>
            refine Or.inr (Or.inr (Or.inl ⟨before.length, (before ++ slice).length, Nat.le_refl _,
              behind, ends, ?_, fun token member => Or.inr ?_⟩))
            · simpa [same, List.extract_eq_take_drop] using comment
            · exact tiles.offset_le token member
        | junk none =>
            obtain ⟨rfl, rfl⟩ := only_here same behind ends here
            refine Or.inr (Or.inr (Or.inr ⟨?_, by simpa [same] using none⟩))
            simp [same, junk?]

end

end Mark

/-- Behind the tokens of a text, among which none closes, stands one that does. -/
theorem Token.scan_closed (source : String) :
    ∃ tokens finish, scan source = tokens ++ [finish] ∧ finish.kind = .finish ∧
      ∀ token ∈ tokens, token.kind ≠ .finish ∧ token.CutFrom source.toList := by
  obtain ⟨tokens, same, cut⟩ := (Mark.tiles_scanFrom [] source.toList).tokens rfl
  exact ⟨tokens, _, same, rfl, fun token here =>
    ⟨(cut token here).2.cut.kind_ne_finish, (cut token here).2⟩⟩

/-- A text is accounted for. Behind its tokens stands one that closes it; each of the others takes
the slice between its offsets, the longest of its sort, and knows its line and column; no two
overlap. A character outside of them is white space, part of a comment, or one dropped because no
token begins with it. -/
theorem Token.scan_accounts (source : String) :
    let text := source.toList
    ∃ tokens, scan source =
        tokens ++ [.finishAt text.length (.behind text) text.length] ∧
      (∀ token ∈ tokens, token.kind ≠ .finish ∧ token.CutFrom text) ∧
      (scan source).Pairwise (fun token later => token.stop ≤ later.offset) ∧
      ∀ offset c, text[offset]? = some c →
        (∃ token ∈ tokens, token.offset ≤ offset ∧ offset < token.stop) ∨
        Unicode.isBlank c = true ∨
        (∃ start stop, Lexeme.InComment text tokens offset start stop) ∨
        (c, .behind (text.take offset)) ∈ junk source ∧
          Lexeme.BeginsNone (text.drop offset) := by
  intro text
  have tiles : Mark.Tiles [] text (Mark.scan text) := Mark.tiles_scanFrom [] text
  obtain ⟨tokens, same, cut⟩ := tiles.tokens rfl
  refine ⟨tokens, same, fun token member => ?_, tiles.ordered, ?_⟩
  · have cutFrom := (cut token member).2
    exact ⟨cutFrom.cut.kind_ne_finish, cutFrom⟩
  intro offset c here
  have found : scan source = tokens ++ _ := same
  have members : ∀ token ∈ tokens, token ∈ scan source := fun token member => by
    rw [found]
    exact List.mem_append_left _ member
  rcases tiles.accounts rfl (Nat.zero_le offset) here with
    ⟨token, member, begins, ends⟩ | blank | ⟨start, stop, _, inside⟩ | none
  · -- the token at the end takes no text
    refine Or.inl ⟨token, ?_, begins, ends⟩
    rw [same] at member
    rcases List.mem_append.mp member with inner | last
    · exact inner
    · obtain rfl := List.mem_singleton.mp last
      exact absurd ends (Nat.not_lt.mpr begins)
  · exact Or.inr (Or.inl blank)
  · refine Or.inr (Or.inr (Or.inl ⟨start, stop, { inside with apart := ?_ }⟩))
    exact fun token member => inside.apart token (members token member)
  · exact Or.inr (Or.inr (Or.inr none))

end Parlance
