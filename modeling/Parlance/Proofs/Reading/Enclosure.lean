import Mathlib.Order.Interval.Set.Basic
import Parlance.Proofs.Reading.Nesting

/-!
Blocks inside blocks. The body of every block is searched for its end anew, from its own first
token, and what a search counts depends on where it starts, since a brace behind a word that opens
belongs to the word. Still the searches agree: those for the blocks inside a block end inside of it,
and their extents nest. Main statement: `extents_nest`.
-/

namespace Parlance.Grammar

namespace Extent

/-! ### One search -/

section

variable {depth : Nat} {fused : Bool} {token : Token} {rest tokens : List Token}

@[simp] theorem prepend_body (front : List Token) (extent : Extent) :
    (extent.prepend front).body = front ++ extent.body := rfl

@[simp] theorem prepend_closer (front : List Token) (extent : Extent) :
    (extent.prepend front).closer = extent.closer := rfl

theorem prepend_prepend (front middle : List Token) (extent : Extent) :
    (extent.prepend middle).prepend front = extent.prepend (front ++ middle) := by
  simp only [prepend, List.append_assoc]

theorem scan_goes (within : (scan false depth fused (token :: rest)).body ≠ []) :
    ∃ depth', scan false depth fused (token :: rest) =
      (scan false depth' token.opensByWord rest).prepend [token] := by
  by_cases opens : token.keyword? = some .blockOpen
  · have word : token.opensByWord = decide (token.kind = .keyword) := by
      simp [Token.opensByWord, opens]
    simp only [scan, Token.ne_finish_of_keyword? opens, ↓reduceIte, opens, word]
    exact ⟨_, rfl⟩
  · have word : token.opensByWord = false := by simp [Token.opensByWord, opens]
    simp only [scan, word] at within ⊢
    split
    · rename_i finish
      simp [finish] at within
    · rename_i finish
      split
      · rename_i opens'
        exact absurd opens' opens
      · rename_i closes
        cases depth with
        | zero => simp [finish, closes] at within
        | succ depth => exact ⟨depth, rfl⟩
      · exact ⟨depth, rfl⟩
      · exact ⟨depth, rfl⟩
      · exact ⟨depth, rfl⟩

theorem scan_opens (opens : token.keyword? = some .blockOpen)
    (counts : (fused && token.isSymbol "\x7b") = false) (rest : List Token) :
    scan false depth fused (token :: rest) =
      (scan false (depth + 1) token.opensByWord rest).prepend [token] := by
  have word : token.opensByWord = decide (token.kind = .keyword) := by
    simp [Token.opensByWord, opens]
  simp only [scan, Token.ne_finish_of_keyword? opens, ↓reduceIte, opens, counts,
    Bool.false_eq_true, word]
  rfl

/-- A brace behind a word that opens counts for nothing. -/
theorem scan_fused (brace : token.isSymbol "\x7b" = true) (depth : Nat) (rest : List Token) :
    scan false depth true (token :: rest) = (scan false depth false rest).prepend [token] := by
  have symbol := brace
  simp only [Token.isSymbol, Bool.and_eq_true, decide_eq_true_eq] at symbol
  have opens : token.keyword? = some .blockOpen := by
    simp only [Token.keyword?, symbol.1, symbol.2]
    rfl
  simp [scan, opens, brace, symbol.1]
  rfl

/-- What stands in front of a token matters only to a brace that belongs to it. -/
theorem scan_unfused (unfused : (fused && token.isSymbol "\x7b") = false) (depth : Nat)
    (rest : List Token) :
    scan false depth fused (token :: rest) = scan false depth false (token :: rest) := by
  simp only [scan, unfused, Bool.false_and]

/-- Whether the token in front of a place is a word that opens; in front of all there is `fused`. -/
def wordBefore (fused : Bool) (tokens : List Token) : Nat → Bool
  | 0 => fused
  | place + 1 => tokens[place]?.any Token.opensByWord

theorem wordBefore_cons (fused : Bool) (token : Token) (tokens : List Token) (place : Nat) :
    wordBefore token.opensByWord tokens place = wordBefore fused (token :: tokens) (place + 1) := by
  cases place <;> rfl

/-- Up to its end a search comes to every place, with some number of blocks open. -/
theorem scan_reaches (place : Nat)
    (within : place ≤ (scan false depth fused tokens).body.length) :
    ∃ depth', scan false depth fused tokens =
      (scan false depth' (wordBefore fused tokens place) (tokens.drop place)).prepend
        (tokens.take place) := by
  induction place generalizing depth fused tokens with
  | zero => exact ⟨depth, rfl⟩
  | succ place ih =>
      cases tokens with
      | nil => cases within
      | cons token rest =>
          obtain ⟨depth', goes⟩ := scan_goes (List.ne_nil_of_length_pos (Nat.zero_lt_of_lt within))
          rw [goes, prepend_body, List.length_append, List.length_singleton, Nat.add_comm 1,
            Nat.add_le_add_iff_right] at within
          obtain ⟨last, further⟩ := ih within
          refine ⟨last, ?_⟩
          rw [goes, further, prepend_prepend, wordBefore_cons fused]
          rfl

/-- With more blocks open a search takes the closer in its stride that ends it with fewer, and where
it finds none with fewer it finds none with more. -/
theorem scan_deeper (more depth : Nat) (fused : Bool) (tokens : List Token) :
    (∃ body closer rest, scan false depth fused tokens = ⟨body, closer :: rest, .closed⟩ ∧
      scan false (depth + more + 1) fused tokens =
        (scan false more false rest).prepend (body ++ [closer])) ∨
    (scan false depth fused tokens).closer = .endOfInput ∧
      (scan false (depth + more + 1) fused tokens).closer = .endOfInput := by
  induction tokens generalizing depth fused with
  | nil => exact Or.inr ⟨rfl, rfl⟩
  | cons token tokens ih =>
      -- a token that ends neither search leaves both to the tokens behind it
      have goes : ∀ depth fused, (∃ body closer rest,
            (scan false depth fused tokens).cons token = ⟨body, closer :: rest, .closed⟩ ∧
            (scan false (depth + more + 1) fused tokens).cons token =
              (scan false more false rest).prepend (body ++ [closer])) ∨
          ((scan false depth fused tokens).cons token).closer = .endOfInput ∧
            ((scan false (depth + more + 1) fused tokens).cons token).closer = .endOfInput := by
        intro depth fused
        rcases ih depth fused with ⟨body, closer, rest, closed, deeper⟩ | unclosed
        · left
          refine ⟨token :: body, closer, rest, ?_, ?_⟩
          · rw [closed]
            rfl
          · rw [deeper]
            rfl
        · exact Or.inr unclosed
      simp only [scan, Bool.false_and, Bool.false_eq_true, ↓reduceIte]
      split
      · exact Or.inr ⟨rfl, rfl⟩
      · split
        · split
          · exact goes depth _
          · have one : depth + more + 1 + 1 = depth + 1 + more + 1 := by omega
            rw [one]
            exact goes (depth + 1) _
        · cases depth with
          | zero =>
              left
              refine ⟨[], token, tokens, rfl, ?_⟩
              simp only [Nat.zero_add]
              rfl
          | succ depth =>
              have one : depth + 1 + more = depth + more + 1 := by omega
              simp only [one]
              exact goes depth false
        · exact goes depth false
        · exact goes depth false
        · exact goes depth false

end

/-! ### Searches from the places of a list -/

/-- Where the search from a place finds the closer of the block whose body begins there. -/
def closerFrom? (tokens : List Token) (start : Nat) : Option Nat :=
  let extent := ofBody false (tokens.drop start)
  if extent.closer = .closed then some (start + extent.body.length) else none

def fusedAt (tokens : List Token) (place : Nat) : Bool :=
  wordBefore false tokens place && tokens[place]?.any (·.isSymbol "\x7b")

/-- The search from a place counts the token at another as an opener, if it comes there. A brace in
front of which it has seen nothing is counted in any case. -/
structure Counted (tokens : List Token) (start place : Nat) : Prop where
  behind : start ≤ place
  opens : ∃ token, tokens[place]? = some token ∧ token.keyword? = some .blockOpen
  unfused : start < place → fusedAt tokens place = false

def bodyFrom (tokens : List Token) (opener : Nat) : Nat :=
  if fusedAt tokens (opener + 1) then opener + 2 else opener + 1

def span (tokens : List Token) (opener : Nat) : Set Nat :=
  { place | opener ≤ place ∧ ∃ closer ∈ closerFrom? tokens (bodyFrom tokens opener),
    place ≤ closer }

variable {tokens : List Token} {start stop opener : Nat}

theorem closerFrom?_eq_some_iff : closerFrom? tokens start = some stop ↔
    (ofBody false (tokens.drop start)).closer = .closed ∧
      start + (ofBody false (tokens.drop start)).body.length = stop := by
  simp [closerFrom?]

theorem lt_bodyFrom (tokens : List Token) (opener : Nat) : opener < bodyFrom tokens opener := by
  unfold bodyFrom
  split <;> omega

theorem closes_of_closerFrom? (found : closerFrom? tokens start = some stop) :
    ∃ token, tokens[stop]? = some token ∧ token.keyword? = some .blockClose := by
  obtain ⟨closed, rfl⟩ := closerFrom?_eq_some_iff.mp found
  have ended := scan_ended false 0 false (tokens.drop start)
  have parts := scan_append false 0 false (tokens.drop start)
  simp only [ofBody] at closed ⊢
  simp only [Ended, closed] at ended
  obtain ⟨token, rest, ends, closes⟩ := ended
  refine ⟨token, ?_, closes⟩
  rw [← List.getElem?_drop]
  generalize (scan false 0 false (tokens.drop start)).body = body at parts
  rw [← parts, ends, List.getElem?_append_right le_rfl, Nat.sub_self, List.getElem?_cons_zero]

/-- Behind an opener its body is searched, past the brace that belongs to it. -/
theorem scan_opener {token : Token} (here : tokens[opener]? = some token) (depth : Nat) :
    ∃ brace, opener + 1 + brace.length = bodyFrom tokens opener ∧
      scan false depth token.opensByWord (tokens.drop (opener + 1)) =
        (scan false depth false (tokens.drop (bodyFrom tokens opener))).prepend brace := by
  have before : wordBefore false tokens (opener + 1) = token.opensByWord := by
    simp [wordBefore, here]
  cases next : tokens[opener + 1]? with
  | none =>
      have past : tokens.drop (opener + 1) = [] :=
        List.drop_eq_nil_of_le (List.getElem?_eq_none_iff.mp next)
      have unfused : fusedAt tokens (opener + 1) = false := by simp [fusedAt, next]
      refine ⟨[], by simp [bodyFrom, unfused], ?_⟩
      simp only [bodyFrom, unfused, Bool.false_eq_true, ↓reduceIte, past]
      rfl
  | some brace =>
      have inside : tokens.drop (opener + 1) = brace :: tokens.drop (opener + 2) :=
        List.drop_eq_getElem?_toList_append.trans (by rw [next]; rfl)
      have fused : fusedAt tokens (opener + 1) =
          (token.opensByWord && brace.isSymbol "\x7b") := by
        simp [fusedAt, before, next]
      rw [inside]
      by_cases belongs : (token.opensByWord && brace.isSymbol "\x7b") = true
      · refine ⟨[brace], by simp [bodyFrom, fused, belongs], ?_⟩
        obtain ⟨word, symbol⟩ := Bool.and_eq_true_iff.mp belongs
        rw [word, scan_fused symbol, bodyFrom, fused, if_pos belongs]
      · refine ⟨[], by simp [bodyFrom, fused, belongs], ?_⟩
        rw [scan_unfused (Bool.eq_false_iff.mpr belongs), bodyFrom, fused, if_neg belongs, inside]
        rfl

theorem wordBefore_drop (fused : Bool) (tokens : List Token) {place : Nat}
    (behind : start < place) :
    wordBefore fused (tokens.drop start) (place - start) = wordBefore fused tokens place := by
  obtain ⟨between, rfl⟩ := Nat.exists_eq_add_of_lt behind
  rw [Nat.add_assoc, Nat.add_sub_cancel_left, ← Nat.add_assoc]
  simp only [wordBefore, List.getElem?_drop]

/-- The search for the end of a block comes by every opener that it counts, and at the body of that
one more block is open. -/
theorem scan_by_opener (found : closerFrom? tokens start = some stop)
    (counted : Counted tokens start opener) (before : opener < stop) :
    ∃ depth front, start + front.length = bodyFrom tokens opener ∧
      ofBody false (tokens.drop start) =
        (scan false (depth + 1) false (tokens.drop (bodyFrom tokens opener))).prepend front := by
  obtain ⟨closed, ends⟩ := closerFrom?_eq_some_iff.mp found
  obtain ⟨token, here, opens⟩ := counted.opens
  have behind := counted.behind
  have place : start + (opener - start) = opener := Nat.add_sub_cancel' behind
  have within : opener - start ≤ (scan false 0 false (tokens.drop start)).body.length := by
    rw [ofBody] at ends
    omega
  obtain ⟨depth, reaches⟩ := scan_reaches (opener - start) within
  have split : (tokens.drop start).drop (opener - start) =
      token :: tokens.drop (opener + 1) := by
    rw [List.drop_drop, place]
    exact List.drop_eq_getElem?_toList_append.trans (by rw [here]; rfl)
  -- a brace behind a word opener is part of it; an opener that is counted is none such
  have unfused : (wordBefore false (tokens.drop start) (opener - start) &&
      token.isSymbol "\x7b") = false := by
    rcases Nat.eq_or_lt_of_le behind with same | later
    · simp [same, wordBefore]
    · have unfused := counted.unfused later
      rw [fusedAt, here] at unfused
      rwa [wordBefore_drop false tokens later]
  obtain ⟨brace, width, searched⟩ := scan_opener here (depth + 1)
  refine ⟨depth, (tokens.drop start).take (opener - start) ++ [token] ++ brace, ?_, ?_⟩
  · have inside : opener < tokens.length := (List.getElem?_eq_some_iff.mp here).1
    have early : ((tokens.drop start).take (opener - start)).length = opener - start :=
      List.length_take_of_le (by rw [List.length_drop]; omega)
    simp only [List.length_append, early, List.length_singleton]
    omega
  · rw [ofBody, reaches, split, scan_opens opens unfused, searched, prepend_prepend,
      prepend_prepend]

theorem closerFrom?_of_counted (found : closerFrom? tokens start = some stop)
    (counted : Counted tokens start opener) (before : opener < stop) :
    ∃ inner, closerFrom? tokens (bodyFrom tokens opener) = some inner ∧
      opener < inner ∧ inner < stop := by
  obtain ⟨depth, front, width, outer⟩ := scan_by_opener found counted before
  obtain ⟨closed, ends⟩ := closerFrom?_eq_some_iff.mp found
  rw [outer] at closed ends
  rcases scan_deeper depth 0 false (tokens.drop (bodyFrom tokens opener)) with
    ⟨body, closer, rest, inner, deeper⟩ | ⟨_, unclosed⟩
  · rw [Nat.zero_add] at deeper
    rw [deeper, prepend_body, prepend_body, List.length_append, List.length_append,
      List.length_append, List.length_singleton] at ends
    have later := lt_bodyFrom tokens opener
    refine ⟨bodyFrom tokens opener + body.length, ?_, by omega, by omega⟩
    exact closerFrom?_eq_some_iff.mpr ⟨by rw [ofBody, inner], by rw [ofBody, inner]⟩
  · -- with a block more open it would not have ended either
    rw [Nat.zero_add] at unclosed
    rw [prepend_closer, unclosed] at closed
    cases closed

/-- An opener behind another is counted by the search from that one's body too, if it stands in
front of the closer that this search finds. -/
theorem Counted.inside {first second inner : Nat} (outer : Counted tokens start first)
    (counted : Counted tokens start second) (order : first < second)
    (found : closerFrom? tokens (bodyFrom tokens first) = some inner) (upTo : second ≤ inner) :
    Counted tokens (bodyFrom tokens first) second ∧ second < inner := by
  have unfused := counted.unfused (Nat.lt_of_le_of_lt outer.behind order)
  refine ⟨⟨?_, counted.opens, fun _ => unfused⟩, ?_⟩
  · -- the brace right behind the first one is not counted where it belongs to it
    unfold bodyFrom
    split
    · rename_i fused
      have apart : second ≠ first + 1 := by
        rintro rfl
        rw [fused] at unfused
        cases unfused
      omega
    · omega
  · refine Nat.lt_of_le_of_ne upTo ?_
    rintro rfl
    obtain ⟨token, here, opens⟩ := counted.opens
    obtain ⟨token', here', closes⟩ := closes_of_closerFrom? found
    cases here.symm.trans here'
    cases opens.symm.trans closes

/-- Of two openers the first is closed before the second one, or the second is closed first. -/
theorem closers_nest {first second inner inner' : Nat} (outer : Counted tokens start first)
    (counted : Counted tokens start second) (order : first < second)
    (found : closerFrom? tokens (bodyFrom tokens first) = some inner)
    (found' : closerFrom? tokens (bodyFrom tokens second) = some inner') :
    inner < second ∨ inner' < inner := by
  rcases Nat.lt_or_ge inner second with apart | upTo
  · exact Or.inl apart
  · obtain ⟨within, before⟩ := outer.inside counted order found upTo
    obtain ⟨closer, closes, _, earlier⟩ := closerFrom?_of_counted found within before
    cases found'.symm.trans closes
    exact Or.inr earlier

def Nest (left right : Set Nat) : Prop :=
  (∀ place ∈ left, place ∉ right) ∨ left ⊆ right ∨ right ⊆ left

theorem Nest.symm {left right : Set Nat} (nest : Nest left right) : Nest right left := by
  rcases nest with apart | inside | inside
  · exact Or.inl fun place late early => apart place early late
  · exact Or.inr (Or.inr inside)
  · exact Or.inr (Or.inl inside)

theorem span_eq {inner : Nat} (found : closerFrom? tokens (bodyFrom tokens opener) = some inner) :
    span tokens opener = Set.Icc opener inner := by
  ext place
  simp [span, found]

theorem span_nest_of_lt {first second : Nat} (outer : Counted tokens start first)
    (counted : Counted tokens start second) (order : first < second)
    {inner inner' : Nat} (found : closerFrom? tokens (bodyFrom tokens first) = some inner)
    (found' : closerFrom? tokens (bodyFrom tokens second) = some inner') :
    Nest (span tokens first) (span tokens second) := by
  rw [span_eq found, span_eq found']
  rcases closers_nest outer counted order found found' with apart | within
  · refine Or.inl fun place early late => ?_
    exact absurd (late.1.trans early.2) (Nat.not_le.mpr apart)
  · exact Or.inr (Or.inr (Set.Icc_subset_Icc order.le within.le))

/-- The extents of blocks nest. Where the search for the end of a block finds its closer, the search
from the body of every opener that it counted finds one as well, and finds it earlier; the openers
with what is up to their closers are apart, or the one lies within the other; and the closer of the
block closes none of them. -/
theorem extents_nest (found : closerFrom? tokens start = some stop) :
    (∀ opener, Counted tokens start opener → opener < stop →
      ∃ inner, closerFrom? tokens (bodyFrom tokens opener) = some inner ∧
        opener < inner ∧ inner < stop) ∧
    (∀ first second, Counted tokens start first → first < stop →
      Counted tokens start second → second < stop →
        Nest (span tokens first) (span tokens second)) ∧
    ∀ opener, Counted tokens start opener → opener < stop →
      closerFrom? tokens (bodyFrom tokens opener) ≠ some stop := by
  refine ⟨fun opener => closerFrom?_of_counted found, ?_, fun opener counted before same => ?_⟩
  · intro first second outer before counted before'
    obtain ⟨inner, closes, _⟩ := closerFrom?_of_counted found outer before
    obtain ⟨inner', closes', _⟩ := closerFrom?_of_counted found counted before'
    rcases Nat.lt_trichotomy first second with order | rfl | order
    · exact span_nest_of_lt outer counted order closes closes'
    · exact Or.inr (Or.inl subset_rfl)
    · exact (span_nest_of_lt counted outer order closes' closes).symm
  · obtain ⟨inner, closes, _, earlier⟩ := closerFrom?_of_counted found counted before
    cases same.symm.trans closes
    exact Nat.lt_irrefl stop earlier

/-- The body of a block with two blocks inside of a third, whose word and brace count as one, and
its closer: `then { do b end { c } } d }`. -/
def enclosing : List Token :=
  let spot : Spot := .onFirstLine 0 0
  let word := spot.token .keyword
  let name := spot.token .identifier
  let symbol := spot.token .symbol
  [word "then", symbol "\x7b", word "do", name "b", word "end", symbol "\x7b", name "c",
    symbol "\x7d", symbol "\x7d", name "d", symbol "\x7d"]

theorem enclosing_nest :
    closerFrom? enclosing 0 = some 10 ∧ Counted enclosing 0 0 ∧ Counted enclosing 0 5 ∧
      (∃ inner, closerFrom? enclosing (bodyFrom enclosing 0) = some inner ∧
        0 < inner ∧ inner < 10) ∧
      Nest (span enclosing 0) (span enclosing 5) ∧
      closerFrom? enclosing (bodyFrom enclosing 0) ≠ some 10 := by
  have found : closerFrom? enclosing 0 = some 10 := by decide +kernel
  have word : Counted enclosing 0 0 :=
    ⟨Nat.le_refl 0, ⟨_, rfl, by decide +kernel⟩, fun later => absurd later (Nat.lt_irrefl 0)⟩
  have brace : Counted enclosing 0 5 :=
    ⟨Nat.zero_le 5, ⟨_, rfl, by decide +kernel⟩, fun _ => by decide +kernel⟩
  obtain ⟨inside, nest, apart⟩ := extents_nest found
  exact ⟨found, word, brace, inside 0 word (by decide), nest 0 5 word (by decide) brace (by decide),
    apart 0 word (by decide)⟩

end Extent

end Parlance.Grammar
