import Parlance.Proofs.Reading.Derivation
import Parlance.Proofs.Reading.Wrapping

/-!
Expressions inside blocks. What counts blocks sees braces and words only, and an expression may hold
both: braces around maps, and words as keys of maps. Main statement:
`expression_balanced_iff_no_word_opener`. Every brace that an expression takes is closed by it, no
closer ends anything else, and each word that opens blocks, taken as a key, counts for one block
that the expression never closes.
-/

namespace Parlance

namespace Token

/-- A word that opens a block, wherever it stands. -/
def opensByWord (token : Token) : Bool :=
  token.kind = .keyword && token.keyword? = some .blockOpen

/-- The token neither opens nor closes a block. -/
structure Neutral (token : Token) : Prop where
  opens_not : token.keyword? ≠ some .blockOpen
  closes_not : token.keyword? ≠ some .blockClose

variable {token : Token}

theorem Neutral.of_keyword? {keyword : Keyword} (spelt : token.keyword? = some keyword)
    (opens_not : keyword ≠ .blockOpen) (closes_not : keyword ≠ .blockClose) : token.Neutral :=
  ⟨by simpa [spelt] using opens_not, by simpa [spelt] using closes_not⟩

theorem Neutral.of_none (spelt : token.keyword? = none) : token.Neutral :=
  ⟨by simp [spelt], by simp [spelt]⟩

theorem Neutral.of_isSymbol {symbol : String} (found : token.isSymbol symbol = true)
    (plain : Keyword.ofSpelling? symbol = none) : token.Neutral := by
  simp only [isSymbol, Bool.and_eq_true, decide_eq_true_eq] at found
  exact .of_none (by simp [keyword?, found.1, found.2, plain])

theorem Neutral.of_isMethodWord (found : token.isMethodWord = true) : token.Neutral := by
  simp only [isMethodWord, Bool.or_eq_true, Bool.and_eq_true, decide_eq_true_eq, Bool.not_eq_true',
    Bool.or_eq_false_iff, decide_eq_false_iff_not] at found
  rcases found with kind | ⟨_, ⟨⟨opens, closes⟩, _⟩, _⟩
  · exact .of_none (by simp [keyword?, kind])
  · exact ⟨opens, closes⟩

theorem Neutral.of_isColon (found : Grammar.IsColon token) : token.Neutral := by
  rcases found with colon | word
  · exact .of_isSymbol colon (Keyword.ofSpelling?_of_mark (by decide))
  · exact .of_keyword? word nofun nofun

theorem Neutral.of_unaryOp? {op : UnaryOp} (found : token.keyword?.bind (·.unaryOp?) = some op) :
    token.Neutral := by
  obtain ⟨keyword, spelt, operator⟩ := Option.bind_eq_some_iff.mp found
  refine .of_keyword? spelt ?_ ?_ <;> rintro rfl <;> cases operator

theorem Neutral.of_binaryOp? {op : BinaryOp}
    (found : token.keyword?.bind (·.binaryOp?) = some op) : token.Neutral := by
  obtain ⟨keyword, spelt, operator⟩ := Option.bind_eq_some_iff.mp found
  refine .of_keyword? spelt ?_ ?_ <;> rintro rfl <;> cases operator

theorem Neutral.of_opening (bracketless : Grammar.opening token ≠ .nothing ∧
    Grammar.opening token ≠ .group ∧ Grammar.opening token ≠ .list ∧
      Grammar.opening token ≠ .map) : token.Neutral := by
  -- what begins with a brace, or a word in its place, begins with a bracket or begins nothing
  have plain : ∀ keyword, keyword = .blockOpen ∨ keyword = .blockClose →
      token.keyword? ≠ some keyword := by
    rintro keyword brace spelt
    have other : Grammar.opening token =
        if token.isSymbol "(" then .group else if token.isSymbol "[" then .list
          else if token.isSymbol "\x7b" then .map else .nothing := by
      cases kind : token.kind <;> rcases brace with rfl | rfl <;>
        simp_all [Grammar.opening, keyword?]
    rw [other] at bracketless
    split_ifs at bracketless <;> simp at bracketless
  exact ⟨plain _ (.inl rfl), plain _ (.inr rfl)⟩

/-- The blocks open behind the tokens are those open in front of them and one for each word that
opens, and no brace behind the tokens belongs to such a word. -/
def Nests (tokens : List Token) : Prop :=
  ∀ depth rest, openBlocks depth false (tokens ++ rest) =
    openBlocks (depth + tokens.countP opensByWord) false rest

theorem Neutral.openBlocks_cons (neutral : token.Neutral) (depth : Nat) (fused : Bool)
    (rest : List Token) :
    openBlocks depth fused (token :: rest) = openBlocks depth false rest := by
  simp only [openBlocks]
  split
  · exact absurd ‹_› neutral.opens_not
  · exact absurd ‹_› neutral.closes_not
  · rfl

theorem Neutral.opensByWord_eq (neutral : token.Neutral) : token.opensByWord = false := by
  simp [opensByWord, neutral.opens_not]

namespace Nests

theorem nil : Nests [] := fun _ _ => rfl

theorem append {front back : List Token} (early : Nests front) (late : Nests back) :
    Nests (front ++ back) := by
  intro depth rest
  rw [List.append_assoc, early, late, List.countP_append, Nat.add_assoc]

theorem cons {tokens : List Token} (neutral : token.Neutral) (nests : Nests tokens) :
    Nests (token :: tokens) := by
  intro depth rest
  rw [List.cons_append, neutral.openBlocks_cons, nests,
    List.countP_cons_of_neg (by simp [neutral.opensByWord_eq])]

theorem one (neutral : token.Neutral) : Nests [token] := cons neutral nil

theorem around {tokens : List Token} {opener closer : Token} (first : opener.Neutral)
    (nests : Nests tokens) (last : closer.Neutral) : Nests (opener :: (tokens ++ [closer])) :=
  cons first (nests.append (one last))

theorem braces {tokens : List Token} {opener closer : Token}
    (opens : opener.isSymbol "\x7b" = true) (nests : Nests tokens)
    (closes : closer.isSymbol "\x7d" = true) : Nests (opener :: (tokens ++ [closer])) := by
  simp only [isSymbol, Bool.and_eq_true, decide_eq_true_eq] at opens closes
  have opened : opener.keyword? = some .blockOpen := by
    simp [keyword?, opens, Keyword.ofSpelling?_blockOpen]
  have closed : closer.keyword? = some .blockClose := by
    simp [keyword?, closes, Keyword.ofSpelling?_blockClose]
  intro depth rest
  have inside : openBlocks (depth + 1) false (tokens ++ closer :: rest) =
      openBlocks (depth + tokens.countP opensByWord) false rest := by
    rw [nests, Nat.add_right_comm]
    simp [openBlocks, closed]
  simpa [openBlocks, opened, opens, opensByWord, List.countP_cons, List.countP_append, closed]
    using inside

/-- A word that opens may be a key, but what it opens is not closed. -/
theorem key {tokens : List Token} {word colon : Token} (isKey : word.isMapKey = true)
    (neutral : colon.Neutral) (nests : Nests tokens) : Nests (word :: colon :: tokens) := by
  have closes_not : word.keyword? ≠ some .blockClose := by
    unfold isMapKey at isKey
    split at isKey
    all_goals first
      | exact of_decide_eq_true isKey
      | cases isKey
  by_cases opens : word.keyword? = some .blockOpen
  · have kind : word.kind = .keyword := by
      unfold isMapKey at isKey
      unfold keyword? at opens
      split at isKey <;> simp_all
    have word' : word.opensByWord = true := by simp [opensByWord, kind, opens]
    intro depth rest
    have behind := nests (depth + 1) rest
    rw [List.countP_cons_of_pos word',
      List.countP_cons_of_neg (by simp [neutral.opensByWord_eq])]
    simp only [List.cons_append, openBlocks, opens, Bool.false_and, Bool.false_eq_true, ↓reduceIte]
    rw [← openBlocks, neutral.openBlocks_cons, behind, Nat.add_right_comm, Nat.add_assoc]
  · exact cons ⟨opens, closes_not⟩ (cons neutral nests)

end Nests

end Token

namespace Grammar

open Token

def Reading.rest? {α : Type} : Reading α → Option (List Token)
  | .done _ next [] => some next.rest
  | _ => none

theorem Reading.clean_of_rest? {α : Type} {reading : Reading α} {rest : List Token}
    (ends : reading.rest? = some rest) :
    ∃ value next, reading = .done value next [] ∧ next.rest = rest := by
  cases reading with
  | refused first => cases ends
  | done value next recoveries =>
      cases recoveries with
      | nil => exact ⟨value, next, rfl, Option.some.inj ends⟩
      | cons first later => cases ends

theorem Spells.nests {tokens : List Token} {phrase : Phrase} (spells : Spells tokens phrase) :
    Nests tokens := by
  -- by the way the tokens spell the phrase; only braces of maps and keys count
  have comma : Keyword.ofSpelling? "," = none := Keyword.ofSpelling?_of_mark (by decide)
  have open' : Keyword.ofSpelling? "(" = none := Keyword.ofSpelling?_of_mark (by decide)
  have close : Keyword.ofSpelling? ")" = none := Keyword.ofSpelling?_of_mark (by decide)
  have openList : Keyword.ofSpelling? "[" = none := Keyword.ofSpelling?_of_mark (by decide)
  have closeList : Keyword.ofSpelling? "]" = none := Keyword.ofSpelling?_of_mark (by decide)
  have point : Keyword.ofSpelling? "." = none := Keyword.ofSpelling?_of_mark (by decide)
  induction spells with
  | literal opens => exact .one (.of_opening (by simp [opens]))
  | numberWord opens _ => exact .one (.of_opening (by simp [opens]))
  | name opens => exact .one (.of_opening (by simp [opens]))
  | call opens chooses _ ih =>
      refine .cons (.of_opening (by simp [opens])) (.append ?_ ih)
      cases chooses with
      | none => exact .nil
      | bare word => exact .one (.of_isMethodWord word)
      | point dot word => exact .cons (.of_isSymbol dot point) (.one (.of_isMethodWord word))
  | worded opens _ ih => exact .cons (.of_opening (by simp [opens])) ih
  | group opens _ closes ih =>
      exact .around (.of_isSymbol opens open') ih (.of_isSymbol closes close)
  | list opens _ closes ih =>
      exact .around (.of_isSymbol opens openList) ih (.of_isSymbol closes closeList)
  | map opens _ closes ih => exact .braces opens ih closes
  | index _ opens _ closes ih ih' =>
      exact ih.append (.around (.of_isSymbol opens openList) ih' (.of_isSymbol closes closeList))
  | unary operator _ ih => exact .cons (.of_unaryOp? operator) ih
  | binary _ operator _ ih ih' => exact ih.append (.cons (.of_binaryOp? operator) ih')
  | noItem => exact .nil
  | comma found _ ih => exact .cons (.of_isSymbol found comma) ih
  | item _ _ ih ih' => exact ih.append ih'
  | enclosed opens _ closes ih =>
      exact .around (.of_isSymbol opens open') ih (.of_isSymbol closes close)
  | inParens _ ih => exact ih
  | spaced _ ih => exact ih
  | noEntry => exact .nil
  | entryComma found _ ih => exact .cons (.of_isSymbol found comma) ih
  | entry isKey colon _ _ ih ih' => exact .key isKey (.of_isColon colon) (ih.append ih')
  | bareKey isKey colon _ ih => exact .key isKey (.of_isColon colon) ih

/-- An expression read without a note closes whatever braces it takes, and ends nothing that was
open before it. It leaves open a block for each word among its tokens that opens one, so it is
balanced exactly if there is none. -/
theorem expression_balanced_iff_no_word_opener {least : Nat} {mode : Mode} {cursor next : Cursor}
    {value : Expr} (clean : expressionOf least mode cursor = .done value next []) :
    ∃ taken, cursor.rest = taken ++ next.rest ∧
      openBlocks 0 false taken = some (taken.countP opensByWord) ∧
        (Token.Balanced taken ↔ ∀ token ∈ taken, token.opensByWord = false) := by
  obtain ⟨taken, split, _, spells⟩ := expressionOf_takes least mode cursor clean
  have counted : openBlocks 0 false taken = some (taken.countP opensByWord) := by
    simpa [openBlocks] using spells.nests 0 []
  refine ⟨taken, split, counted, ?_⟩
  rw [Token.Balanced, counted, Option.some_inj, List.countP_eq_zero]
  simp only [Bool.not_eq_true]

def nestedMaps : List Token := Token.scan "[\x7ba: \x7bb: c\x7d\x7d, d[e]] \x7b"

theorem nested_maps_balanced :
    ∃ value next, expressionOf 1 ⟨false, .standard⟩ (.ofTokens nestedMaps) =
        .done value next [] ∧
      ∃ taken, nestedMaps = taken ++ next.rest ∧
        openBlocks 0 false taken = some (taken.countP opensByWord) ∧
          (Token.Balanced taken ↔ ∀ token ∈ taken, token.opensByWord = false) := by
  have ends : (expressionOf 1 ⟨false, .standard⟩ (.ofTokens nestedMaps)).rest? =
      some (nestedMaps.drop 16) := by decide +kernel
  obtain ⟨value, next, clean, _⟩ := Reading.clean_of_rest? ends
  exact ⟨value, next, clean, expression_balanced_iff_no_word_opener clean⟩

def keyedByOpener : List Token := (Token.scan "\x7bdo: a\x7d").dropLast

theorem opener_as_key_unbalanced :
    ∃ value next, expressionOf 1 ⟨false, .standard⟩ (.ofTokens keyedByOpener) =
        .done value next [] ∧
      ∀ taken, keyedByOpener = taken ++ next.rest → ¬ Token.Balanced taken := by
  have ends : (expressionOf 1 ⟨false, .standard⟩ (.ofTokens keyedByOpener)).rest? = some [] := by
    decide +kernel
  obtain ⟨value, next, clean, all⟩ := Reading.clean_of_rest? ends
  refine ⟨value, next, clean, fun taken split => ?_⟩
  rw [all, List.append_nil] at split
  subst split
  decide +kernel

end Grammar

end Parlance
