import Parlance.Proofs.Fork.Statement
import Parlance.Proofs.Reading.Program
import Parlance.Proofs.Token.Tiling
import Parlance.Proofs.Token.Word

/-!
Readers that know different names. If whatever may be a name among the tokens is known to both
alike, then they read the same program with the same notes, and it calls only such names.
-/

namespace Parlance

namespace Grammar

open Rule

/-- Two readers know the names of a set alike. -/
structure Acquainted (left right : Capabilities) (common : String → Prop) : Prop where
  isModule_eq : ∀ ⦃name⦄, common name → right.isModule name = left.isModule name
  isElement_eq : ∀ ⦃name⦄, common name → right.isElement name = left.isElement name

namespace Acquainted

variable {left right : Capabilities} {common : String → Prop}

def fork (acquainted : Acquainted left right common) {finish : Token}
    (ends : finish.kind = .finish) : Fork where
  left
  right
  common
  isModule_eq := acquainted.isModule_eq
  isElement_eq := acquainted.isElement_eq
  finish
  ends
  behind := [finish]
  parts := Or.inl rfl

/-- At a cursor both readers read the same by a rule. Which token closes those that they share does
not matter: a block has one of its own. -/
def ReadAlike (acquainted : Acquainted left right common) (rule : Rule (List Stmt))
    (cursor : Cursor) : Prop :=
  ∀ ⦃finish : Token⦄ (ends : finish.kind = .finish),
    (acquainted.fork ends).Beside cursor cursor →
      FollowsAt (acquainted.fork ends) cursor cursor rule rule

variable {acquainted : Acquainted left right common} {cursor : Cursor}

theorem statementsWithin_alike
    (shorter : ∀ next : Cursor, next.rest.length < cursor.rest.length →
      acquainted.ReadAlike statements next) (next : Cursor) :
    acquainted.ReadAlike (statementsWithin cursor) next := by
  intro finish ends beside value last noted read quiet
  simp only [statementsWithin, granted] at read ⊢
  by_cases grants : next.rest.length < cursor.rest.length
  · simp only [grants, ↓reduceIte] at read ⊢
    exact shorter next grants ends beside read quiet
  · simp only [grants, ↓reduceIte] at read ⊢
    have notes : FollowsAt (acquainted.fork ends) next next statements.noStatement
        statements.noStatement :=
      .here (.recover beside (fun _ => rfl) fun _ => .quiet beside rfl)
    exact notes read quiet

theorem followsInside {rule : Rule (List Stmt)} (alike : ∀ next, acquainted.ReadAlike rule next)
    {finish : Token} (ends : finish.kind = .finish) :
    FollowsInside (acquainted.fork ends) rule rule := by
  intro tokens shared finish' ends' value next noted read _
  have here : (acquainted.fork ends').Beside (.ofTokens (tokens ++ [finish']))
      (.ofTokens (tokens ++ [finish'])) := ⟨⟨tokens, shared, rfl, rfl⟩, rfl⟩
  obtain ⟨called, next', read', _⟩ := alike _ ends' here read (Or.inr rfl)
  exact ⟨called, next', read'⟩

theorem statements_alike (cursor : Cursor) : acquainted.ReadAlike statements cursor := by
  -- a block is read as tokens of its own, which are fewer, so the induction is for every end
  induction ahead : cursor.rest.length using Nat.strongRecOn generalizing cursor with
  | ind length ih =>
      subst ahead
      have within := statementsWithin_alike fun next shorter => ih _ shorter next rfl
      intro finish ends beside value last noted read quiet
      by_cases other : cursor.current.kind = .finish
      · have atEnd : cursor.atEnd = true := by simp [Cursor.atEnd, other]
        rw [statements_atEnd atEnd] at read ⊢
        obtain ⟨rfl, rfl, rfl⟩ := Reading.done.inj read
        exact ⟨Fork.common_nil, cursor, rfl, beside⟩
      · have open' : cursor.atEnd = false := by simpa [Cursor.atEnd] using other
        rw [statements_apply open'] at read ⊢
        have whole : FollowsAt (acquainted.fork ends) cursor cursor
            (do let first ← statement (statementsWithin cursor)
                let more ← statementsWithin cursor
                pure (first.toList ++ more))
            (do let first ← statement (statementsWithin cursor)
                let more ← statementsWithin cursor
                pure (first.toList ++ more)) := by
          apply FollowsAt.bind
          · exact statement_follows (followsInside within ends) beside other
              fun differ => absurd rfl differ
          · intro first next next' beside called
            obtain rfl : next = next' := (beside.eq_of_exact rfl).symm
            apply FollowsAt.bind (within next ends beside)
            intro more _ _ beside called'
            refine .pure beside ?_
            have both : callees (first.toList ++ more) = callees first ++ callees more :=
              Stmt.allCallees_append first.toList more
            exact both ▸ Fork.common_append.mpr ⟨called, called'⟩
        exact whole read quiet

end Acquainted

end Grammar

open Grammar

namespace Token

/-- What may be read as a name is a word. -/
theorem word_of_mayName {token : Token} {text : List Char} (cut : token.CutFrom text)
    (names : token.mayName = true) :
    (token.kind = .identifier ∨ token.kind = .keyword) ∧ Lexeme.IsWord token.lexeme.toList := by
  obtain ⟨kind, lexeme, offset, place, stop⟩ := token
  have slice : Lexeme.Cut kind (text.extract offset stop) lexeme (text.drop stop) := cut.cut
  cases slice with
  | number | string => simp [mayName, keyword?] at names
  | word word =>
      refine ⟨?_, by rwa [String.toList_ofList]⟩
      simp only [Piece.wordKind]
      split
      · exact Or.inr rfl
      · exact Or.inl rfl
  | symbol symbol =>
      simp only [mayName, keyword?, reduceCtorEq, decide_false, Bool.false_or] at names
      exact absurd (of_decide_eq_true names) symbol.no_type

end Token

namespace Program

variable {left right : Capabilities} {common : String → Prop} {tokens : List Token}

/-- Readers who know the names among the tokens alike read the same, and what they read calls no
other names. -/
theorem ofTokens_acquainted (acquainted : Acquainted left right common)
    (inner : ∀ token ∈ tokens, token.kind ≠ .finish)
    (names : ∀ token ∈ tokens, token.mayName = true → common token.lexeme) {finish : Token}
    (ends : finish.kind = .finish) (strict : Bool) :
    Program.ofTokens ⟨strict, right⟩ (tokens ++ [finish]) =
        Program.ofTokens ⟨strict, left⟩ (tokens ++ [finish]) ∧
      ∀ program noted,
        Program.ofTokens ⟨strict, left⟩ (tokens ++ [finish]) = .ok (program, noted) →
          ∀ name ∈ Stmt.allCallees program, common name := by
  have closed : Token.close (tokens ++ [finish]) = tokens ++ [finish] := by
    simp [Token.close, ends]
  obtain ⟨program, noted, lenient⟩ := ofTokens_lenient left (tokens ++ [finish])
  obtain ⟨last, read⟩ := statements_of_ofTokens lenient
  rw [closed] at read
  have beside : (acquainted.fork ends).Beside (.ofTokens (tokens ++ [finish]))
      (.ofTokens (tokens ++ [finish])) :=
    ⟨⟨tokens, fun token here => ⟨inner token here, names token here⟩, rfl, rfl⟩, rfl⟩
  obtain ⟨called, last', read', _⟩ := acquainted.statements_alike _ ends beside read (Or.inr rfl)
  rw [← closed] at read'
  have lenient' := ofTokens_of_statements read'
  -- a strict reader takes exactly what a lenient one takes without a note
  cases strict with
  | false =>
      refine ⟨lenient'.trans lenient.symm, fun program' noted' found => ?_⟩
      obtain ⟨rfl, rfl⟩ := Prod.mk.inj (Except.ok.inj (lenient.symm.trans found))
      exact called
  | true =>
      have strict := ofTokens_strict lenient
      have strict' := ofTokens_strict lenient'
      cases noted with
      | nil =>
          refine ⟨strict'.trans strict.symm, fun program' noted' found => ?_⟩
          obtain ⟨rfl, _⟩ := Prod.mk.inj (Except.ok.inj (strict.symm.trans found))
          exact called
      | cons first rest =>
          refine ⟨strict'.trans strict.symm, fun program' noted' found => ?_⟩
          cases strict.symm.trans found

end Program

end Parlance
