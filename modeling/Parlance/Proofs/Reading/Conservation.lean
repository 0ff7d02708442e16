import Parlance.Proofs.Reading.Program
import Parlance.Proofs.Reading.Showing
import Parlance.Token.Scan

/-!
Programs account for their tokens. Statements are read up to the token that closes the list, and so
is the program. Main statement: `ofTokens_accounted`. A program that is read without a note shows
every number, text and name among its tokens, except for what an output holds in parentheses beyond
two values.
-/

namespace Parlance

namespace Token

theorem beforeFinish_behind (tokens : List Token) {finish : Token} (ends : finish.kind = .finish) :
    beforeFinish (tokens ++ [finish]) = beforeFinish tokens := by
  induction tokens with
  | nil => simp [beforeFinish, ends]
  | cons token rest ih =>
      simp only [beforeFinish, List.cons_append, List.takeWhile_cons] at ih ⊢
      rw [ih]

theorem beforeFinish_close (tokens : List Token) :
    beforeFinish (close tokens) = beforeFinish tokens := by
  unfold close
  split
  · rename_i none
    rw [List.getLast?_eq_none_iff.mp none]
    rfl
  · split
    · rfl
    · exact beforeFinish_behind tokens rfl

end Token

namespace Grammar

open Rule Token

theorem beforeFinish_atEnd {cursor : Cursor} (ends : cursor.atEnd = true) :
    beforeFinish cursor.rest = [] := by
  obtain ⟨tokens, lastStop⟩ := cursor
  cases tokens with
  | nil => rfl
  | cons token rest => exact beforeFinish_finish (of_decide_eq_true ends) rest

theorem statements_exhausts {mode : Mode} {cursor next : Cursor} {body : List Stmt}
    (clean : statements mode cursor = .done body next []) :
    Shows (beforeFinish cursor.rest) (Stmt.allContents body) := by
  -- statements are read up to the token that closes the list, by induction on the number of tokens
  -- ahead
  induction ahead : cursor.rest.length using Nat.strongRecOn generalizing cursor next body with
  | ind length ih =>
      subst ahead
      -- where nothing shorter is ahead, the last resort makes a note
      have inners : ∀ ⦃cursor'⦄ ⦃body next⦄,
          granted cursor (tie (fun _ => statements.noStatement) statements.round)
            (fun _ => statements.noStatement) () mode cursor' = .done body next [] →
          Shows (beforeFinish cursor'.rest) (Stmt.allContents body) := by
        intro cursor' body next read
        unfold granted at read
        split at read
        · rename_i shorter
          exact ih _ shorter read rfl
        · simp only [statements.noStatement, bind_apply, here, Reading.done_andThen] at read
          obtain ⟨_, _, noted, _⟩ := Reading.andThen_clean read
          exact absurd noted recover_noted
      rw [statements, tie_apply] at clean
      simp only [statements.round, bind_apply, here, Reading.done_andThen] at clean
      split at clean
      · rename_i ends
        obtain ⟨rfl, _⟩ := Reading.done.inj clean
        rw [beforeFinish_atEnd ends]
        exact .nil
      · obtain ⟨first, middle, read, clean⟩ := Reading.andThen_clean clean
        obtain ⟨more, last, goesOn, clean⟩ := Reading.andThen_clean clean
        obtain ⟨rfl, _⟩ := Reading.done.inj clean
        have near := Nat.le_refl cursor.rest.length
        obtain ⟨taken, split, inner, shows⟩ := statement_adds (fun _ _ => @inners _) near read
        have all := shows.append (inners goesOn)
        rw [split, beforeFinish_append inner]
        simpa [Stmt.allContents, maybeContents, Stmt.toNodes_eq_map, Node.allContents_append]
          using all

end Grammar

namespace Program

open Grammar Token

/-- A program that is read without a note shows every number, text and name of its tokens up to the
one that closes them, each in a place of its own, except for what the parentheses behind words for
output hold beyond two values; if there are no such parentheses it shows them all. -/
theorem ofTokens_accounted {mode : Mode} {tokens : List Token} {program : Program}
    (clean : Program.ofTokens mode tokens = .ok (program, [])) :
    ∃ lost, Accounts (beforeFinish tokens) program.toNode.contents lost ∧
      Kept (beforeFinish tokens) (program.toNode.contents + (Phrase.items lost).contents) ∧
        (OutputsBare (beforeFinish tokens) → lost = []) := by
  obtain ⟨last, read⟩ := statements_of_ofTokens clean
  obtain ⟨lost, accounts⟩ := statements_exhausts read
  have same : program.toNode.contents = Stmt.allContents program := by
    simp [Program.toNode, Node.plain, Node.contents, Node.Kind.speaks, Stmt.allContents]
  rw [Cursor.ofTokens, beforeFinish_close, ← same] at accounts
  exact ⟨lost, accounts, accounts.kept, accounts.nothing_lost⟩

def spokenThrice : List Token :=
  Token.scan "function f(a) as g \x7b set b to \x7ba: one\x7d \x7d; say(\"a\", b, \"c\")"

theorem spoken_thrice_accounted :
    ∃ program, Program.ofTokens ⟨false, .standard⟩ spokenThrice = .ok (program, []) ∧
      ∃ lost, Accounts (beforeFinish spokenThrice) program.toNode.contents lost ∧
        Kept (beforeFinish spokenThrice)
          (program.toNode.contents + (Phrase.items lost).contents) ∧
            (OutputsBare (beforeFinish spokenThrice) → lost = []) := by
  obtain ⟨program, noted, read⟩ := ofTokens_lenient .standard spokenThrice
  have quiet : (Program.ofTokens ⟨false, .standard⟩ spokenThrice).toOption.map Prod.snd =
      some [] := by decide +kernel
  rw [read] at quiet
  obtain rfl := Option.some.inj quiet
  exact ⟨program, read, ofTokens_accounted read⟩

def threeTexts : List Token := (Token.scan "say(\"a\", \"b\", \"c\")").dropLast

/-- The third is shown nowhere, and no note is made. -/
theorem third_value_not_shown :
    ∃ program, Program.ofTokens ⟨false, .standard⟩ threeTexts = .ok (program, []) ∧
      ¬ Kept threeTexts program.toNode.contents := by
  obtain ⟨program, noted, read⟩ := ofTokens_lenient .standard threeTexts
  have shown : (Program.ofTokens ⟨false, .standard⟩ threeTexts).toOption.map
      (fun result => (result.1.toNode.contents.card, result.2)) = some (2, []) := by
    decide +kernel
  rw [read] at shown
  obtain ⟨two, rfl⟩ := Prod.mk.inj (Option.some.inj shown)
  refine ⟨program, read, fun kept => ?_⟩
  have three : (threeTexts.filter speaks).length = 3 := by decide +kernel
  have enough := kept.length_le_card
  rw [three, two] at enough
  omega

end Program

end Parlance
