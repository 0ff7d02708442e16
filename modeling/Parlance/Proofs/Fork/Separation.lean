import Parlance.Proofs.Fork.Statement
import Parlance.Proofs.Reading.Parenthesis
import Parlance.Proofs.Reading.Wrapping

/-!
Separators. A program that is read without a note is read alike in front of a separator and whatever
follows that, since nothing that is read without a note looks past the separator; and what follows
the separator is read as if it stood alone.
-/

namespace Parlance

namespace Grammar

open Rule

/-- A reader that finds the end of the tokens, and one that finds a separator in its place. -/
def Fork.atSeparator (capabilities : Capabilities) {finish separator : Token}
    (ends : finish.kind = .finish) (separates : separator.isSymbol ";" = true)
    (rest : List Token) : Fork where
  left := capabilities
  right := capabilities
  common := fun _ => True
  isModule_eq := fun _ _ => rfl
  isElement_eq := fun _ _ => rfl
  finish
  ends
  behind := separator :: rest
  parts := Or.inr ⟨separator, rest, rfl, separates⟩

section

variable {mode : Mode} {cursor : Cursor}

/-- A statement that begins with a parenthesis is an expression, and closes it if it is read
without a note. -/
theorem closed_of_statement {inner : Rule (List Stmt)} {stmt : Option Stmt} {next : Cursor}
    (paren : cursor.isAtSymbol "(" = true)
    (clean : statement inner mode cursor = .done stmt next []) : ¬ cursor.Unclosed := by
  have symbol : cursor.current.kind = .symbol ∧ cursor.current.lexeme = "(" := by
    simpa [Cursor.isAtSymbol, Token.isSymbol] using paren
  have leads : lead cursor.current = .plain := by
    rw [lead, Token.keyword?_of_paren paren]
  have starts : cursor.current.startsExpression = true := by
    simp [Token.startsExpression, symbol]
  have separator : ∀ lexeme, lexeme ≠ "(" → cursor.current.isSymbol lexeme = false := by
    intro lexeme other
    simp [Token.isSymbol, symbol, other.symm]
  simp only [statement, bind_apply, here, Reading.done_andThen, leads, plainStatement,
    separator ";" (by decide), separator "," (by decide), symbol.1, starts, Bool.or_self,
    Bool.false_eq_true, ↓reduceIte, reduceCtorEq, decide_false, Bool.false_and] at clean
  obtain ⟨_, _, read, _⟩ := Reading.andThen_clean clean
  exact fun unclosed => closingParen?_of_expression paren read unclosed.2

theorem closed_of_output {inner : Rule (List Stmt)} {stmt : Option Stmt} {next last : Cursor}
    {more : List Stmt} (leads : lead cursor.current = .output)
    (clean : statement inner mode cursor = .done stmt next [])
    (goesOn : statements mode next = .done more last []) : ¬ cursor.advance.Unclosed := by
  rintro ⟨paren, unclosed⟩
  have noParens : cursor.advance.atOutputParens = false := by
    simp [Cursor.atOutputParens, unclosed]
  simp only [statement, bind_apply, here, Reading.done_andThen, leads, map_apply, output, Rule.next,
    noParens, Bool.false_eq_true, ↓reduceIte] at clean
  obtain ⟨_, _, output, wrapped⟩ := Reading.andThen_clean clean
  obtain ⟨_, rfl, _⟩ := Reading.done.inj wrapped
  obtain ⟨_, _, arguments, ended⟩ := Reading.andThen_clean output
  obtain ⟨_, rfl, _⟩ := Reading.done.inj ended
  obtain ⟨argument, _, first, others⟩ := Reading.andThen_clean arguments
  simp only [argument?, bind_apply, here, Reading.done_andThen] at first
  split at first
  · -- an argument on the line of the word is an expression that begins with the parenthesis
    obtain ⟨_, _, read, _⟩ := Reading.andThen_clean first
    exact closingParen?_of_expression paren read unclosed
  · -- otherwise the next statement begins with it
    obtain ⟨rfl, rfl, _⟩ := Reading.done.inj first
    obtain ⟨_, rfl, _⟩ := Reading.done.inj others
    have open' : cursor.advance.atEnd = false := by
      simpa [Cursor.atEnd] using Token.ne_finish_of_isSymbol paren
    rw [statements_apply open'] at goesOn
    obtain ⟨_, _, read, _⟩ := Reading.andThen_clean goesOn
    exact closed_of_statement paren read ⟨paren, unclosed⟩

theorem statementsWithin_granted {start next : Cursor} {body : List Stmt}
    (clean : statementsWithin start mode cursor = .done body next []) :
    cursor.rest.length < start.rest.length ∧ statements mode cursor = .done body next [] := by
  -- what would be answered where nothing is granted is noted
  by_cases shorter : cursor.rest.length < start.rest.length
  · exact ⟨shorter, statementsWithin_shorter shorter mode ▸ clean⟩
  · simp only [statementsWithin, granted, shorter, ↓reduceIte, statements.noStatement, bind_apply,
      here, Reading.done_andThen] at clean
    obtain ⟨_, _, read, _⟩ := Reading.andThen_clean clean
    exact absurd read recover_noted

end

section

variable {capabilities : Capabilities} {finish separator : Token} {rest : List Token}
  {ends : finish.kind = .finish} {separates : separator.isSymbol ";" = true}

theorem Fork.atSeparator_parts :
    ¬ (Fork.atSeparator capabilities ends separates rest).Exact := by
  intro same
  obtain rfl : separator = finish := (List.cons.inj same).1
  simp [Token.isSymbol, ends] at separates

theorem statementsWithin_inside {start start' : Cursor}
    (longer : start.rest.length ≤ start'.rest.length) :
    FollowsInside (.atSeparator capabilities ends separates rest) (statementsWithin start)
      (statementsWithin start') := by
  -- whatever is granted to the left reader is granted to the right one, who has no fewer tokens
  -- ahead
  intro tokens _ finish' _ body next noted read quiet
  obtain rfl := quiet.resolve_right Fork.atSeparator_parts
  obtain ⟨shorter, read⟩ := statementsWithin_granted read
  refine ⟨fun _ _ => trivial, next, ?_⟩
  rw [statementsWithin_shorter (Nat.lt_of_lt_of_le shorter longer)]
  exact read

/-- What is read without a note up to the end is read in front of a separator, and behind it what
follows the separator. -/
theorem statements_followed {program : List Stmt} {noted : List Recovery}
    (goesOn : ∀ lastStop, ∃ last, statements ⟨false, capabilities⟩ ⟨separator :: rest, lastStop⟩ =
      .done program last noted)
    {cursor cursor' last : Cursor} {body : List Stmt}
    (beside : (Fork.atSeparator capabilities ends separates rest).Beside cursor cursor')
    (clean : statements ⟨false, capabilities⟩ cursor = .done body last []) :
    ∃ last, statements ⟨false, capabilities⟩ cursor' = .done (body ++ program) last noted := by
  induction ahead : cursor.rest.length using Nat.strongRecOn
      generalizing cursor cursor' body last with
  | ind length ih =>
      subst ahead
      by_cases finish : cursor.current.kind = .finish
      · -- the left reader has come to the fork, where the right one finds the separator
        rw [statements_atEnd (by simp [Cursor.atEnd, finish])] at clean
        obtain ⟨rfl, _, _⟩ := Reading.done.inj clean
        rcases beside.cases with ⟨_, ahead'⟩ | ⟨token, _, shared, ahead, _⟩
        · obtain ⟨tokens, lastStop⟩ := cursor'
          obtain rfl : tokens = separator :: rest := ahead'
          exact goesOn lastStop
        · refine absurd ?_ (shared token List.mem_cons_self).1
          simpa [Cursor.current, Cursor.ahead, ahead] using finish
      · have open' : cursor.atEnd = false := by simpa [Cursor.atEnd] using finish
        rw [statements_apply open'] at clean
        obtain ⟨first, middle, read, clean⟩ := Reading.andThen_clean clean
        obtain ⟨more, _, later, clean⟩ := Reading.andThen_clean clean
        obtain ⟨rfl, _, _⟩ := Reading.done.inj clean
        obtain ⟨shorter, later⟩ := statementsWithin_granted later
        have inners : FollowsInside (.atSeparator capabilities ends separates rest)
            (statementsWithin cursor) (statementsWithin cursor') :=
          statementsWithin_inside beside.length_le
        -- an output could only take more behind the fork if its parenthesis were not closed
        have closed := fun leads => closed_of_output leads read later
        obtain ⟨_, middle', read', beside'⟩ :=
          statement_follows inners beside finish (fun _ => closed) read (Or.inl rfl)
        obtain ⟨last', later'⟩ := ih _ shorter beside' later rfl
        have shorter' := (beside'.shorter_iff beside).mpr shorter
        have open'' : cursor'.atEnd = false := by
          rw [Cursor.atEnd, beside.current_eq finish]
          exact open'
        have whole := statements_cons open'' read' shorter' later'
        exact ⟨last', by rw [List.append_assoc]; exact whole⟩

end

end Grammar

open Grammar

namespace Program

/-- A separator separates: what is read without a note in front of it, and whatever follows it, is
read together as both are alone. -/
theorem ofTokens_separated {capabilities : Capabilities} {tokens : List Token} {body : Program}
    (inner : ∀ token ∈ tokens, token.kind ≠ .finish)
    (clean : Program.ofTokens ⟨false, capabilities⟩ tokens = .ok (body, []))
    (separator : Spot) {rest : List Token} {program : Program} {noted : List Recovery}
    (alone : Program.ofTokens ⟨false, capabilities⟩ rest = .ok (program, noted)) :
    Program.ofTokens ⟨false, capabilities⟩ (tokens ++ separator.token .symbol ";" :: rest) =
      .ok (body ++ program, noted) := by
  obtain ⟨finish, ends, closed⟩ := Token.close_open inner
  obtain ⟨last, read⟩ := statements_of_ofTokens clean
  obtain ⟨behind, found⟩ : ∃ behind, Token.close (separator.token .symbol ";" :: rest) =
      separator.token .symbol ";" :: behind := by
    simp only [Token.close, List.getLast?_cons]
    split
    · exact ⟨rest, rfl⟩
    · exact ⟨_, rfl⟩
  have goesOn : ∀ lastStop, ∃ last, statements ⟨false, capabilities⟩
      ⟨separator.token .symbol ";" :: behind, lastStop⟩ = .done program last noted :=
    found ▸ statements_separated alone separator
  have beside : (Fork.atSeparator capabilities ends rfl behind).Beside
      (.ofTokens (tokens ++ [finish]))
      (.ofTokens (tokens ++ separator.token .symbol ";" :: behind)) :=
    ⟨⟨tokens, fun token here => ⟨inner token here, fun _ => trivial⟩, rfl, rfl⟩, rfl⟩
  obtain ⟨last', whole⟩ := statements_followed goesOn beside (closed ▸ read)
  rw [← found, ← Token.close_append _ (List.cons_ne_nil _ rest)] at whole
  exact ofTokens_of_statements whole

/-- A conditional, and, behind a place for a separator, a branch that would be its other one. -/
def conditionalInFront : List Token := (Token.scan "if a \x7b say 1 \x7d").dropLast

def branchBehind : List Token := Token.scan "                 else \x7b say 2 \x7d"

/-- The separator keeps the branch from the conditional. -/
theorem branch_behind_separator :
    ∃ body program noted,
      Program.ofTokens ⟨false, .standard⟩ conditionalInFront = .ok (body, []) ∧
        Program.ofTokens ⟨false, .standard⟩ branchBehind = .ok (program, noted) ∧
        noted.map (·.flaw) = [.elseWithoutIf "else"] ∧
        Program.ofTokens ⟨false, .standard⟩
            (conditionalInFront ++ (Spot.onFirstLine 15 1).token .symbol ";" :: branchBehind) =
          .ok (body ++ program, noted) := by
  obtain ⟨body, none, read⟩ := ofTokens_lenient .standard conditionalInFront
  have quiet : (Program.ofTokens ⟨false, .standard⟩ conditionalInFront).toOption.map Prod.snd =
      some [] := by decide +kernel
  rw [read] at quiet
  obtain rfl := Option.some.inj quiet
  obtain ⟨program, noted, alone⟩ := ofTokens_lenient .standard branchBehind
  have flaws : (Program.ofTokens ⟨false, .standard⟩ branchBehind).toOption.map
      (fun read => read.2.map (·.flaw)) = some [.elseWithoutIf "else"] := by decide +kernel
  rw [alone] at flaws
  have open' : ∀ token ∈ conditionalInFront, token.kind ≠ .finish := by decide +kernel
  exact ⟨body, program, noted, read, alone, Option.some.inj flaws,
    ofTokens_separated open' read (.onFirstLine 15 1) alone⟩

end Program

end Parlance
