import Parlance.Proofs.Reading.Statement

/-!
Whole programs. A lenient reader makes a program of any tokens. Where the tokens close and what
stands before them makes no difference to what is read without recoveries.
-/

namespace Parlance

namespace Grammar

def Pairing.lenient (capabilities : Capabilities) (exact : Bool) : Pairing :=
  ⟨capabilities, false, exact⟩

/-- The statements that may be read by a statement that begins at the cursor, or behind it. -/
def statementsWithin (start : Cursor) : Rule (List Stmt) :=
  Rule.granted start (fun _ => statements) (fun _ => statements.noStatement) ()

theorem statementsWithin_shorter {start cursor : Cursor}
    (shorter : cursor.rest.length < start.rest.length) (mode : Mode) :
    statementsWithin start mode cursor = statements mode cursor := by
  simp [statementsWithin, Rule.granted, shorter]

theorem statements_atEnd {cursor : Cursor} (ends : cursor.atEnd = true) (mode : Mode) :
    statements mode cursor = .done [] cursor [] := by
  rw [statements, Rule.tie_apply]
  simp [statements.round, Rule.here, ends]

theorem statements_apply {cursor : Cursor} (open' : cursor.atEnd = false) (mode : Mode) :
    statements mode cursor =
      (statement (statementsWithin cursor) mode cursor).andThen fun first next =>
        (statementsWithin cursor mode next).andThen fun more last =>
          .done (first.toList ++ more) last [] := by
  rw [statements, Rule.tie_apply]
  simp only [statements.round, Rule.bind_apply, Rule.here, Reading.done_andThen, open',
    Bool.false_eq_true, ↓reduceIte]
  rfl

theorem statements_cons {cursor next last : Cursor} {mode : Mode} {first : Option Stmt}
    {more : List Stmt} {noted later : List Recovery} (open' : cursor.atEnd = false)
    (read : statement (statementsWithin cursor) mode cursor = .done first next noted)
    (shorter : next.rest.length < cursor.rest.length)
    (goesOn : statements mode next = .done more last later) :
    statements mode cursor = .done (first.toList ++ more) last (noted ++ later) := by
  rw [statements_apply open', read]
  simp [Reading.andThen, statementsWithin_shorter shorter, goesOn]

/-! ### Separators -/

section

variable {mode : Mode} {cursor : Cursor}

theorem lead_separator (separator : (cursor.isAtSymbol ";" || cursor.isAtSymbol ",") = true) :
    lead cursor.current = .plain := by
  have semicolon : Keyword.ofSpelling? ";" = none := Keyword.ofSpelling?_of_mark (by decide)
  have comma : Keyword.ofSpelling? "," = none := Keyword.ofSpelling?_of_mark (by decide)
  simp only [Cursor.isAtSymbol, Token.isSymbol, Bool.or_eq_true, Bool.and_eq_true,
    decide_eq_true_eq] at separator
  rcases separator with ⟨kind, lexeme⟩ | ⟨kind, lexeme⟩
  · simp [lead, Token.keyword?, kind, lexeme, semicolon]
  · simp [lead, Token.keyword?, kind, lexeme, comma]

theorem statement_separator (inner : Rule (List Stmt))
    (separator : (cursor.isAtSymbol ";" || cursor.isAtSymbol ",") = true) :
    statement inner mode cursor = .done none cursor.advance [] := by
  have leads := lead_separator separator
  simp only [Cursor.isAtSymbol] at separator
  simp only [statement, Rule.bind_apply, Rule.here, Reading.done_andThen, leads, plainStatement,
    separator, ↓reduceIte]
  rfl

theorem statements_separator (separator : (cursor.isAtSymbol ";" || cursor.isAtSymbol ",") = true) :
    statements mode cursor = statements mode cursor.advance := by
  have open' : cursor.atEnd = false := by
    by_contra ends
    rw [Bool.not_eq_false] at ends
    simp only [Cursor.atEnd, decide_eq_true_eq] at ends
    simp [Cursor.isAtSymbol, Token.isSymbol, ends] at separator
  rw [statements_apply open', statement_separator _ separator, Reading.done_andThen,
    statementsWithin_shorter (cursor.advance_shorter open')]
  exact Reading.andThen_done _

end

theorem statements_lenient (capabilities : Capabilities) (cursor : Cursor) :
    ∃ program next recoveries,
      statements ⟨false, capabilities⟩ cursor = .done program next recoveries ∧
        next.rest <:+ cursor.rest := by
  have agree : Agree (.lenient capabilities true) _ true statements statements := statements_agree
  exact (agree.forward cursor).done

end Grammar

namespace Token

/-- Tokens without a closing one among them get one behind them. -/
theorem close_open {tokens : List Token} (inner : ∀ token ∈ tokens, token.kind ≠ .finish) :
    ∃ finish : Token, finish.kind = .finish ∧ close tokens = tokens ++ [finish] := by
  simp only [close]
  cases last : tokens.getLast? with
  | none =>
      obtain rfl := List.getLast?_eq_none_iff.mp last
      exact ⟨_, rfl, rfl⟩
  | some token =>
      have other := inner token (List.mem_of_getLast? last)
      simp only [other, ↓reduceIte]
      exact ⟨_, rfl, rfl⟩

/-- Tokens in front of others do not change how these are closed. -/
theorem close_append (front : List Token) {tokens : List Token} (some' : tokens ≠ []) :
    close (front ++ tokens) = front ++ close tokens := by
  obtain ⟨last, found⟩ := Option.ne_none_iff_exists'.mp (mt List.getLast?_eq_none_iff.mp some')
  simp only [close, List.getLast?_append, found, Option.some_or]
  split
  · rfl
  · rw [List.append_assoc]

end Token

open Grammar

/-- Whatever the tokens are, a lenient reader makes a program of them. -/
theorem Program.ofTokens_lenient (capabilities : Capabilities) (tokens : List Token) :
    ∃ program recoveries, Program.ofTokens ⟨false, capabilities⟩ tokens =
      .ok (program, recoveries) := by
  obtain ⟨program, next, recoveries, result, _⟩ :=
    statements_lenient capabilities (.ofTokens (Token.close tokens))
  exact ⟨program, recoveries, by simp [Program.ofTokens, result]⟩

theorem Program.statements_of_ofTokens {mode : Mode} {tokens : List Token} {program : Program}
    {noted : List Recovery} (read : Program.ofTokens mode tokens = .ok (program, noted)) :
    ∃ last, statements mode (.ofTokens (Token.close tokens)) = .done program last noted := by
  simp only [Program.ofTokens] at read
  split at read
  · rename_i result
    obtain ⟨rfl, rfl⟩ := Prod.mk.inj (Except.ok.inj read)
    exact ⟨_, result⟩
  · cases read

theorem Program.ofTokens_of_statements {mode : Mode} {tokens : List Token} {program : Program}
    {last : Cursor} {noted : List Recovery}
    (read : statements mode (.ofTokens (Token.close tokens)) = .done program last noted) :
    Program.ofTokens mode tokens = .ok (program, noted) := by
  simp [Program.ofTokens, read]

namespace Program

variable {capabilities : Capabilities} {tokens : List Token} {body : Program}

/-- A strict reader reads what a lenient one reads without a note, and refuses the first note that
a lenient one makes. -/
theorem ofTokens_strict {noted : List Recovery}
    (read : Program.ofTokens ⟨false, capabilities⟩ tokens = .ok (body, noted)) :
    Program.ofTokens ⟨true, capabilities⟩ tokens =
      match noted with
      | [] => .ok (body, [])
      | first :: _ => .error first := by
  obtain ⟨last, lenient⟩ := statements_of_ofTokens read
  have near : Near ⟨capabilities, true, true⟩ false (.ofTokens (Token.close tokens))
      (.ofTokens (Token.close tokens)) := Near.refl _ _ _
  have met := statements_agree.meets _ _ near
  simp only [Pairing.left, Pairing.right, lenient] at met
  cases noted with
  | nil =>
      obtain ⟨last', strict, _⟩ := met
      exact ofTokens_of_statements strict
  | cons first rest =>
      have strict := met rfl
      simp only [↓reduceIte] at strict
      simp [Program.ofTokens, strict]

/-- A program that is read without a note is read so wherever its tokens are closed. -/
theorem statements_reclosed (inner : ∀ token ∈ tokens, token.kind ≠ .finish)
    (clean : Program.ofTokens ⟨false, capabilities⟩ tokens = .ok (body, []))
    {finish : Token} (ends : finish.kind = .finish) :
    ∃ last, statements ⟨false, capabilities⟩ (.ofTokens (tokens ++ [finish])) =
      .done body last [] := by
  obtain ⟨last, read⟩ := statements_of_ofTokens clean
  obtain ⟨finish', ends', closed⟩ := Token.close_open inner
  have near : Near (.lenient capabilities false) false (.ofTokens (Token.close tokens))
      (.ofTokens (tokens ++ [finish])) := by
    rw [closed]
    refine ⟨List.rel_append (tokensAlike_refl _ tokens) (.cons ?_ .nil), fun held => nomatch held⟩
    exact Or.inr ⟨rfl, ends', ends⟩
  have met := statements_agree.meets _ _ near
  simp only [Pairing.left, Pairing.right, Pairing.lenient, read] at met
  obtain ⟨last', read', _⟩ := met
  exact ⟨last', read'⟩

/-- A program is read alike whatever stands before it. -/
theorem statements_behind {program : Program} {noted : List Recovery} {last : Cursor}
    (read : statements ⟨false, capabilities⟩ (.ofTokens tokens) = .done program last noted)
    (lastStop : Nat) :
    ∃ last, statements ⟨false, capabilities⟩ ⟨tokens, lastStop⟩ = .done program last noted := by
  have near : Near (.lenient capabilities true) false (.ofTokens tokens) ⟨tokens, lastStop⟩ :=
    ⟨tokensAlike_refl _ tokens, fun held => nomatch held⟩
  have met := statements_agree.meets _ _ near
  simp only [Pairing.left, Pairing.right, Pairing.lenient, read] at met
  cases noted with
  | nil =>
      obtain ⟨last', read', _⟩ := met
      exact ⟨last', read'⟩
  | cons first rest =>
      obtain ⟨last', read', _⟩ := met rfl
      exact ⟨last', read'⟩

end Program

end Parlance
