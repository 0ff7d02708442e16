import Parlance.Proofs.Progress.Statement
import Parlance.Proofs.Reading.Program
import Parlance.Proofs.Token.Number

/-!
Whole programs make progress. Whatever the tokens, a lenient reader comes to the first of them that
closes, and notes what it notes in the order of the text. A rule that calls itself does so only
behind a token that it took, so none of the last resorts is ever reached.
-/

namespace Parlance

namespace Grammar

open Rule

def AdvancesBelow (capabilities : Capabilities) {α : Type} (taking : Cursor → Bool) (bound : Nat)
    (rule : Rule α) : Prop :=
  ∀ cursor, cursor.Below bound →
    (rule ⟨false, capabilities⟩ cursor).Advances (taking cursor) cursor

/-- Each round of a rule that calls itself goes on ahead of where it begins, and it is left or calls
the rule where fewer tokens are ahead: a rule that is the same there may stand for it. -/
structure Progresses (capabilities : Capabilities) (taking : Cursor → Bool) {β γ : Type}
    (round : (γ → Rule β) → γ → Rule β) : Prop where
  advances : ∀ {cursor : Cursor} {self : γ → Rule β}, cursor.Closed →
    (∀ goal, AdvancesBelow capabilities taking cursor.rest.length (self goal)) →
      ∀ goal, (round self goal ⟨false, capabilities⟩ cursor).Advances (taking cursor) cursor
  same : ∀ {cursor : Cursor} {self self' : γ → Rule β}, cursor.Closed →
    (∀ goal, AdvancesBelow capabilities taking cursor.rest.length (self goal)) →
      (∀ goal next, next.Below cursor.rest.length →
        self' goal ⟨false, capabilities⟩ next = self goal ⟨false, capabilities⟩ next) →
        ∀ goal, round self' goal ⟨false, capabilities⟩ cursor =
          round self goal ⟨false, capabilities⟩ cursor

section

variable {capabilities : Capabilities} {taking : Cursor → Bool} {β γ : Type}
  {round : (γ → Rule β) → γ → Rule β}

theorem progresses_of_steady
    (rounds : ∀ cursor, cursor.Below (cursor.rest.length + 1) → ∀ self self',
      (∀ goal, SteadyBelow capabilities taking cursor.rest.length (self goal) (self' goal)) →
        ∀ goal, Steady capabilities (taking cursor) cursor (round self goal) (round self' goal)) :
    Progresses capabilities taking round where
  advances closed selves goal :=
    (rounds _ ⟨closed, Nat.lt_succ_self _⟩ _ _
      (fun goal next below => ⟨selves goal next below, rfl⟩) goal).advances
  same closed selves alike goal :=
    (rounds _ ⟨closed, Nat.lt_succ_self _⟩ _ _
      (fun goal next below => ⟨selves goal next below, alike goal next below⟩) goal).same

namespace Progresses

variable (progresses : Progresses capabilities taking round) (resort : γ → Rule β)

include progresses in
theorem tie_advances (goal : γ) (bound : Nat) :
    AdvancesBelow capabilities taking bound (tie resort round goal) := by
  -- the induction is on the tokens ahead; the calls that are granted are those below the cursor
  induction bound generalizing goal with
  | zero => exact fun cursor below => absurd below.shorter (Nat.not_lt_zero _)
  | succ bound ih =>
      intro cursor below
      rw [tie_apply]
      refine progresses.advances below.closed ?_ goal
      intro goal next nearer
      simp only [granted, nearer.shorter, ↓reduceIte]
      exact ih goal next (nearer.mono (Nat.lt_succ_iff.mp below.shorter))

include progresses in
theorem tie_eq {cursor : Cursor} (closed : cursor.Closed) (goal : γ) :
    tie resort round goal ⟨false, capabilities⟩ cursor =
      round (tie resort round) goal ⟨false, capabilities⟩ cursor := by
  rw [tie_apply]
  refine progresses.same closed (fun goal => progresses.tie_advances resort goal _) ?_ goal
  intro goal next nearer
  simp only [granted, nearer.shorter, ↓reduceIte]

include progresses in
theorem tie_resort (resort' : γ → Rule β) {cursor : Cursor} (closed : cursor.Closed) (goal : γ) :
    tie resort' round goal ⟨false, capabilities⟩ cursor =
      tie resort round goal ⟨false, capabilities⟩ cursor := by
  induction ahead : cursor.rest.length using Nat.strongRecOn generalizing goal cursor with
  | ind length ih =>
      subst ahead
      rw [progresses.tie_eq resort closed, progresses.tie_eq resort' closed]
      refine progresses.same closed (fun goal => progresses.tie_advances resort goal _) ?_ goal
      intro goal next nearer
      exact ih next.rest.length nearer.shorter nearer.closed goal rfl

end Progresses

end

/-! ### The loops -/

theorem argument?_takes {capabilities : Capabilities} {cursor : Cursor} (closed : cursor.Closed)
    (line : Nat) :
    argument? expression line ⟨false, capabilities⟩ cursor = .done none cursor [] ∨
      ∃ argument next noted, argument? expression line ⟨false, capabilities⟩ cursor =
        .done (some argument) next noted ∧ cursor.Reaches true next := by
  by_cases begins : ((cursor.current.startsExpression || cursor.atMap) &&
      cursor.isOnLine line) = true
  · have inners : SteadyInner capabilities (cursor.rest.length + 1) expression expression :=
      expression_steady _
    have takes := inners.takes ⟨closed, Nat.lt_succ_self _⟩
      (Cursor.startsArgument_of_argument begins)
    obtain ⟨argument, next, noted, read, reaches, _⟩ := takes.advances.done
    refine Or.inr ⟨argument, next, noted, ?_, reaches⟩
    simp only [argument?, bind_apply, here, begins, ↓reduceIte, read, Reading.andThen, pure_apply,
      List.nil_append, List.append_nil]
  · left
    simp only [argument?, bind_apply, here, Reading.done_andThen, begins, Bool.false_eq_true,
      ↓reduceIte, pure_apply]

/-- Every loop over tokens makes progress, and so does every other rule that calls itself. -/
structure LoopsProgress (capabilities : Capabilities) : Prop where
  statementLists : Progresses capabilities (fun _ => false) statements.round
  bracketedItems : ∀ symbol bracket inside,
    Progresses capabilities (fun _ => false) (items.round expression symbol bracket inside)
  spacedArguments : ∀ line,
    Progresses capabilities (fun _ => false) (spacedArguments.round expression line)
  outputArguments : ∀ line (cursor : Cursor), cursor.Closed →
    argument? expression line ⟨false, capabilities⟩ cursor = .done none cursor [] ∨
      ∃ argument next noted, argument? expression line ⟨false, capabilities⟩ cursor =
        .done (some argument) next noted ∧ cursor.Reaches true next
  mapEntries : Progresses capabilities (fun _ => false) (mapEntries.round expression)
  indexes : Progresses capabilities (fun _ => false) (indexes.round expression)
  operators : ∀ least, Progresses capabilities (fun _ => false) (operators.round expressionOf least)
  prefixOperators :
    Progresses capabilities (fun cursor => cursor.current.startsArgument) (unary.round expression)
  expressions :
    Progresses capabilities (fun cursor => cursor.current.startsArgument) expressionOf.round
  parameters : Progresses capabilities (fun _ => false) bareParameters.round
  sharedBranches : Progresses capabilities (fun _ => false) (sharedBranch.round statements)
  conditionals : Progresses capabilities (fun _ => false) (conditionalTail.round statements)

theorem loopsProgress (capabilities : Capabilities) : LoopsProgress capabilities where
  statementLists := progresses_of_steady fun _ below _ _ selves _ =>
    statements_round_steady below selves
  bracketedItems _ _ _ := progresses_of_steady fun _ below _ _ selves _ =>
    items_round_steady (expression_steady _) _ _ _ below selves
  spacedArguments _ := progresses_of_steady fun _ below _ _ selves _ =>
    spacedArguments_round_steady (expression_steady _) _ below selves
  outputArguments line _ closed := argument?_takes closed line
  mapEntries := progresses_of_steady fun _ below _ _ selves _ =>
    mapEntries_round_steady (expression_steady _) below selves
  indexes := progresses_of_steady fun cursor below _ _ selves target =>
    indexes_round_steady (expression_steady cursor.rest.length) below selves target
  operators least := progresses_of_steady fun cursor below _ _ selves left =>
    operators_round_steady (fun least => expressionOf_steady least cursor.rest.length) least below
      selves left
  prefixOperators := progresses_of_steady fun cursor below _ _ selves _ =>
    unary_round_steady (expression_steady cursor.rest.length) below selves
  expressions := progresses_of_steady fun _ below _ _ selves least =>
    expressionOf_round_steady below selves least
  parameters := progresses_of_steady fun _ below _ _ selves _ =>
    bareParameters_round_steady below selves
  sharedBranches := progresses_of_steady fun _ below _ _ selves _ =>
    sharedBranch_round_steady (statements_steady _) below selves
  conditionals := progresses_of_steady fun _ below _ _ selves goal =>
    conditionalTail_round_steady (statements_steady _) below selves goal

/-- From the cursor on statements are read up to the first token that closes, and what is noted is
in order if the tokens are. -/
def ReadToEnd (capabilities : Capabilities) (cursor : Cursor) : Prop :=
  ∃ body last noted, statements ⟨false, capabilities⟩ cursor = .done body last noted ∧
    cursor.Reaches false last ∧ last.atEnd = true ∧
    (Token.InOrder cursor.rest → noted.Pairwise fun earlier later => earlier.place ≤ later.place)

/-- The tokens that statements take come before the first that closes, one statement after the
other. -/
theorem statements_reach_end (capabilities : Capabilities) {cursor : Cursor}
    (closed : cursor.Closed) :
    ∃ body last noted, statements ⟨false, capabilities⟩ cursor = .done body last noted ∧
      last.atEnd = true := by
  induction ahead : cursor.rest.length using Nat.strongRecOn generalizing cursor with
  | ind length ih =>
      subst ahead
      by_cases ends : cursor.atEnd = true
      · exact ⟨[], cursor, [], statements_atEnd ends _, ends⟩
      · have open' : cursor.atEnd = false := by simpa using ends
        have below : cursor.Below (cursor.rest.length + 1) := ⟨closed, Nat.lt_succ_self _⟩
        have selves : SteadyLoop capabilities cursor.rest.length (statementsWithin cursor)
            (statementsWithin cursor) :=
          steady_granted _ _ (fun _ => statements_steady cursor.rest.length) ()
        have takes := statement_steady selves below (of_decide_eq_false open')
        obtain ⟨first, next, noted, read, reaches, _⟩ := takes.advances.done
        obtain ⟨more, last, later, goesOn, ends⟩ :=
          ih next.rest.length reaches.length_lt (reaches.closed closed) rfl
        exact ⟨_, last, _, statements_cons open' read reaches.length_lt goesOn, ends⟩

theorem Cursor.Closed.readToEnd {cursor : Cursor} (closed : cursor.Closed)
    (capabilities : Capabilities) : ReadToEnd capabilities cursor := by
  obtain ⟨body, last, noted, read, ends⟩ := statements_reach_end capabilities closed
  have steady : SteadyLoop capabilities (cursor.rest.length + 1) statements statements :=
    statements_steady _
  have advances := (steady cursor ⟨closed, Nat.lt_succ_self _⟩).advances
  rw [read] at advances
  exact ⟨body, last, noted, read, advances.1, ends, fun ordered => (advances.2 ordered).sorted⟩

end Grammar

namespace Token

def NumbersCut (tokens : List Token) : Prop :=
  ∀ token ∈ tokens, token.kind = .number →
    ∃ text, ∃ cut ∈ scan text, cut.kind = .number ∧ cut.lexeme = token.lexeme

theorem NumbersCut.numeral {tokens : List Token} (numbers : NumbersCut tokens) {token : Token}
    (member : token ∈ tokens) (number : token.kind = .number) :
    (Decimal.numeralValue? token.lexeme.toList).isSome = true := by
  obtain ⟨text, cut, found, number', same⟩ := numbers token member number
  rw [← same]
  exact numeral_of_scan text found number'

theorem close_closed (tokens : List Token) :
    (Grammar.Cursor.ofTokens (close tokens)).Closed := by
  simp only [close]
  split
  · exact ⟨_, List.mem_cons_self, rfl⟩
  · rename_i last found
    split
    · rename_i finish
      exact ⟨last, List.mem_of_getLast? found, finish⟩
    · exact ⟨_, List.mem_append_right _ List.mem_cons_self, rfl⟩

/-- The closing token that is added stands where the last one does. -/
theorem InOrder.close {tokens : List Token} (ordered : InOrder tokens) :
    InOrder (Token.close tokens) := by
  simp only [Token.close]
  split
  · exact List.pairwise_singleton _ _
  · rename_i last found
    split
    · exact ordered
    · obtain ⟨front, rfl⟩ := List.getLast?_eq_some_iff.mp found
      refine List.pairwise_append.mpr ⟨ordered, List.pairwise_singleton _ _, ?_⟩
      intro token member finish ends
      rw [List.mem_singleton.mp ends]
      rcases List.mem_append.mp member with early | here
      · exact (List.pairwise_append.mp ordered).2.2 token early last (List.mem_singleton.mpr rfl)
      · rw [List.mem_singleton.mp here]
        exact le_refl last.place

end Token

open Grammar

/-- A lenient reader makes a program of any tokens, and its notes come in the order of the text.
The statements of the program, and those of every block, are read up to the first token that closes;
no last resort is reached on the way, and no loop goes on without a token. -/
theorem Program.read_to_end (capabilities : Capabilities) {tokens : List Token}
    (numbers : Token.NumbersCut tokens) :
    (∀ token ∈ tokens, token.kind = .number →
        (Decimal.numeralValue? token.lexeme.toList).isSome = true) ∧
      (∃ program noted, Program.ofTokens ⟨false, capabilities⟩ tokens = .ok (program, noted) ∧
        (Token.InOrder tokens →
          noted.Pairwise fun earlier later => earlier.place ≤ later.place)) ∧
      ReadToEnd capabilities (.ofTokens (Token.close tokens)) ∧
      (∀ extent : Extent, ReadToEnd capabilities (.ofTokens extent.closedBody)) ∧
      (∀ resort cursor, cursor.Closed →
        Rule.tie resort statements.round () ⟨false, capabilities⟩ cursor =
          statements ⟨false, capabilities⟩ cursor) ∧
      (∀ resort least cursor, cursor.Closed →
        Rule.tie resort expressionOf.round least ⟨false, capabilities⟩ cursor =
          expressionOf least ⟨false, capabilities⟩ cursor) ∧
      LoopsProgress capabilities := by
  have loops := loopsProgress capabilities
  have whole := (Token.close_closed tokens).readToEnd capabilities
  refine ⟨fun token => numbers.numeral, ?_, whole, ?_, ?_, ?_, loops⟩
  · obtain ⟨program, last, noted, read, _, _, spread⟩ := whole
    exact ⟨program, noted, Program.ofTokens_of_statements read,
      fun ordered => spread ordered.close⟩
  · intro extent
    -- a body is closed by a mark of its own
    exact Cursor.Closed.readToEnd ⟨_, List.mem_append_right _ List.mem_cons_self, rfl⟩ capabilities
  · intro resort cursor closed
    exact loops.statementLists.tie_resort _ resort closed ()
  · intro resort least cursor closed
    exact loops.expressions.tie_resort _ resort closed least

def Program.brokenOff : List Token :=
  [⟨.keyword, "say", 0, ⟨1, 1⟩, 3⟩, ⟨.symbol, "\x7b", 4, ⟨1, 5⟩, 5⟩,
    ⟨.number, "1", 5, ⟨1, 6⟩, 6⟩, ⟨.symbol, ":", 6, ⟨1, 7⟩, 7⟩]

theorem Program.brokenOff_read_to_end :
    Token.NumbersCut brokenOff ∧ Token.InOrder brokenOff ∧
      ∃ program noted, Program.ofTokens ⟨false, .standard⟩ brokenOff = .ok (program, noted) ∧
        noted.Pairwise fun earlier later => earlier.place ≤ later.place := by
  have one : ∃ cut ∈ Token.scan "1", cut.kind = .number ∧ cut.lexeme = "1" := by decide +kernel
  have only : ∀ token ∈ brokenOff, token.kind = .number → token.lexeme = "1" := by decide
  have numbers : Token.NumbersCut brokenOff := by
    intro token member number
    rw [only token member number]
    exact ⟨"1", one⟩
  have ordered : Token.InOrder brokenOff := by decide
  obtain ⟨program, noted, read, sorted⟩ := (read_to_end .standard numbers).2.1
  exact ⟨numbers, ordered, program, noted, read, sorted ordered⟩

end Parlance
