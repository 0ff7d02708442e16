import Parlance.Proofs.Progress.Block
import Parlance.Proofs.Progress.Expression

/-!
The rules for statements make progress. Every statement takes a token unless the tokens close, so
the statements of a program, and of every block, are read one after the other up to where the
tokens close.
-/

namespace Parlance.Grammar

open Rule

section

variable {capabilities : Capabilities} {bound : Nat} {cursor : Cursor} {taking : Bool}

theorem nameFor_steady (role : Named) :
    SteadyLoop capabilities bound (nameFor role) (nameFor role) := by
  intro cursor below
  apply Steady.here
  split
  · rename_i name
    apply Steady.next below.succ (Token.ne_finish_of_isName name)
    intro _
    exact .pure _
  · exact .recover below.closed (.pure none)

theorem accept_steady (keyword : Keyword) :
    SteadyLoop capabilities bound (accept keyword) (accept keyword) := by
  intro cursor below
  have steady : Steady capabilities false cursor (accept keyword >>= pure)
      (accept keyword >>= pure) := .accept below.succ (fun _ => .pure true) (.pure false)
  exact steady.of_reads (Reading.andThen_done _).symm (Reading.andThen_done _).symm

theorem expression_loop : SteadyLoop capabilities bound expression expression :=
  (expression_steady bound).weaken

theorem Cursor.ne_finish_of_isAt {keyword : Keyword} (found : cursor.isAt keyword = true) :
    cursor.current.kind ≠ .finish :=
  Token.ne_finish_of_keyword? (of_decide_eq_true found)

variable {inner inner' : Rule (List Stmt)} (inners : SteadyLoop capabilities bound inner inner')

include inners in
theorem block_steady (stopAtElse : Bool) (below : cursor.Below (bound + 1))
    (other : cursor.current.kind ≠ .finish) :
    Steady capabilities taking cursor (block inner stopAtElse) (block inner' stopAtElse) := by
  apply Steady.next below other
  intro below
  split
  · apply Steady.acceptSymbol below.succ
    · intro below
      exact blockBody_steady inners stopAtElse _ _ below
    · exact blockBody_steady inners stopAtElse _ _ below
  · exact blockBody_steady inners stopAtElse _ _ below

include inners in
theorem blockAfter_steady (head : Token) (what : Head) :
    SteadyLoop capabilities bound (blockAfter inner head what) (blockAfter inner' head what) := by
  intro cursor below
  apply Steady.here
  split
  · rename_i opens
    exact block_steady inners false below.succ (Cursor.ne_finish_of_isAt opens)
  · exact .recover below.closed (.pure _)

/-! ### Declarations and assignments -/

theorem declared_steady (head : Token) :
    SteadyLoop capabilities bound (declaration.declared head) (declaration.declared head) := by
  intro cursor below
  apply Steady.bind below (nameFor_steady .declaration cursor below)
  intro name next below
  cases name with
  | none => exact .pure none
  | some name =>
      apply Steady.accept below.succ
      · intro below
        apply Steady.bind below (expression_loop _ below)
        intro initial _ _
        exact .pure _
      simp only [Bool.false_eq_true, ↓reduceIte]
      apply Steady.here
      split
      · exact .recover below.closed (.pure _)
      · exact .pure _

section

variable (below : cursor.Below (bound + 1)) (other : cursor.current.kind ≠ .finish)

include below other in
theorem declaration_steady : Steady capabilities true cursor declaration declaration := by
  apply Steady.next below other
  intro below
  apply Steady.here
  split
  · rename_i typed
    simp only [Bool.and_eq_true] at typed
    apply Steady.next below.succ (Cursor.ne_finish_of_isAt typed.1)
    intro below
    exact declared_steady _ _ below
  · exact declared_steady _ _ below

include below other in
theorem assignment_steady : Steady capabilities true cursor assignment assignment := by
  apply Steady.next below other
  intro below
  split
  · apply Steady.bind below (expression_loop _ below)
    intro value next below
    apply Steady.accept below.succ
    · intro below
      apply Steady.bind below (nameFor_steady .assignment _ below)
      intro name _ _
      cases name with
      | none => exact .pure none
      | some name => exact .pure _
    · exact .recover below.closed (.pure none)
  · apply Steady.bind below (nameFor_steady .assignment _ below)
    intro name next below
    cases name with
    | none => exact .pure none
    | some name =>
        apply Steady.accept below.succ
        · intro below
          apply Steady.bind below (expression_loop _ below)
          intro value _ _
          exact .pure _
        · exact .recover below.closed (.pure none)

include below other in
theorem bareAssignment_steady (ahead : (cursor.ahead 1).kind ≠ .finish) :
    Steady capabilities true cursor bareAssignment bareAssignment := by
  apply Steady.next below other
  intro below
  apply Steady.next below.succ
  · rw [Cursor.current, cursor.ahead_advance 0 other]
    exact ahead
  intro below
  apply Steady.bind below (expression_loop _ below)
  intro value _ _
  exact .pure _

end

/-! ### Functions -/

theorem parameters_steady (exprs : List Expr) :
    SteadyLoop capabilities bound (parameters exprs) (parameters exprs) := by
  intro cursor below
  induction exprs with
  | nil => exact .pure []
  | cons expr rest ih =>
      cases expr with
      | ident name place =>
          apply Steady.bind below ih
          intro more _ _
          exact .pure _
      | literal _ _ | call _ _ _ _ | binary _ _ _ _ | unary _ _ _ | list _ _ | map _ _
      | index _ _ _ => exact .recover below.closed ih

theorem bareParameters_round_steady (below : cursor.Below bound)
    {self self' : Unit → Rule (List Param)}
    (selves : ∀ goal, SteadyLoop capabilities cursor.rest.length (self goal) (self' goal)) :
    Steady capabilities false cursor (bareParameters.round self ())
      (bareParameters.round self' ()) := by
  apply Steady.here
  split
  · rename_i name
    apply Steady.next below.here (Token.ne_finish_of_isName name)
    intro nearer
    apply Steady.bind nearer (selves () _ nearer)
    intro more _ _
    exact .pure _
  · exact .pure []

theorem bareParameters_steady : SteadyLoop capabilities bound bareParameters bareParameters := by
  refine steady_tie ?_ ()
  intro cursor below self self' selves _
  exact bareParameters_round_steady below selves

theorem parameterList_steady : SteadyLoop capabilities bound parameterList parameterList := by
  intro cursor below
  apply Steady.here
  split
  · rename_i paren
    apply Steady.bind below (parenArguments_steady (expression_steady bound) below.succ paren)
    intro arguments next below
    exact parameters_steady arguments next below
  · exact bareParameters_steady cursor below

theorem aliasName_steady : SteadyLoop capabilities bound aliasName aliasName := by
  intro cursor below
  apply Steady.accept below.succ
  · intro below
    apply Steady.bind below (nameFor_steady .byname _ below)
    intro name _ _
    exact .pure _
  · exact .pure none

include inners in
theorem definition_steady (below : cursor.Below (bound + 1))
    (other : cursor.current.kind ≠ .finish) :
    Steady capabilities true cursor (definition inner) (definition inner') := by
  apply Steady.next below other
  intro below
  apply Steady.bind below (nameFor_steady .function _ below)
  intro name next below
  apply Steady.bind below (parameterList_steady next below)
  intro params next below
  apply Steady.bind below (aliasName_steady next below)
  intro byname next below
  apply Steady.bind below (blockAfter_steady inners _ .function next below)
  intro body _ _
  exact .pure _

/-! ### Conditionals -/

theorem furtherHead?_steady (word : Token) :
    SteadyLoop capabilities bound (furtherHead? word) (furtherHead? word) := by
  intro cursor below
  apply Steady.here
  split
  · exact .pure _
  · split
    · rename_i again
      apply Steady.next below.succ (Cursor.ne_finish_of_isAt again)
      intro _
      exact .pure _
    · exact .pure none

theorem sharedBranch_round_atEnd (ends : cursor.atEnd = true) (self : Unit → Rule Branch)
    (mode : Mode) :
    sharedBranch.round inner self () mode cursor =
      (blockBody inner false cursor.current >>= fun body =>
        pure (Branch.block body.body body.place)) mode cursor := by
  have finish : cursor.current.kind = .finish := of_decide_eq_true ends
  have none : cursor.current.keyword? = none := by simp [Token.keyword?, finish]
  have stays := Cursor.advance_atEnd ends
  simp [sharedBranch.round, next, stays, furtherHead?, here, Cursor.isAt, none]

include inners in
theorem sharedBranch_round_steady (below : cursor.Below bound) {self self' : Unit → Rule Branch}
    (selves : ∀ goal, SteadyLoop capabilities cursor.rest.length (self goal) (self' goal)) :
    Steady capabilities false cursor (sharedBranch.round inner self ())
      (sharedBranch.round inner' self' ()) := by
  have inners' := inners.mono (Nat.le_of_lt below.shorter)
  -- where the tokens close no word is taken, but there the round is left
  by_cases ends : cursor.atEnd = true
  · have steady : Steady capabilities false cursor
        (blockBody inner false cursor.current >>= fun body =>
          pure (Branch.block body.body body.place))
        (blockBody inner' false cursor.current >>= fun body =>
          pure (Branch.block body.body body.place)) := by
      apply Steady.bind below (blockBody_steady inners false _ cursor below)
      intro body _ _
      exact .pure _
    exact steady.of_reads (sharedBranch_round_atEnd ends self _)
      (sharedBranch_round_atEnd ends self' _)
  · apply Steady.next below.here (by simpa [Cursor.atEnd] using ends)
    intro nearer
    apply Steady.bind nearer (furtherHead?_steady _ _ nearer)
    intro head next nearer
    cases head with
    | none =>
        apply Steady.bind nearer (blockBody_steady inners' false _ next nearer)
        intro body _ _
        exact .pure _
    | some head =>
        apply Steady.bind nearer (expression_loop _ nearer)
        intro guard next nearer
        apply Steady.bind nearer (accept_steady .blockOpen _ nearer)
        intro _ next nearer
        apply Steady.bind nearer (blockBody_steady inners' true head next nearer)
        intro body next nearer
        split
        · apply Steady.bind nearer (selves () next nearer)
          intro branch _ _
          exact .pure _
        · exact .pure _

include inners in
theorem sharedBranch_steady :
    SteadyLoop capabilities bound (sharedBranch inner) (sharedBranch inner') := by
  refine steady_tie ?_ ()
  intro cursor below self self' selves _
  exact sharedBranch_round_steady inners below selves

include inners in
theorem ownBranch_steady (below : cursor.Below bound) {self self' : Token × Expr → Rule Conditional}
    (selves : ∀ goal, SteadyLoop capabilities cursor.rest.length (self goal) (self' goal)) :
    Steady capabilities false cursor (conditionalTail.ownBranch inner self)
      (conditionalTail.ownBranch inner' self') := by
  have inners' := inners.mono (Nat.le_of_lt below.shorter)
  apply Steady.here
  split
  · rename_i otherwise
    have other : cursor.current.kind ≠ .finish := by
      rcases Bool.or_eq_true_iff.mp otherwise with word | word
      · exact Cursor.ne_finish_of_isAt word
      · exact Cursor.ne_finish_of_isAt word
    -- the word is taken, so whatever stands behind it is nearer to the end
    apply Steady.next below.here other
    intro nearer
    apply Steady.bind nearer (furtherHead?_steady _ _ nearer)
    intro head next nearer
    cases head with
    | some head =>
        apply Steady.bind nearer (expression_loop _ nearer)
        intro guard next nearer
        apply Steady.bind nearer (selves (head, guard) next nearer)
        intro further _ _
        exact .pure _
    | none =>
        apply Steady.here
        split
        · rename_i opens
          apply Steady.bind nearer
            (block_steady inners' false nearer.succ (Cursor.ne_finish_of_isAt opens))
          intro body _ _
          exact .pure _
        · exact .recover nearer.closed (.pure Branch.absent)
  · exact .pure Branch.absent

include inners in
theorem conditionalTail_round_steady (below : cursor.Below bound)
    {self self' : Token × Expr → Rule Conditional}
    (selves : ∀ goal, SteadyLoop capabilities cursor.rest.length (self goal) (self' goal))
    (goal : Token × Expr) :
    Steady capabilities false cursor (conditionalTail.round inner self goal)
      (conditionalTail.round inner' self' goal) := by
  have inners' := inners.mono (Nat.le_of_lt below.shorter)
  apply Steady.here
  split
  · rename_i opens
    have first : Steady capabilities true cursor (block inner true) (block inner' true) :=
      block_steady inners' true below.here (Cursor.ne_finish_of_isAt opens)
    apply Steady.bind_taken below.here first
    intro body next nearer
    split
    · apply Steady.bind nearer (sharedBranch_steady inners' next nearer)
      intro branch _ _
      exact .pure _
    · -- behind its opener a block leaves fewer tokens, and a further conditional fewer still
      have within := fun goal => (selves goal).mono (Nat.le_of_lt nearer.shorter)
      apply Steady.bind nearer (ownBranch_steady inners' nearer within)
      intro branch _ _
      exact .pure _
  · exact .recover below.closed (.pure _)

include inners in
theorem conditionalTail_steady (goal : Token × Expr) :
    SteadyLoop capabilities bound (conditionalTail inner goal) (conditionalTail inner' goal) := by
  refine steady_tie ?_ goal
  intro cursor below self self' selves goal
  exact conditionalTail_round_steady inners below selves goal

include inners in
theorem conditional_steady (below : cursor.Below (bound + 1))
    (other : cursor.current.kind ≠ .finish) :
    Steady capabilities true cursor (conditional inner) (conditional inner') := by
  apply Steady.next below other
  intro below
  apply Steady.bind below (expression_loop _ below)
  intro guard next below
  apply Steady.bind below (conditionalTail_steady inners (_, guard) next below)
  intro read _ _
  exact .pure _

/-! ### Loops -/

include inners in
theorem eachTail_steady (head : Token) :
    SteadyLoop capabilities bound (eachTail inner head) (eachTail inner' head) := by
  have bodies : ∀ item, SteadyLoop capabilities bound (eachTail.eachBody inner head item)
      (eachTail.eachBody inner' head item) := by
    intro item cursor below
    apply Steady.bind below (expression_loop _ below)
    intro list next below
    apply Steady.bind below (blockAfter_steady inners head .each next below)
    intro body _ _
    exact .pure _
  intro cursor below
  apply Steady.bind below (nameFor_steady .loopItem _ below)
  intro item next below
  apply Steady.accept below.succ
  · exact bodies item _
  · exact .recover below.closed (bodies item next below)

section

variable (below : cursor.Below (bound + 1)) (other : cursor.current.kind ≠ .finish)

include inners below other in
theorem eachLoop_steady : Steady capabilities true cursor (eachLoop inner) (eachLoop inner') := by
  apply Steady.next below other
  intro below
  exact eachTail_steady inners _ _ below

include inners below other in
theorem guardLoop_steady :
    Steady capabilities true cursor (guardLoop inner) (guardLoop inner') := by
  apply Steady.next below other
  intro below
  apply Steady.bind below (expression_loop _ below)
  intro guard next below
  apply Steady.bind below (blockAfter_steady inners _ .loopGuard next below)
  intro body _ _
  exact .pure _

include inners below other in
theorem loop_steady : Steady capabilities true cursor (loop inner) (loop inner') := by
  apply Steady.next below other
  intro below
  apply Steady.here
  split
  · rename_i guarded
    exact (guardLoop_steady inners below.succ (Cursor.ne_finish_of_isAt guarded)).weaken
  · split
    · rename_i each
      exact (eachLoop_steady inners below.succ (Cursor.ne_finish_of_isAt each)).weaken
    · split
      · exact eachTail_steady inners _ _ below
      · apply Steady.bind below (expression_loop _ below)
        intro rounds next below
        apply Steady.bind below (accept_steady .mul _ below)
        intro _ next below
        apply Steady.bind below (blockAfter_steady inners _ .loopCount next below)
        intro body _ _
        exact .pure _

end

/-! ### Other statements -/

section

variable (below : cursor.Below (bound + 1)) (other : cursor.current.kind ≠ .finish)

include below other in
theorem giveBack_steady : Steady capabilities true cursor giveBack giveBack := by
  apply Steady.next below other
  intro below
  apply Steady.here
  split
  · apply Steady.bind below (expression_loop _ below)
    intro value _ _
    exact .pure _
  · exact .pure _

theorem outputArguments_steady (head : Token) :
    SteadyLoop capabilities bound (outputArguments head) (outputArguments head) := by
  intro cursor below
  apply argument?_bind (expression_steady bound) below
  · intro first next nearer
    apply argument?_bind (expression_steady cursor.rest.length) nearer
    · intro second _ _
      exact .pure _
    · exact .pure _
  · exact .pure []

include below other in
theorem output_steady : Steady capabilities true cursor output output := by
  apply Steady.next below other
  intro below
  apply Steady.here
  split
  · rename_i parens
    simp only [Cursor.atOutputParens, Bool.and_eq_true] at parens
    apply Steady.bind below (parenArguments_steady (expression_steady bound) below.succ parens.1)
    intro arguments _ _
    exact .pure _
  · apply Steady.bind below (outputArguments_steady _ _ below)
    intro arguments _ _
    exact .pure _

include below other in
theorem passOver_steady (flaw : String → Flaw) :
    Steady capabilities true cursor (passOver flaw) (passOver flaw) := by
  apply Steady.here
  apply Steady.recover below.closed
  apply Steady.next below other
  intro _
  exact .pure none

include below other in
theorem plainStatement_steady :
    Steady capabilities true cursor plainStatement plainStatement := by
  apply Steady.here
  dsimp only
  split
  · apply Steady.next below other
    intro _
    exact .pure none
  · split
    · rename_i assigns
      simp only [Bool.and_eq_true, decide_eq_true_eq] at assigns
      exact (bareAssignment_steady below other (Token.ne_finish_of_keyword? assigns.2)).map _ below
    · split
      · rename_i starts
        have argument : cursor.current.startsArgument = true := by
          simp [Token.startsArgument, starts]
        apply Steady.bind below ((expression_steady _).takes below argument)
        intro value _ _
        exact .pure _
      · exact passOver_steady below other _

include inners below other in
/-- Every statement takes a token. -/
theorem statement_steady :
    Steady capabilities true cursor (statement inner) (statement inner') := by
  apply Steady.here
  cases lead cursor.current with
  | declaration => exact declaration_steady below other
  | definition => exact (definition_steady inners below other).map _ below
  | conditional => exact (conditional_steady inners below other).map _ below
  | loop => exact (loop_steady inners below other).map _ below
  | whileLoop => exact (guardLoop_steady inners below other).map _ below
  | each => exact (eachLoop_steady inners below other).map _ below
  | giveBack => exact (giveBack_steady below other).map _ below
  | output => exact (output_steady below other).map _ below
  | assignment => exact assignment_steady below other
  | block =>
      apply Steady.bind below (block_steady inners false below other)
      intro read _ _
      exact .pure _
  | closer => exact passOver_steady below other _
  | otherwise => exact passOver_steady below other _
  | plain => exact plainStatement_steady below other

end

end

section

variable {capabilities : Capabilities} {bound : Nat} {cursor : Cursor}

theorem statements_round_steady (below : cursor.Below bound) {self self' : Unit → Rule (List Stmt)}
    (selves : ∀ goal, SteadyLoop capabilities cursor.rest.length (self goal) (self' goal)) :
    Steady capabilities false cursor (statements.round self ()) (statements.round self' ()) := by
  apply Steady.here
  split
  · exact .pure []
  · rename_i open'
    have other : cursor.current.kind ≠ .finish := by simpa [Cursor.atEnd] using open'
    apply Steady.bind_taken below.here (statement_steady (selves ()) below.here other)
    intro first next nearer
    apply Steady.bind nearer (selves () next nearer)
    intro more _ _
    exact .pure _

/-- Whatever the tokens, as long as they close, statements are read. -/
theorem statements_steady (bound : Nat) : SteadyLoop capabilities bound statements statements := by
  refine steady_tie ?_ ()
  intro cursor below self self' selves _
  exact statements_round_steady below selves

end

end Parlance.Grammar
