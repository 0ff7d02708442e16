import Parlance.Proofs.Progress.Rule

/-!
The rules for expressions make progress. What can begin an argument makes the rule for expressions
take a token, so the loops over arguments, items and entries take one in each round or are left;
and a rule calls itself only behind a token that it took.
-/

namespace Parlance

open Grammar

namespace Token

/-- Of the keywords that begin an expression only the word for a call ends another. -/
theorem call_of_boundaryKeyword {keyword : Keyword} (begins : isExpressionKeyword keyword = true)
    (boundary : isBoundaryKeyword keyword = true) : keyword = .call := by
  revert begins boundary
  cases keyword <;> decide

/-- What can begin an argument begins an operand, unless it is a prefix operator; and no such
operator ends an expression. -/
theorem opening_ne_nothing {token : Token} (starts : token.startsArgument = true)
    (boundary : token.isBoundary = true) : opening token ≠ .nothing := by
  -- only a call and a sign both start an argument and end one; each of them opens an expression
  cases kind : token.kind with
  | number | string | identifier => simp [opening, kind]
  | finish => simp [startsArgument, startsExpression, isSymbol, kind] at starts
  | keyword =>
      have begins : token.keyword?.any isExpressionKeyword = true := by
        simpa [startsArgument, startsExpression, isSymbol, kind] using starts
      have ends : token.keyword?.any isBoundaryKeyword = true := by
        simpa [isBoundary, isBoundarySymbol, kind] using boundary
      obtain ⟨keyword, spelt, begins⟩ := (Option.any_eq_true _ _).mp begins
      rw [spelt, Option.any_some] at ends
      obtain rfl := call_of_boundaryKeyword begins ends
      simp [opening, kind, spelt]
  | symbol =>
      have spelt : token.keyword? = Keyword.ofSpelling? token.lexeme := by simp [keyword?, kind]
      have minus : Keyword.ofSpelling? "-" = some .sub := by decide +kernel
      have mark : Keyword.ofSpelling? "!" = some .not := by decide +kernel
      have paren : Keyword.ofSpelling? "(" = none := Keyword.ofSpelling?_of_mark (by decide)
      have bracket : Keyword.ofSpelling? "[" = none := Keyword.ofSpelling?_of_mark (by decide)
      have lexeme : token.lexeme ∈ ["(", "[", "-", "!", "\x7b"] := by
        simpa [startsArgument, startsExpression, isSymbol, kind, or_assoc] using starts
      simp only [List.mem_cons, List.not_mem_nil, or_false] at lexeme
      rcases lexeme with lexeme | lexeme | lexeme | lexeme | lexeme
      · simp [opening, kind, spelt, lexeme, paren, isSymbol]
      · simp [opening, kind, spelt, lexeme, bracket, isSymbol]
      · simp [isBoundary, isBoundarySymbol, kind, spelt, lexeme, minus, isBoundaryKeyword,
          Keyword.startsStatement] at boundary
      · simp [isBoundary, isBoundarySymbol, kind, spelt, lexeme, mark, isBoundaryKeyword,
          Keyword.startsStatement] at boundary
      · simp [opening, kind, spelt, lexeme, Keyword.ofSpelling?_blockOpen, isSymbol]

end Token

namespace Grammar

open Rule

/-- Rules for inner expressions that take a token wherever an argument can begin. -/
abbrev SteadyInner (capabilities : Capabilities) (bound : Nat) (inner inner' : Rule Expr) : Prop :=
  SteadyBelow capabilities (fun cursor => cursor.current.startsArgument) bound inner inner'

section

variable {capabilities : Capabilities} {bound : Nat} {cursor : Cursor} {inner inner' : Rule Expr}

theorem closing_steady (below : cursor.Below bound) (symbol : String) (bracket : Bracket) :
    Steady capabilities false cursor (closing symbol bracket) (closing symbol bracket) := by
  apply Steady.acceptSymbol below.here
  · intro _
    exact .pure ()
  · exact .noting _

variable (inners : SteadyInner capabilities bound inner inner')

include inners in
theorem items_round_steady (symbol : String) (bracket : Bracket) (inside : Inside)
    (below : cursor.Below bound) {self self' : Unit → Rule (List Expr)}
    (selves : ∀ goal, SteadyLoop capabilities cursor.rest.length (self goal) (self' goal)) :
    Steady capabilities false cursor (items.round inner symbol bracket inside self ())
      (items.round inner' symbol bracket inside self' ()) := by
  apply Steady.acceptSymbol below.here
  · intro _
    exact .pure []
  simp only [Bool.false_eq_true, ↓reduceIte]
  apply Steady.acceptSymbol below.here
  · intro nearer
    exact selves () _ nearer
  simp only [Bool.false_eq_true, ↓reduceIte]
  apply Steady.here
  split
  · rename_i starts
    -- the test that lets an item begin is the one under which an expression takes a token
    apply Steady.bind_taken below.here (inners.takes below starts)
    intro item next nearer
    apply Steady.bind nearer (selves () next nearer)
    intro more _ _
    exact .pure (item :: more)
  · split
    · exact .recover below.closed (.pure [])
    · rename_i inside
      -- what is neither an item nor a boundary does not close, so it can be skipped
      apply Steady.recover below.closed
      apply Steady.next below.here (Token.ne_finish_of_not_boundary (by simpa using inside))
      intro nearer
      exact selves () _ nearer

include inners in
theorem items_steady (symbol : String) (bracket : Bracket) (inside : Inside) :
    SteadyLoop capabilities bound (items inner symbol bracket inside)
      (items inner' symbol bracket inside) := by
  refine steady_tie ?_ ()
  intro cursor below self self' selves _
  exact items_round_steady inners symbol bracket inside below selves

include inners in
theorem parenArguments_steady (below : cursor.Below (bound + 1))
    (paren : cursor.isAtSymbol "(" = true) :
    Steady capabilities false cursor (parenArguments inner) (parenArguments inner') := by
  apply Steady.next below (Token.ne_finish_of_isSymbol paren)
  intro nearer
  exact items_steady inners ")" .arguments .arguments _ nearer

theorem Cursor.startsArgument_of_argument {line : Nat}
    (argument : ((cursor.current.startsExpression || cursor.atMap) &&
      cursor.isOnLine line) = true) :
    cursor.current.startsArgument = true := by
  obtain ⟨starts | map, _⟩ : (_ ∨ _) ∧ _ := by simpa only [Bool.and_eq_true, Bool.or_eq_true]
    using argument
  · simp [Token.startsArgument, starts]
  · simp only [Cursor.atMap, Bool.and_eq_true] at map
    have brace : cursor.current.isSymbol "\x7b" = true := map.1.1
    simp [Token.startsArgument, brace]

include inners in
theorem argument?_bind {β : Type} {line : Nat} {more more' : Option Expr → Rule β}
    (below : cursor.Below bound)
    (some' : ∀ argument next, next.Below cursor.rest.length →
      Steady capabilities false next (more (some argument)) (more' (some argument)))
    (none' : Steady capabilities false cursor (more none) (more' none)) :
    Steady capabilities false cursor (argument? inner line >>= more)
      (argument? inner' line >>= more') := by
  by_cases argument : ((cursor.current.startsExpression || cursor.atMap) &&
      cursor.isOnLine line) = true
  · have first := inners.takes below (Cursor.startsArgument_of_argument argument)
    have steady : Steady capabilities false cursor (inner >>= fun value => more (some value))
        (inner' >>= fun value => more' (some value)) := first.bind_taken below.here some'
    have reads : ∀ (rule : Rule Expr) (later : Option Expr → Rule β) mode,
        (argument? rule line >>= later) mode cursor =
          (rule >>= fun value => later (some value)) mode cursor := by
      intro rule later mode
      simp only [argument?, bind_apply, here, Reading.done_andThen, argument, ↓reduceIte,
        Reading.andThen_assoc, pure_apply]
    exact steady.of_reads (reads inner more _) (reads inner' more' _)
  · have reads : ∀ (rule : Rule Expr) (later : Option Expr → Rule β) mode,
        (argument? rule line >>= later) mode cursor = later none mode cursor := by
      intro rule later mode
      simp only [argument?, bind_apply, here, Reading.done_andThen, argument, Bool.false_eq_true,
        ↓reduceIte, pure_apply]
    exact none'.of_reads (reads inner more _) (reads inner' more' _)

include inners in
theorem spacedArguments_round_steady (line : Nat) (below : cursor.Below bound)
    {self self' : Unit → Rule (List Expr)}
    (selves : ∀ goal, SteadyLoop capabilities cursor.rest.length (self goal) (self' goal)) :
    Steady capabilities false cursor (spacedArguments.round inner line self ())
      (spacedArguments.round inner' line self' ()) := by
  apply argument?_bind inners below
  · intro argument next nearer
    apply Steady.bind nearer (selves () next nearer)
    intro more _ _
    exact .pure (argument :: more)
  · exact .pure []

include inners in
theorem spacedArguments_steady (line : Nat) :
    SteadyLoop capabilities bound (spacedArguments inner line) (spacedArguments inner' line) := by
  refine steady_tie ?_ ()
  intro cursor below self self' selves _
  exact spacedArguments_round_steady inners line below selves

include inners in
theorem callArguments_steady (line : Nat) :
    SteadyLoop capabilities bound (callArguments inner line) (callArguments inner' line) := by
  intro cursor below
  apply Steady.here
  split
  · rename_i paren
    exact parenArguments_steady inners below.succ paren
  · exact spacedArguments_steady inners line cursor below

theorem method?_steady (callee : Token) (below : cursor.Below bound) :
    Steady capabilities false cursor (method? callee) (method? callee) := by
  apply Steady.here
  apply Steady.knowing
  split
  · rename_i point
    simp only [Cursor.atPointMethod, Bool.and_eq_true] at point
    have here := Token.ne_finish_of_isSymbol point.1
    apply Steady.next below.succ here
    intro nearer
    apply Steady.next nearer.succ
    · rw [Cursor.current, Cursor.ahead_advance _ 0 here]
      exact Token.ne_finish_of_isMethodWord point.2
    · intro _
      exact .pure _
  · split
    · rename_i bare
      simp only [Cursor.atBareMethod, Bool.and_eq_true] at bare
      apply Steady.next below.succ (Token.ne_finish_of_isMethodWord bare.1.2)
      intro _
      exact .pure _
    · exact .pure none

include inners in
theorem callOf_steady (callee : Token) :
    SteadyLoop capabilities bound (callOf inner callee) (callOf inner' callee) := by
  intro cursor below
  apply Steady.bind below (method?_steady callee below)
  intro method next below
  apply Steady.bind below (callArguments_steady inners callee.line next below)
  intro arguments _ _
  exact .pure _

include inners in
theorem explicitCall_steady :
    SteadyLoop capabilities bound (explicitCall inner) (explicitCall inner') := by
  intro cursor below
  apply Steady.here
  split
  · rename_i name
    apply Steady.next below.succ (Token.ne_finish_of_isName name)
    intro below
    exact callOf_steady inners _ _ below
  · exact .recover below.closed (.pure _)

/-! ### Operands -/

section

variable (below : cursor.Below (bound + 1)) (other : cursor.current.kind ≠ .finish)

include inners below other in
theorem nameExpr_steady :
    Steady capabilities true cursor (nameExpr inner) (nameExpr inner') := by
  apply Steady.next below other
  intro below
  apply Steady.here
  apply Steady.knowing
  split
  · exact callOf_steady inners _ _ below
  · split
    · exact .pure _
    · exact .pure _

include inners below other in
theorem group_steady : Steady capabilities true cursor (group inner) (group inner') := by
  apply Steady.next below other
  intro below
  apply Steady.bind below (inners.weaken _ below)
  intro value next below
  apply Steady.bind below (closing_steady below ")" .group)
  intro _ _ _
  exact .pure value

include inners below other in
theorem listExpr_steady :
    Steady capabilities true cursor (listExpr inner) (listExpr inner') := by
  apply Steady.next below other
  intro below
  apply Steady.bind below (items_steady inners "]" .list .list _ below)
  intro entries _ _
  exact .pure _

end

theorem colon_steady (key : Token) (below : cursor.Below bound) :
    Steady capabilities false cursor (colon key) (colon key) := by
  apply Steady.acceptSymbol below.here
  · intro _
    exact .pure ()
  simp only [Bool.false_eq_true, ↓reduceIte]
  apply Steady.accept below.here
  · intro _
    exact .pure ()
  · exact .noting _

include inners in
theorem mapValue_steady (key : Token) :
    SteadyLoop capabilities bound (mapValue inner key) (mapValue inner' key) := by
  intro cursor below
  apply Steady.here
  split
  · exact inners.weaken cursor below
  · exact .pure _

include inners in
theorem mapEntries_round_steady (below : cursor.Below bound)
    {self self' : Unit → Rule (List (MapKey × Expr))}
    (selves : ∀ goal, SteadyLoop capabilities cursor.rest.length (self goal) (self' goal)) :
    Steady capabilities false cursor (mapEntries.round inner self ())
      (mapEntries.round inner' self' ()) := by
  apply Steady.acceptSymbol below.here
  · intro _
    exact .pure []
  simp only [Bool.false_eq_true, ↓reduceIte]
  apply Steady.acceptSymbol below.here
  · intro nearer
    exact selves () _ nearer
  simp only [Bool.false_eq_true, ↓reduceIte]
  apply Steady.here
  split
  · exact .recover below.closed (.pure [])
  · rename_i open'
    split
    · rename_i isKey
      apply Steady.next below.here (Token.ne_finish_of_isMapKey isKey)
      intro nearer
      apply Steady.bind nearer (colon_steady _ nearer)
      intro _ next nearer
      have within := nearer.mono (Nat.le_of_lt below.shorter)
      apply Steady.bind nearer (mapValue_steady inners _ next within)
      intro value next nearer
      apply Steady.bind nearer (selves () next nearer)
      intro more _ _
      exact .pure _
    · apply Steady.recover below.closed
      apply Steady.next below.here (by simpa [Cursor.atEnd] using open')
      intro nearer
      exact selves () _ nearer

include inners in
theorem mapEntries_steady :
    SteadyLoop capabilities bound (mapEntries inner) (mapEntries inner') := by
  refine steady_tie ?_ ()
  intro cursor below self self' selves _
  exact mapEntries_round_steady inners below selves

include inners in
theorem mapExpr_steady (below : cursor.Below (bound + 1))
    (other : cursor.current.kind ≠ .finish) :
    Steady capabilities true cursor (mapExpr inner) (mapExpr inner') := by
  apply Steady.next below other
  intro below
  apply Steady.bind below (mapEntries_steady inners _ below)
  intro entries _ _
  exact .pure _

theorem literalOf_steady (value : Literal) (below : cursor.Below (bound + 1))
    (other : cursor.current.kind ≠ .finish) :
    Steady capabilities true cursor (literalOf value) (literalOf value) := by
  apply Steady.next below other
  intro _
  exact .pure _

theorem notPrimary_steady (below : cursor.Below bound)
    (opens : opening cursor.current = .nothing) :
    Steady capabilities cursor.current.startsArgument cursor notPrimary notPrimary := by
  apply Steady.here
  apply Steady.recover below.closed
  split
  · rename_i boundary
    have none : cursor.current.startsArgument = false := by
      by_contra starts
      exact Token.opening_ne_nothing (by simpa using starts) boundary opens
    rw [none]
    exact .pure _
  · rename_i inside
    apply Steady.next below.here (Token.ne_finish_of_not_boundary (by simpa using inside))
    intro _
    exact .pure _

include inners in
theorem primary_steady : SteadyInner capabilities (bound + 1) (primary inner) (primary inner') := by
  intro cursor below
  apply Steady.here
  cases opens : opening cursor.current with
  | nothing => exact notPrimary_steady below opens
  | literal _ | name | call | group | list | map =>
      have other : cursor.current.kind ≠ .finish := Token.ne_finish_of_opening (by simp [opens])
      apply Steady.taken
      first
      | exact literalOf_steady _ below other
      | exact nameExpr_steady inners below other
      | exact group_steady inners below other
      | exact listExpr_steady inners below other
      | exact mapExpr_steady inners below other
      | exact Steady.next below other fun nearer => explicitCall_steady inners _ nearer

include inners in
theorem indexes_round_steady (below : cursor.Below (bound + 1)) {self self' : Expr → Rule Expr}
    (selves : ∀ goal, SteadyLoop capabilities cursor.rest.length (self goal) (self' goal))
    (target : Expr) :
    Steady capabilities false cursor (indexes.round inner self target)
      (indexes.round inner' self' target) := by
  apply Steady.here
  split
  · rename_i touching
    simp only [Bool.and_eq_true] at touching
    apply Steady.next below.here (Token.ne_finish_of_isSymbol touching.1)
    intro nearer
    have within := nearer.mono (Nat.lt_succ_iff.mp below.shorter)
    apply Steady.bind nearer (inners.weaken _ within)
    intro position next nearer
    apply Steady.bind nearer (closing_steady nearer "]" .index)
    intro _ next nearer
    exact selves _ next nearer
  · exact .pure target

include inners in
theorem indexes_steady (target : Expr) :
    SteadyLoop capabilities (bound + 1) (indexes inner target) (indexes inner' target) := by
  refine steady_tie ?_ target
  intro cursor below self self' selves target
  exact indexes_round_steady inners below selves target

include inners in
theorem indexed_steady : SteadyInner capabilities (bound + 1) (indexed inner) (indexed inner') := by
  intro cursor below
  apply Steady.bind below (primary_steady inners cursor below)
  intro target next below
  exact indexes_steady inners target next below

include inners in
theorem unary_round_steady (below : cursor.Below (bound + 1)) {self self' : Unit → Rule Expr}
    (selves : ∀ goal, SteadyInner capabilities cursor.rest.length (self goal) (self' goal)) :
    Steady capabilities cursor.current.startsArgument cursor (unary.round inner self ())
      (unary.round inner' self' ()) := by
  apply Steady.here
  split
  · rename_i op found
    split
    · obtain ⟨keyword, spelt, _⟩ := Option.bind_eq_some_iff.mp found
      apply Steady.next below.here (Token.ne_finish_of_keyword? spelt)
      intro nearer
      apply Steady.bind nearer ((selves ()).weaken _ nearer)
      intro operand _ _
      exact .pure _
    · exact indexed_steady inners cursor below
  · exact indexed_steady inners cursor below

include inners in
theorem unary_steady : SteadyInner capabilities (bound + 1) (unary inner) (unary inner') := by
  refine steady_tie ?_ ()
  intro cursor below self self' selves _
  exact unary_round_steady inners below selves

end

section

variable {capabilities : Capabilities} {bound : Nat} {cursor : Cursor}

theorem operators_round_steady {inner inner' : Nat → Rule Expr}
    (inners : ∀ least, SteadyInner capabilities bound (inner least) (inner' least)) (least : Nat)
    (below : cursor.Below (bound + 1)) {self self' : Expr → Rule Expr}
    (selves : ∀ goal, SteadyLoop capabilities cursor.rest.length (self goal) (self' goal))
    (left : Expr) :
    Steady capabilities false cursor (operators.round inner least self left)
      (operators.round inner' least self' left) := by
  apply Steady.here
  split
  · rename_i op found
    split
    · obtain ⟨keyword, spelt, _⟩ := Option.bind_eq_some_iff.mp found
      apply Steady.next below.here (Token.ne_finish_of_keyword? spelt)
      intro nearer
      have within := nearer.mono (Nat.lt_succ_iff.mp below.shorter)
      apply Steady.bind nearer ((inners _).weaken _ within)
      intro right next nearer
      exact selves _ next nearer
    · exact .pure left
  · exact .pure left

theorem operators_steady {inner inner' : Nat → Rule Expr}
    (inners : ∀ least, SteadyInner capabilities bound (inner least) (inner' least)) (least : Nat)
    (left : Expr) :
    SteadyLoop capabilities (bound + 1) (operators inner least left)
      (operators inner' least left) := by
  refine steady_tie ?_ left
  intro cursor below self self' selves left
  exact operators_round_steady inners least below selves left

theorem expressionOf_round_steady (below : cursor.Below bound) {self self' : Nat → Rule Expr}
    (selves : ∀ goal, SteadyInner capabilities cursor.rest.length (self goal) (self' goal))
    (least : Nat) :
    Steady capabilities cursor.current.startsArgument cursor (expressionOf.round self least)
      (expressionOf.round self' least) := by
  apply Steady.bind below.here (unary_steady (selves 1) cursor below.here)
  intro left next nearer
  exact operators_steady selves least left next nearer

/-- Whatever the tokens, as long as they close, an expression is read, and where an argument can
begin it takes a token. -/
theorem expressionOf_steady (least bound : Nat) :
    SteadyInner capabilities bound (expressionOf least) (expressionOf least) := by
  refine steady_tie ?_ least
  intro cursor below self self' selves least
  exact expressionOf_round_steady below selves least

theorem expression_steady (bound : Nat) : SteadyInner capabilities bound expression expression :=
  expressionOf_steady 1 bound

end

end Grammar

end Parlance
