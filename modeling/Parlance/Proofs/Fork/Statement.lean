import Parlance.Proofs.Fork.Expression
import Parlance.Proofs.Reading.Statement

/-!
The rules for statements of two readers. A block that ends among the shared tokens has the same body
for both; one that does not is noted by the left reader. The only search that may go past the shared
tokens, for the parenthesis that closes an output, comes to the same where that parenthesis is
shared.
-/

namespace Parlance.Grammar

open Rule

namespace Extent

def followed (extent : Extent) (tail : List Token) : Extent :=
  { extent with rest := extent.rest ++ tail }

/-- A token ends a block, or the count goes on behind it, whatever follows. -/
theorem scan_step (stopAtElse : Bool) (depth : Nat) (fused : Bool) (token : Token) :
    (∃ closer, ∀ rest, scan stopAtElse depth fused (token :: rest) =
      ⟨[], token :: rest, closer⟩) ∨
      ∃ depth' fused', ∀ rest, scan stopAtElse depth fused (token :: rest) =
        (scan stopAtElse depth' fused' rest).cons token := by
  simp only [scan]
  split
  · exact Or.inl ⟨_, fun _ => rfl⟩
  · split
    · exact Or.inr ⟨_, _, fun _ => rfl⟩
    · cases depth with
      | zero => exact Or.inl ⟨_, fun _ => rfl⟩
      | succ depth => exact Or.inr ⟨_, _, fun _ => rfl⟩
    · split
      · exact Or.inl ⟨_, fun _ => rfl⟩
      · exact Or.inr ⟨_, _, fun _ => rfl⟩
    · split
      · exact Or.inl ⟨_, fun _ => rfl⟩
      · exact Or.inr ⟨_, _, fun _ => rfl⟩
    · exact Or.inr ⟨_, _, fun _ => rfl⟩

variable {stopAtElse : Bool} {depth : Nat} {fused : Bool} {front : List Token}

/-- Where a block ends among the tokens it does not matter what follows them. -/
theorem scan_followed (ended : (scan stopAtElse depth fused front).closer ≠ .endOfInput)
    (tail : List Token) :
    scan stopAtElse depth fused (front ++ tail) =
      (scan stopAtElse depth fused front).followed tail := by
  induction front generalizing depth fused with
  | nil => exact absurd rfl ended
  | cons token front ih =>
      -- all that counts of a step is that it does not look at what follows its token
      rcases scan_step stopAtElse depth fused token with ⟨closer, stops⟩ | ⟨depth', fused', goes⟩
      · rw [List.cons_append, stops, stops, followed, List.cons_append]
      · rw [goes] at ended
        rw [List.cons_append, goes, goes, ih ended]
        rfl

/-- Where it does not, a closing token behind them ends it. -/
theorem scan_unended (inner : ∀ token ∈ front, token.kind ≠ .finish)
    (unended : (scan stopAtElse depth fused front).closer = .endOfInput) {finish : Token}
    (ends : finish.kind = .finish) :
    scan stopAtElse depth fused (front ++ [finish]) = ⟨front, [finish], .endOfInput⟩ := by
  induction front generalizing depth fused with
  | nil => simp [scan, ends]
  | cons token front ih =>
      have later := fun other found => inner other (List.mem_cons_of_mem token found)
      rcases scan_step stopAtElse depth fused token with ⟨closer, stops⟩ | ⟨depth', fused', goes⟩
      · -- a block stops unclosed only before a closing token, and the shared ones are none
        have ended := scan_ended stopAtElse depth fused (token :: front)
        rw [stops] at unended ended
        obtain rfl : closer = .endOfInput := unended
        simp only [Ended, List.cons_ne_nil, false_or, List.cons.injEq] at ended
        obtain ⟨_, _, ⟨rfl, _⟩, finish⟩ := ended
        exact absurd finish (inner _ List.mem_cons_self)
      · rw [goes] at unended
        rw [List.cons_append, goes, ih later unended]
        rfl

end Extent

/-- Inside blocks: what the left reader reads of shared tokens the right one reads too. -/
def FollowsInside (fork : Fork) (left right : Rule (List Stmt)) : Prop :=
  ∀ ⦃tokens⦄, fork.Shared tokens → ∀ ⦃finish⦄, finish.kind = .finish →
    ∀ ⦃value next noted⦄, left fork.leftMode (.ofTokens (tokens ++ [finish])) =
        .done value next noted →
      noted = [] ∨ fork.Exact → fork.Common (callees value) ∧
        ∃ next', right fork.rightMode (.ofTokens (tokens ++ [finish])) = .done value next' noted

section

variable {fork : Fork} {cursor cursor' : Cursor} {inner inner' : Rule (List Stmt)}

theorem nameFor_follows (role : Named) : Follows fork (nameFor role) (nameFor role) := by
  intro cursor cursor' beside
  apply FollowsAt.here
  rw [beside.current.isName_eq]
  split
  · rename_i name
    apply FollowsAt.next beside (Token.ne_finish_of_isName name)
    intro beside
    exact .quiet beside rfl
  · apply FollowsAt.recover beside (fun _ => rfl)
    intro _
    exact .quiet beside rfl

/-! ### Blocks -/

variable (inners : FollowsInside fork inner inner')

/-- Behind a block that ends among the shared tokens the cursors are side by side. -/
theorem Extent.behind_followed {extent : Extent} (ended : extent.rest ≠ [])
    (closed : extent.closer ≠ .endOfInput) (shared : fork.Shared extent.rest) (lastStop : Nat) :
    fork.Beside ((extent.followed [fork.finish]).behind lastStop)
      ((extent.followed fork.behind).behind lastStop) := by
  obtain ⟨token, rest, found⟩ := List.exists_cons_of_ne_nil ended
  rw [found] at shared
  have later : fork.Shared rest := fun other here => shared other (List.mem_cons_of_mem _ here)
  simp only [Extent.behind, Extent.followed, Extent.boundary, found]
  cases closer : extent.closer with
  | closed => exact ⟨⟨rest, later, rfl, rfl⟩, rfl⟩
  | otherwise => exact ⟨⟨token :: rest, shared, rfl, rfl⟩, rfl⟩
  | endOfInput => exact absurd closer closed

include inners in
theorem blockBody_followed (stopAtElse : Bool) (opener : Token) {front : List Token}
    (shared : fork.Shared front) (lastStop : Nat)
    (closed : (Extent.ofBody stopAtElse front).closer ≠ .endOfInput) :
    FollowsAt fork ⟨front ++ [fork.finish], lastStop⟩ ⟨front ++ fork.behind, lastStop⟩
      (blockBody inner stopAtElse opener) (blockBody inner' stopAtElse opener) := by
  have parts := Extent.scan_append stopAtElse 0 false front
  have ended := Extent.scan_ended stopAtElse 0 false front
  have followed := Extent.scan_followed closed
  change (Extent.ofBody stopAtElse front).body ++ (Extent.ofBody stopAtElse front).rest =
    front at parts
  change (Extent.ofBody stopAtElse front).Ended at ended
  change ∀ tail, Extent.ofBody stopAtElse (front ++ tail) =
    (Extent.ofBody stopAtElse front).followed tail at followed
  -- from here on only these facts about the extent count, so the tokens can be those it names
  generalize Extent.ofBody stopAtElse front = extent at closed parts ended followed
  subst parts
  obtain ⟨sharedBody, sharedRest⟩ := List.forall_mem_append.mp shared
  have some' : extent.rest ≠ [] := by
    intro none
    simp only [Extent.Ended, none] at ended
    cases closer : extent.closer <;> simp [closer] at ended closed
  obtain ⟨first, rest, found⟩ := List.exists_cons_of_ne_nil some'
  -- the body is closed where its boundary begins, and that token is a shared one
  have body : ∀ tail, (extent.followed tail).closedBody =
      extent.body ++ [.finishAt first.offset first.place first.offset] := by
    intro tail
    simp [Extent.closedBody, Extent.followed, Extent.boundary, found]
  have missing : ∀ tail, (extent.followed tail).missing lastStop = [] := by
    intro tail
    simp [Extent.missing, Extent.followed, closed]
  intro block next noted read quiet
  obtain ⟨stmts, last, noted', inside⟩ := blockBody_inside read
  rw [blockBody_lenient rfl inside opener] at read
  obtain ⟨rfl, rfl, rfl⟩ := Reading.done.inj read
  rw [followed, body] at inside
  simp only [followed, missing, List.append_nil] at quiet ⊢
  obtain ⟨common, last', inside'⟩ := inners sharedBody rfl inside quiet
  refine ⟨common, _, ?_, Extent.behind_followed some' closed sharedRest lastStop⟩
  rw [← body fork.behind, ← followed] at inside'
  rw [blockBody_lenient rfl inside' opener]
  simp only [followed, missing, List.append_nil]
  rfl

include inners in
theorem blockBody_follows (stopAtElse : Bool) (opener : Token) :
    Follows fork (blockBody inner stopAtElse opener) (blockBody inner' stopAtElse opener) := by
  intro cursor cursor' beside
  obtain ⟨front, shared, ahead, ahead'⟩ := beside.ahead
  obtain ⟨tokens, lastStop⟩ := cursor
  obtain ⟨tokens', lastStop'⟩ := cursor'
  obtain rfl : lastStop = lastStop' := beside.lastStop.symm
  simp only at ahead ahead'
  subst ahead ahead'
  by_cases unended : (Extent.ofBody stopAtElse front).closer = .endOfInput
  · -- the left reader notes that the block is not closed, so only an exact comparison goes on
    have extent : Extent.ofBody stopAtElse (front ++ [fork.finish]) = _ :=
      Extent.scan_unended (fun token found => (shared token found).1) unended fork.ends
    intro block next noted read quiet
    obtain ⟨stmts, last, noted', inside⟩ := blockBody_inside read
    rw [blockBody_lenient rfl inside opener] at read
    obtain ⟨rfl, rfl, rfl⟩ := Reading.done.inj read
    have exact' : fork.Exact := quiet.resolve_left (by simp [extent, Extent.missing])
    simp only [show fork.behind = [fork.finish] from exact'] at beside ⊢
    simp only [extent, Extent.closedBody] at inside
    obtain ⟨common, last', inside'⟩ := inners shared rfl inside (Or.inr exact')
    refine ⟨common, _, blockBody_lenient rfl (by simpa [extent, Extent.closedBody] using inside')
      opener, ?_⟩
    refine ⟨⟨[], List.forall_mem_nil _, ?_, ?_⟩, ?_⟩
    all_goals simp [extent, Extent.behind, show fork.behind = [fork.finish] from exact']
  · exact blockBody_followed inners stopAtElse opener shared lastStop unended

include inners in
theorem block_follows (stopAtElse : Bool) (beside : fork.Beside cursor cursor')
    (other : cursor.current.kind ≠ .finish) :
    FollowsAt fork cursor cursor' (block inner stopAtElse) (block inner' stopAtElse) := by
  apply FollowsAt.next beside other
  intro beside
  split
  · apply FollowsAt.acceptSymbol beside (by decide)
    · exact fun beside => blockBody_follows inners stopAtElse _ beside
    · exact blockBody_follows inners stopAtElse _ beside
  · exact blockBody_follows inners stopAtElse _ beside

include inners in
theorem blockAfter_follows (head : Token) (what : Head) :
    Follows fork (blockAfter inner head what) (blockAfter inner' head what) := by
  intro cursor cursor' beside
  apply FollowsAt.here
  rw [beside.isAt_eq]
  split
  · rename_i opens
    exact block_follows inners false beside
      (Token.ne_finish_of_keyword? (of_decide_eq_true opens))
  · apply FollowsAt.recover beside (fun _ => rfl)
    intro _
    exact .quiet beside rfl

/-! ### Declarations and assignments -/

theorem declared_follows (head : Token) :
    Follows fork (declaration.declared head) (declaration.declared head) := by
  intro cursor cursor' beside
  apply FollowsAt.bind (nameFor_follows .declaration beside)
  intro name _ _ beside _
  cases name with
  | none => exact .quiet beside rfl
  | some name =>
      apply FollowsAt.accept beside
      · intro beside
        apply FollowsAt.bind (expression_follows beside)
        intro initial _ _ beside called
        refine .pure beside (Fork.common_append.mpr ⟨?_, Fork.common_nil⟩)
        exact Fork.common_append.mpr ⟨called, Fork.common_nil⟩
      · simp only [Bool.false_eq_true, ↓reduceIte]
        apply FollowsAt.here
        rw [beside.startsOnLine_eq]
        split
        · apply FollowsAt.recover beside (fun _ => rfl)
          intro _
          exact .quiet beside rfl
        · exact .quiet beside rfl

section

variable (beside : fork.Beside cursor cursor') (other : cursor.current.kind ≠ .finish)

include beside other

theorem declaration_follows : FollowsAt fork cursor cursor' declaration declaration := by
  apply FollowsAt.next beside other
  intro beside
  apply FollowsAt.here
  have typed : (cursor'.advance.isAt .typeWord && (cursor'.advance.ahead 1).isName) =
      (cursor.advance.isAt .typeWord && (cursor.advance.ahead 1).isName) := by
    rw [beside.isAt_eq]
    exact Fork.and_eq_of_passed fun word => (beside.ahead_one
      (Token.ne_finish_of_keyword? (of_decide_eq_true word))).isName_eq
  rw [typed]
  split
  · rename_i typed
    have word := of_decide_eq_true (Bool.and_eq_true_iff.mp typed).1
    apply FollowsAt.next beside (Token.ne_finish_of_keyword? word)
    intro beside
    exact declared_follows _ beside
  · exact declared_follows _ beside

theorem assignment_follows : FollowsAt fork cursor cursor' assignment assignment := by
  apply FollowsAt.next beside other
  intro beside
  split
  · apply FollowsAt.bind (expression_follows beside)
    intro value _ _ beside called
    apply FollowsAt.accept beside
    · intro beside
      apply FollowsAt.bind (nameFor_follows .assignment beside)
      intro name _ _ beside _
      cases name with
      | none => exact .quiet beside rfl
      | some name => exact .pure beside (Fork.common_append.mpr ⟨called, Fork.common_nil⟩)
    · simp only [Bool.false_eq_true, ↓reduceIte]
      apply FollowsAt.recover beside (fun _ => rfl)
      intro _
      exact .quiet beside rfl
  · apply FollowsAt.bind (nameFor_follows .assignment beside)
    intro name _ _ beside _
    cases name with
    | none => exact .quiet beside rfl
    | some name =>
        apply FollowsAt.accept beside
        · intro beside
          apply FollowsAt.bind (expression_follows beside)
          intro value _ _ beside called
          exact .pure beside (Fork.common_append.mpr ⟨called, Fork.common_nil⟩)
        · simp only [Bool.false_eq_true, ↓reduceIte]
          apply FollowsAt.recover beside (fun _ => rfl)
          intro _
          exact .quiet beside rfl

theorem bareAssignment_follows (ahead : (cursor.ahead 1).kind ≠ .finish) :
    FollowsAt fork cursor cursor' bareAssignment bareAssignment := by
  apply FollowsAt.next beside other
  intro beside
  apply FollowsAt.next beside
  · rwa [Cursor.current, cursor.ahead_advance 0 other]
  intro beside
  apply FollowsAt.bind (expression_follows beside)
  intro value _ _ beside called
  exact .pure beside called

end

/-! ### Functions -/

theorem parameters_follows (exprs : List Expr) :
    Follows fork (parameters exprs) (parameters exprs) := by
  induction exprs with
  | nil => exact fun _ _ beside => .quiet beside rfl
  | cons expr rest ih =>
      intro cursor cursor' beside
      cases expr with
      | ident name place =>
          apply FollowsAt.bind (ih beside)
          intro more _ _ beside _
          exact .quiet beside rfl
      | literal _ _ | call _ _ _ _ | binary _ _ _ _ | unary _ _ _ | list _ _ | map _ _
      | index _ _ _ =>
          apply FollowsAt.recover beside (fun _ => rfl)
          exact fun _ => ih beside

theorem bareParameters_follows : Follows fork bareParameters bareParameters := by
  intro cursor cursor' beside
  refine FollowsAt.loop (fun _ _ beside => .quiet beside rfl) ?_ beside
  intro self self' selves cursor cursor' beside
  apply FollowsAt.here
  rw [beside.current.isName_eq]
  split
  · rename_i name
    apply FollowsAt.next beside (Token.ne_finish_of_isName name)
    intro beside
    apply FollowsAt.bind (selves beside)
    intro more _ _ beside _
    exact .quiet beside rfl
  · exact .quiet beside rfl

theorem parameterList_follows : Follows fork parameterList parameterList := by
  intro cursor cursor' beside
  apply FollowsAt.here
  rw [beside.isAtSymbol_eq (by decide)]
  split
  · rename_i paren
    apply FollowsAt.bind
      (parenArguments_follows expression_follows beside (Token.ne_finish_of_isSymbol paren))
    intro arguments _ _ beside _
    exact parameters_follows arguments beside
  · exact bareParameters_follows beside

theorem aliasName_follows : Follows fork aliasName aliasName := by
  intro cursor cursor' beside
  apply FollowsAt.accept beside
  · intro beside
    apply FollowsAt.bind (nameFor_follows .byname beside)
    intro name _ _ beside _
    exact .quiet beside rfl
  · exact .quiet beside rfl

include inners in
theorem definition_follows (beside : fork.Beside cursor cursor')
    (other : cursor.current.kind ≠ .finish) :
    FollowsAt fork cursor cursor' (definition inner) (definition inner') := by
  apply FollowsAt.next beside other
  intro beside
  apply FollowsAt.bind (nameFor_follows .function beside)
  intro name _ _ beside _
  apply FollowsAt.bind (parameterList_follows beside)
  intro params _ _ beside _
  apply FollowsAt.bind (aliasName_follows beside)
  intro byname _ _ beside _
  apply FollowsAt.bind (blockAfter_follows inners _ .function beside)
  intro body _ _ beside called
  exact .pure beside called

/-! ### Conditionals -/

theorem furtherHead?_follows (word : Token) :
    Follows fork (furtherHead? word) (furtherHead? word) := by
  intro cursor cursor' beside
  apply FollowsAt.here
  rw [beside.isAt_eq]
  split
  · exact .quiet beside rfl
  · split
    · rename_i again
      apply FollowsAt.next beside (Token.ne_finish_of_keyword? (of_decide_eq_true again))
      intro beside
      exact .quiet beside rfl
    · exact .quiet beside rfl

include inners in
theorem sharedBranch_follows (beside : fork.Beside cursor cursor')
    (other : cursor.current.kind ≠ .finish) :
    FollowsAt fork cursor cursor' (sharedBranch inner) (sharedBranch inner') := by
  -- a chain begins at a word for "else", which the readers share
  refine FollowsAt.tie (fun _ cursor => cursor.current.kind ≠ .finish)
    (fun _ _ _ _ beside => .quiet beside rfl) ?_ other beside
  intro self self' selves _ cursor cursor' other beside
  apply FollowsAt.next beside other
  intro beside
  apply FollowsAt.bind (furtherHead?_follows _ beside)
  intro head _ _ beside _
  cases head with
  | some head =>
      apply FollowsAt.bind (expression_follows beside)
      intro guard _ _ beside called
      apply FollowsAt.bind (FollowsAt.accepting beside)
      intro _ _ _ beside _
      apply FollowsAt.bind_known (blockBody_follows inners true head beside)
      intro body next noted read calledBody next' beside
      -- another round begins only where the body ended at "else", which is then the current token
      have both := Fork.common_append.mpr ⟨called, calledBody⟩
      split
      · rename_i otherwise
        apply FollowsAt.bind
          (selves (blockBody_known rfl true head _ body next noted read otherwise) beside)
        intro branch _ _ beside calledBranch
        exact .pure beside (Fork.common_append.mpr ⟨both, calledBranch⟩)
      · exact .pure beside (Fork.common_append.mpr ⟨both, Fork.common_nil⟩)
  | none =>
      apply FollowsAt.bind (blockBody_follows inners false _ beside)
      intro body _ _ beside called
      exact .pure beside called

include inners in
theorem ownBranch_follows {self self' : Token × Expr → Rule Conditional}
    (selves : ∀ ⦃goal⦄, fork.Common (callees goal.2) → Follows fork (self goal) (self' goal)) :
    Follows fork (conditionalTail.ownBranch inner self)
      (conditionalTail.ownBranch inner' self') := by
  intro cursor cursor' beside
  apply FollowsAt.here
  rw [beside.isAt_eq, beside.isAt_eq]
  split
  · rename_i word
    have other : cursor.current.kind ≠ .finish := by
      rcases Bool.or_eq_true_iff.mp word with word | word
      · exact Token.ne_finish_of_keyword? (of_decide_eq_true word)
      · exact Token.ne_finish_of_keyword? (of_decide_eq_true word)
    apply FollowsAt.next beside other
    intro beside
    apply FollowsAt.bind (furtherHead?_follows _ beside)
    intro head _ _ beside _
    cases head with
    | some head =>
        apply FollowsAt.bind (expression_follows beside)
        intro guard _ _ beside called
        apply FollowsAt.bind (selves called beside)
        intro further _ _ beside called
        exact .pure beside called
    | none =>
        apply FollowsAt.here
        rw [beside.isAt_eq]
        split
        · rename_i opens
          apply FollowsAt.bind (block_follows inners false beside
            (Token.ne_finish_of_keyword? (of_decide_eq_true opens)))
          intro body _ _ beside called
          exact .pure beside called
        · apply FollowsAt.recover beside (fun _ => rfl)
          intro _
          exact .quiet beside rfl
  · exact .quiet beside rfl

include inners in
theorem conditionalTail_follows {goal : Token × Expr} (called : fork.Common (callees goal.2)) :
    Follows fork (conditionalTail inner goal) (conditionalTail inner' goal) := by
  have bare : ∀ {goal : Token × Expr}, fork.Common (callees goal.2) → fork.Common
      (callees (⟨goal.2, [], goal.1.place, .absent, goal.1.place⟩ : Conditional)) :=
    fun called => Fork.common_append.mpr
      ⟨Fork.common_append.mpr ⟨called, Fork.common_nil⟩, Fork.common_nil⟩
  intro cursor cursor' beside
  refine FollowsAt.tie (fun goal _ => fork.Common (callees goal.2))
    (fun _ _ _ called beside => .pure beside (bare called)) ?_ called beside
  rintro self self' selves ⟨head, guard⟩ cursor cursor' called beside
  apply FollowsAt.here
  rw [beside.isAt_eq]
  split
  · rename_i opens
    apply FollowsAt.bind_known (block_follows inners true beside
      (Token.ne_finish_of_keyword? (of_decide_eq_true opens)))
    intro body next noted read calledBody next' beside
    -- whatever the branch calls joins the calls of the guard and the body
    have both := Fork.common_append.mpr ⟨called, calledBody⟩
    split
    · rename_i otherwise
      have word := block_known rfl true _ body next noted read otherwise
      apply FollowsAt.bind (sharedBranch_follows inners beside word)
      intro branch _ _ beside calledBranch
      exact .pure beside (Fork.common_append.mpr ⟨both, calledBranch⟩)
    · apply FollowsAt.bind
        (ownBranch_follows inners (fun _ called _ _ beside => selves called beside) beside)
      intro branch _ _ beside calledBranch
      exact .pure beside (Fork.common_append.mpr ⟨both, calledBranch⟩)
  · apply FollowsAt.recover beside (fun _ => rfl)
    intro _
    exact .pure beside (bare called)

section

variable (beside : fork.Beside cursor cursor') (other : cursor.current.kind ≠ .finish)

include inners beside other

theorem conditional_follows :
    FollowsAt fork cursor cursor' (conditional inner) (conditional inner') := by
  apply FollowsAt.next beside other
  intro beside
  apply FollowsAt.bind (expression_follows beside)
  intro guard _ _ beside called
  apply FollowsAt.bind (conditionalTail_follows inners called beside)
  intro read _ _ beside called
  exact .pure beside called

end

/-! ### Loops -/

include inners in
theorem eachTail_follows (head : Token) :
    Follows fork (eachTail inner head) (eachTail inner' head) := by
  have bodies : ∀ item, Follows fork (eachTail.eachBody inner head item)
      (eachTail.eachBody inner' head item) := by
    intro item cursor cursor' beside
    apply FollowsAt.bind (expression_follows beside)
    intro list _ _ beside called
    apply FollowsAt.bind (blockAfter_follows inners head .each beside)
    intro body _ _ beside calledBody
    exact .pure beside (Fork.common_append.mpr ⟨called, calledBody⟩)
  intro cursor cursor' beside
  apply FollowsAt.bind (nameFor_follows .loopItem beside)
  intro item _ _ beside _
  apply FollowsAt.accept beside
  · exact fun beside => bodies item beside
  · simp only [Bool.false_eq_true, ↓reduceIte]
    apply FollowsAt.recover beside (fun _ => rfl)
    exact fun _ => bodies item beside

section

variable (beside : fork.Beside cursor cursor') (other : cursor.current.kind ≠ .finish)

include inners beside other

theorem eachLoop_follows :
    FollowsAt fork cursor cursor' (eachLoop inner) (eachLoop inner') := by
  apply FollowsAt.next beside other
  exact fun beside => eachTail_follows inners _ beside

theorem guardLoop_follows :
    FollowsAt fork cursor cursor' (guardLoop inner) (guardLoop inner') := by
  apply FollowsAt.next beside other
  intro beside
  apply FollowsAt.bind (expression_follows beside)
  intro guard _ _ beside called
  apply FollowsAt.bind (blockAfter_follows inners _ .loopGuard beside)
  intro body _ _ beside calledBody
  exact .pure beside (Fork.common_append.mpr ⟨called, calledBody⟩)

theorem loop_follows : FollowsAt fork cursor cursor' (loop inner) (loop inner') := by
  apply FollowsAt.next beside other
  intro beside
  apply FollowsAt.here
  have item : (cursor'.advance.current.isName &&
        decide ((cursor'.advance.ahead 1).keyword? = some .within)) =
      (cursor.advance.current.isName &&
        decide ((cursor.advance.ahead 1).keyword? = some .within)) := by
    rw [beside.current.isName_eq]
    refine Fork.and_eq_of_passed fun name => ?_
    rw [(beside.ahead_one (Token.ne_finish_of_isName name)).keyword?_eq]
  rw [beside.isAt_eq, beside.isAt_eq, item]
  split
  · rename_i guarded
    exact guardLoop_follows inners beside
      (Token.ne_finish_of_keyword? (of_decide_eq_true guarded))
  · split
    · rename_i each
      exact eachLoop_follows inners beside (Token.ne_finish_of_keyword? (of_decide_eq_true each))
    · split
      · exact eachTail_follows inners _ beside
      · apply FollowsAt.bind (expression_follows beside)
        intro rounds _ _ beside called
        apply FollowsAt.bind (FollowsAt.accepting beside)
        intro _ _ _ beside _
        apply FollowsAt.bind (blockAfter_follows inners _ .loopCount beside)
        intro body _ _ beside calledBody
        exact .pure beside (Fork.common_append.mpr ⟨called, calledBody⟩)

end

/-! ### Other statements -/

theorem outputArguments_follows (head : Token) :
    Follows fork (outputArguments head) (outputArguments head) := by
  intro cursor cursor' beside
  apply FollowsAt.bind (argument?_follows expression_follows head.line beside)
  intro first _ _ beside called
  cases first with
  | none => exact .quiet beside rfl
  | some first =>
      apply FollowsAt.bind (argument?_follows expression_follows head.line beside)
      intro second _ _ beside called'
      cases second with
      | none => exact .pure beside called
      | some second =>
          exact .pure beside (Fork.common_append.mpr ⟨(Fork.common_append.mp called).1, called'⟩)

/-- Of what was read as arguments the output takes no more than there is. -/
theorem outputOf_called {arguments : List Expr} (called : fork.Common (callees arguments)) :
    fork.Common (Expr.allCallees (Stmt.outputArguments (outputOf arguments))) := by
  match arguments with
  | [] => exact Fork.common_nil
  | [value] => exact called
  | first :: second :: _ =>
      obtain ⟨one, later⟩ := Fork.common_append.mp called
      obtain ⟨two, _⟩ := Fork.common_append.mp later
      have both : ∀ {first second : Expr}, fork.Common (callees first) →
          fork.Common (callees second) → fork.Common (Expr.allCallees [first, second]) :=
        fun one two => Fork.common_append.mpr
          ⟨one, Fork.common_append.mpr ⟨two, Fork.common_nil⟩⟩
      simp only [outputOf]
      split
      · exact both two one
      · exact both one two

theorem closingParen?_within (depth : Nat) (front : List Token) :
    (∃ close rest, ∀ tail, closingParen? depth (front ++ tail) = some (close, rest ++ tail)) ∨
      ∃ depth', ∀ tail, closingParen? depth (front ++ tail) = closingParen? depth' tail := by
  induction front generalizing depth with
  | nil => exact Or.inr ⟨depth, fun _ => rfl⟩
  | cons token front ih =>
      simp only [List.cons_append, closingParen?]
      split
      · exact ih _
      · split
        · split
          · exact Or.inl ⟨token, front, fun _ => rfl⟩
          · exact ih _
        · exact ih _

def Cursor.Unclosed (cursor : Cursor) : Prop :=
  cursor.isAtSymbol "(" = true ∧ closingParen? 0 cursor.rest = none

theorem Fork.Beside.atOutputParens_eq (beside : fork.Beside cursor cursor')
    (closed : cursor' ≠ cursor → ¬ cursor.Unclosed) :
    cursor'.atOutputParens = cursor.atOutputParens := by
  by_cases differ : cursor' = cursor
  · rw [differ]
  obtain ⟨front, _, ahead, ahead'⟩ := beside.ahead
  simp only [Cursor.atOutputParens, beside.isAtSymbol_eq (by decide : "(" ≠ ";")]
  refine Fork.and_eq_of_passed fun paren => ?_
  rcases closingParen?_within 0 front with ⟨close, rest, found⟩ | ⟨depth, goesOn⟩
  · rw [ahead, ahead', found, found]
    cases rest with
    | cons after rest => rfl
    | nil =>
        -- behind the parenthesis either reader finds a boundary
        have ends : fork.finish.isBoundary = true := by simp [Token.isBoundary, fork.ends]
        rcases fork.parts with same | ⟨separator, rest, same, symbol⟩
        · rw [same]
        · have boundary : separator.isBoundary = true := by
            simp only [Token.isSymbol, Bool.and_eq_true, decide_eq_true_eq] at symbol
            simp [Token.isBoundary, Token.isBoundarySymbol, symbol]
          simp [same, ends, boundary]
  · refine absurd ⟨paren, ?_⟩ (closed differ)
    have plain : fork.finish.isSymbol "(" = false ∧ fork.finish.isSymbol ")" = false := by
      simp [Token.isSymbol, fork.ends]
    rw [ahead, goesOn]
    simp [closingParen?, plain]

section

variable (beside : fork.Beside cursor cursor') (other : cursor.current.kind ≠ .finish)

include beside other

theorem giveBack_follows : FollowsAt fork cursor cursor' giveBack giveBack := by
  apply FollowsAt.next beside other
  intro beside
  apply FollowsAt.here
  rw [beside.startsOnLine_eq]
  split
  · apply FollowsAt.bind (expression_follows beside)
    intro value _ _ beside called
    exact .pure beside (Fork.common_append.mpr ⟨called, Fork.common_nil⟩)
  · exact .quiet beside rfl

theorem output_follows (closed : cursor' ≠ cursor → ¬ cursor.advance.Unclosed) :
    FollowsAt fork cursor cursor' output output := by
  apply FollowsAt.next beside other
  intro later
  apply FollowsAt.here
  rw [later.atOutputParens_eq fun differ => closed fun same => differ (by rw [same])]
  split
  · rename_i parens
    have paren := (Bool.and_eq_true_iff.mp parens).1
    apply FollowsAt.bind
      (parenArguments_follows expression_follows later (Token.ne_finish_of_isSymbol paren))
    intro arguments _ _ beside called
    exact .pure beside (outputOf_called called)
  · apply FollowsAt.bind (outputArguments_follows _ later)
    intro arguments _ _ beside called
    exact .pure beside (outputOf_called called)

theorem passOver_follows (flaw : String → Flaw) :
    FollowsAt fork cursor cursor' (passOver flaw) (passOver flaw) := by
  apply FollowsAt.here
  apply FollowsAt.recover beside
  · rintro rfl
    rfl
  · intro _
    apply FollowsAt.next beside other
    intro beside
    exact .quiet beside rfl

theorem plainStatement_follows :
    FollowsAt fork cursor cursor' plainStatement plainStatement := by
  apply FollowsAt.here
  simp only [beside.current_eq other]
  split
  · apply FollowsAt.next beside other
    intro beside
    exact .quiet beside rfl
  · have assigns := (beside.ahead_one other).keyword?_eq
    simp only [assigns]
    split
    · rename_i assigns
      simp only [Bool.and_eq_true, decide_eq_true_eq] at assigns
      exact FollowsAt.map some
        (bareAssignment_follows beside other (Token.ne_finish_of_keyword? assigns.2))
        fun _ called => Fork.common_append.mpr ⟨called, Fork.common_nil⟩
    · split
      · apply FollowsAt.bind (expression_follows beside)
        intro value _ _ beside called
        exact .pure beside (Fork.common_append.mpr ⟨called, Fork.common_nil⟩)
      · exact passOver_follows beside other _

end

include inners in
theorem statement_follows (beside : fork.Beside cursor cursor')
    (other : cursor.current.kind ≠ .finish)
    (closed : cursor' ≠ cursor → lead cursor.current = .output → ¬ cursor.advance.Unclosed) :
    FollowsAt fork cursor cursor' (statement inner) (statement inner') := by
  have one : ∀ stmt : Stmt, fork.Common (callees stmt) → fork.Common (callees (some stmt)) :=
    fun _ called => Fork.common_append.mpr ⟨called, Fork.common_nil⟩
  apply FollowsAt.here
  rw [beside.current_eq other]
  cases leads : lead cursor.current with
  | declaration => exact declaration_follows beside other
  | definition => exact .map some (definition_follows inners beside other) one
  | conditional => exact .map some (conditional_follows inners beside other) one
  | loop => exact .map some (loop_follows inners beside other) one
  | whileLoop => exact .map some (guardLoop_follows inners beside other) one
  | each => exact .map some (eachLoop_follows inners beside other) one
  | giveBack => exact .map some (giveBack_follows beside other) one
  | output =>
      exact .map some (output_follows beside other fun differ => closed differ leads) one
  | assignment => exact assignment_follows beside other
  | block =>
      apply FollowsAt.bind (block_follows inners false beside other)
      intro read _ _ beside called
      exact .pure beside (Fork.common_append.mpr ⟨called, Fork.common_nil⟩)
  | closer => exact passOver_follows beside other _
  | otherwise => exact passOver_follows beside other _
  | plain => exact plainStatement_follows beside other

end

end Parlance.Grammar
