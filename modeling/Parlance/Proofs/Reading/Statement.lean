import Parlance.Proofs.Reading.Expression
import Parlance.Proofs.Reading.Extent

/-!
The rules for statements side by side. The extents of blocks in alike tokens are alike, so the
bodies of blocks are read alike, and with them the whole of a program.
-/

namespace Parlance.Grammar

open Rule

section

variable {pairing : Pairing}

theorem nameFor_agree (role : Named) :
    Agree pairing (Near pairing true) true (nameFor role) (nameFor role) := by
  apply agree_here (fun _ _ near => near)
  intro cursor cursor' near
  simp only [near.current.isName_eq]
  split
  · rename_i name
    refine agree_bind (agree_next ?_) ?_
    · rintro _ _ ⟨near, rfl, rfl⟩
      exact ⟨near.loosen, Or.inr (Token.ne_finish_of_isName name)⟩
    intro name
    exact agree_pure
  · apply agree_recover (fun _ _ held => held.1.loosen) (fun _ _ _ _ => rfl)
    exact agree_pure.mono fun _ _ held => held.2.1

/-! ### Blocks -/

def Extent.missing (extent : Extent) (lastStop : Nat) : List Recovery :=
  if extent.closer = .endOfInput then
    [⟨.blockNotClosed, (extent.behind lastStop).current.place⟩]
  else []

theorem leaveBlock_lenient (extent : Extent) (lastStop : Nat) {mode : Mode}
    (lenient : mode.strict = false) (cursor : Cursor) :
    leaveBlock extent lastStop mode cursor =
      .done () (extent.behind lastStop) (extent.missing lastStop) := by
  simp only [leaveBlock, bind_apply, goTo, Reading.done_andThen, Extent.missing]
  split
  · simp only [recover, recoverAt, lenient, Bool.false_eq_true, ↓reduceIte]
  · rfl

theorem blockBody_lenient {inner : Rule (List Stmt)} {stopAtElse : Bool} {mode : Mode}
    (lenient : mode.strict = false) {cursor last : Cursor} {body : List Stmt}
    {noted : List Recovery}
    (read : inner mode (.ofTokens (Extent.ofBody stopAtElse cursor.rest).closedBody) =
      .done body last noted) (opener : Token) :
    blockBody inner stopAtElse opener mode cursor =
      .done ⟨body, opener.place, (Extent.ofBody stopAtElse cursor.rest).closer⟩
        ((Extent.ofBody stopAtElse cursor.rest).behind cursor.lastStop)
        (noted ++ (Extent.ofBody stopAtElse cursor.rest).missing cursor.lastStop) := by
  simp [blockBody, here, within, read, leaveBlock_lenient _ _ lenient, Reading.andThen]

theorem blockBody_inside {inner : Rule (List Stmt)} {stopAtElse : Bool} {opener : Token}
    {mode : Mode} {cursor next : Cursor} {body : Block} {recoveries : List Recovery}
    (result : blockBody inner stopAtElse opener mode cursor = .done body next recoveries) :
    ∃ stmts last noted,
      inner mode (.ofTokens (Extent.ofBody stopAtElse cursor.rest).closedBody) =
        .done stmts last noted := by
  cases read : inner mode (.ofTokens (Extent.ofBody stopAtElse cursor.rest).closedBody) with
  | done stmts last noted => exact ⟨stmts, last, noted, rfl⟩
  | refused first => simp [blockBody, here, within, read] at result

theorem Extent.behind_suffix (extent : Extent) (lastStop : Nat) :
    (extent.behind lastStop).rest <:+ extent.rest := by
  simp only [Extent.behind]
  cases extent.closer with
  | closed => exact List.tail_suffix extent.rest
  | otherwise | endOfInput => exact List.suffix_rfl

theorem Extent.Alike.behind {left right : Extent} (alike : Extent.Alike pairing.exact left right)
    (ended : left.Ended) (lastStop lastStop' : Nat) :
    Near pairing true (left.behind lastStop) (right.behind lastStop') := by
  simp only [Extent.behind, alike.closer_eq]
  simp only [Extent.Ended] at ended
  -- only a closer is taken with the body; a branch word or the end is left where it stands
  cases closer : left.closer with
  | closed =>
      rw [closer] at ended
      obtain ⟨token, rest, found, closes⟩ := ended
      have stays : left.boundary.kind ≠ .finish := by
        simp only [Extent.boundary, found]
        exact Token.ne_finish_of_keyword? closes
      refine ⟨?_, fun _ => Or.inl ?_⟩
      · have rest := List.forall₂_drop 1 alike.rest
        simpa using rest
      · exact congrArg Token.stop (alike.boundary.eq (Or.inr stays))
  | otherwise =>
      rw [closer] at ended
      obtain ⟨token, rest, found, word⟩ := ended
      refine ⟨alike.rest, fun _ => Or.inr ?_⟩
      simp only [Cursor.isAtSymbol, Cursor.current, Cursor.ahead, found, List.drop_zero]
      exact Token.not_bracket_of_keyword? (by rcases word with word | word <;> simp [word])
  | endOfInput =>
      refine ⟨alike.rest, fun _ => Or.inr ?_⟩
      rw [closer] at ended
      simp only [Cursor.isAtSymbol, Cursor.current, Cursor.ahead, List.drop_zero]
      rcases ended with none | ⟨token, rest, found, finish⟩
      · simp [none, Token.isSymbol, Token.finishAt]
      · simp [found, Token.isSymbol, finish]

theorem leaveBlock_meets {left right : Extent} (alike : Extent.Alike pairing.exact left right)
    (ended : left.Ended) (lastStop lastStop' : Nat) (cursor cursor' : Cursor) :
    Meets pairing true (leaveBlock left lastStop pairing.left cursor)
      (leaveBlock right lastStop' pairing.right cursor') := by
  have near := alike.behind ended lastStop lastStop'
  have ends : Agree pairing (Near pairing true) true
      (if left.closer = .endOfInput then recover .blockNotClosed else pure ())
      (if right.closer = .endOfInput then recover .blockNotClosed else pure ()) := by
    rw [alike.closer_eq]
    split
    · exact agree_recover_last _
    · exact agree_pure
  simpa only [leaveBlock, bind_apply, goTo, Reading.done_andThen] using ends.meets _ _ near

variable {inner inner' : Rule (List Stmt)}
variable (inners : Agree pairing (Near pairing true) true inner inner')

include inners in
theorem blockBody_agree (stopAtElse : Bool) (opener : Token) :
    Agree pairing (Near pairing true) true (blockBody inner stopAtElse opener)
      (blockBody inner' stopAtElse opener) where
  forward cursor := by
    obtain ⟨body, _, _, read, _⟩ := (inners.forward
      (.ofTokens (Extent.ofBody stopAtElse cursor.rest).closedBody)).done
    rw [blockBody_lenient rfl read opener]
    exact (Extent.behind_suffix _ _).trans (Extent.scan_suffix stopAtElse 0 false cursor.rest)
  meets cursor cursor' near := by
    have alike := Extent.scan_alike near.rest stopAtElse 0 false
    have closer_eq : (Extent.ofBody stopAtElse cursor'.rest).closer =
        (Extent.ofBody stopAtElse cursor.rest).closer := alike.closer_eq
    simp only [blockBody, bind_apply, here, Reading.done_andThen]
    apply ((agree_within inners alike.closedBody).meets cursor cursor' near).andThen
    · intro body next
      refine ⟨(Extent.ofBody stopAtElse cursor.rest).behind cursor.lastStop, ?_⟩
      rw [leaveBlock_lenient _ _ rfl]
      exact List.suffix_rfl
    · intro body next _ next' _ _
      have leaves := leaveBlock_meets alike (Extent.scan_ended stopAtElse 0 false cursor.rest)
        cursor.lastStop cursor'.lastStop next next'
      refine leaves.andThen (fun _ next => ⟨next, List.suffix_rfl⟩) ?_
      intro _ last _ last' _ near
      exact ⟨last', by rw [pure_apply, closer_eq], near⟩

theorem blockBody_known {mode : Mode} (lenient : mode.strict = false) (stopAtElse : Bool)
    (opener : Token) (cursor : Cursor) (body : Block) (next : Cursor) (recoveries : List Recovery)
    (result : blockBody inner stopAtElse opener mode cursor = .done body next recoveries) :
    body.closer = .otherwise → next.current.kind ≠ .finish := by
  obtain ⟨stmts, _, _, read⟩ := blockBody_inside result
  rw [blockBody_lenient lenient read opener] at result
  obtain ⟨rfl, rfl, _⟩ := Reading.done.inj result
  intro otherwise
  have ended := Extent.scan_ended stopAtElse 0 false cursor.rest
  simp only [Extent.Ended, Extent.ofBody] at ended otherwise
  rw [otherwise] at ended
  obtain ⟨token, rest, found, word⟩ := ended
  simp only [Extent.behind, Extent.ofBody, otherwise, found, Cursor.current, Cursor.ahead,
    List.drop_zero]
  rcases word with word | word
  · exact Token.ne_finish_of_keyword? word
  · exact Token.ne_finish_of_keyword? word

include inners in
theorem block_agree (stopAtElse : Bool) :
    Agree pairing (AtToken pairing) true (block inner stopAtElse) (block inner' stopAtElse) := by
  apply agree_bind (agree_next fun _ _ held => held)
  intro opener
  split
  · apply agree_bind (agree_acceptSymbol _)
    intro _
    exact blockBody_agree inners stopAtElse opener
  · exact blockBody_agree inners stopAtElse opener

theorem block_known {mode : Mode} (lenient : mode.strict = false) (stopAtElse : Bool)
    (cursor : Cursor) (body : Block) (next : Cursor) (recoveries : List Recovery)
    (result : block inner stopAtElse mode cursor = .done body next recoveries) :
    body.closer = .otherwise → next.current.kind ≠ .finish := by
  simp only [block, bind_apply, Rule.next, Reading.done_andThen] at result
  split at result
  · simp only [bind_apply, acceptSymbol] at result
    split at result
    · rw [Reading.done_andThen] at result
      exact blockBody_known lenient stopAtElse _ _ body next recoveries result
    · rw [Reading.done_andThen] at result
      exact blockBody_known lenient stopAtElse _ _ body next recoveries result
  · exact blockBody_known lenient stopAtElse _ _ body next recoveries result

include inners in
theorem blockAfter_agree (head : Token) (what : Head) :
    Agree pairing (Near pairing true) true (blockAfter inner head what)
      (blockAfter inner' head what) := by
  apply agree_here (fun _ _ near => near)
  intro cursor cursor' near
  simp only [near.isAt_eq]
  split
  · rename_i opens
    apply (block_agree inners false).mono
    rintro _ _ ⟨near, rfl, rfl⟩
    exact ⟨near.loosen, Or.inr (Token.ne_finish_of_keyword? (by simpa [Cursor.isAt] using opens))⟩
  · apply agree_recover (fun _ _ held => held.1.loosen) (fun _ _ _ _ => rfl)
    exact agree_pure.mono fun _ _ held => held.2.1

/-! ### Declarations and assignments -/

theorem declared_agree (head : Token) :
    Agree pairing (Near pairing true) true (declaration.declared head)
      (declaration.declared head) := by
  apply agree_bind (nameFor_agree .declaration)
  intro name
  cases name with
  | none => exact agree_pure
  | some name =>
      apply agree_bind (agree_accept .assignOp)
      intro assigned
      cases assigned with
      | true =>
          apply agree_bind expression_settled
          intro initial
          exact agree_pure
      | false =>
          simp only [Bool.false_eq_true, ↓reduceIte]
          apply agree_here (fun _ _ near => near)
          intro cursor cursor' near
          simp only [near.startsOnLine_eq]
          split
          · apply agree_recover (fun _ _ held => held.1.loosen) (fun _ _ _ _ => rfl)
            exact agree_pure.mono fun _ _ held => held.2.1
          · exact agree_pure.mono fun _ _ held => held.1

theorem declaration_agree : Agree pairing (AtToken pairing) true declaration declaration := by
  apply agree_bind (agree_next fun _ _ held => held)
  intro head
  apply agree_here (fun _ _ near => near)
  intro cursor cursor' near
  simp only [near.isAt_eq, (near.ahead 1).isName_eq]
  split
  · rename_i typed
    simp only [Bool.and_eq_true, Cursor.isAt, decide_eq_true_eq] at typed
    refine agree_bind (agree_next ?_) ?_
    · rintro _ _ ⟨near, rfl, rfl⟩
      exact ⟨near.loosen, Or.inr (Token.ne_finish_of_keyword? typed.1)⟩
    intro _
    exact declared_agree head
  · exact (declared_agree head).mono fun _ _ held => held.1

theorem assignment_agree : Agree pairing (AtToken pairing) true assignment assignment := by
  apply agree_bind (agree_next fun _ _ held => held)
  intro head
  -- a value in front, as in "set 1 to x", or the name in front
  split
  · apply agree_bind expression_settled
    intro value
    apply agree_bind (agree_accept .assignOp)
    intro into
    cases into with
    | true =>
        apply agree_bind (nameFor_agree .assignment)
        intro name
        cases name with
        | none => exact agree_pure
        | some name => exact agree_pure
    | false =>
        apply agree_recover (fun _ _ near => near.loosen) (fun _ _ _ _ => rfl)
        exact agree_pure.mono fun _ _ held => held.2
  · apply agree_bind (nameFor_agree .assignment)
    intro name
    cases name with
    | none => exact agree_pure
    | some name =>
        apply agree_bind (agree_accept .assignOp)
        intro assigned
        cases assigned with
        | true =>
            apply agree_bind expression_settled
            intro value
            exact agree_pure
        | false =>
            apply agree_recover (fun _ _ near => near.loosen) (fun _ _ _ _ => rfl)
            exact agree_pure.mono fun _ _ held => held.2

theorem bareAssignment_agree :
    Agree pairing (fun cursor cursor' => AtToken pairing cursor cursor' ∧
        cursor.current.kind ≠ .finish ∧ (cursor.ahead 1).kind ≠ .finish) true
      bareAssignment bareAssignment := by
  apply agree_next_bind (fun _ _ held => held.1)
  intro name
  refine agree_bind (agree_next ?_) ?_
  · rintro _ _ ⟨cursor, _, ⟨at', here, ahead⟩, _, rfl, rfl⟩
    refine ⟨at'.1.advance.loosen, Or.inr ?_⟩
    rw [Cursor.current, cursor.ahead_advance 0 here]
    exact ahead
  intro _
  apply agree_bind expression_settled
  intro value
  exact agree_pure

/-! ### Functions -/

theorem parameters_agree (exprs : List Expr) :
    Agree pairing (Near pairing true) true (parameters exprs) (parameters exprs) := by
  induction exprs with
  | nil => exact agree_pure
  | cons expr rest ih =>
      cases expr with
      | ident name place =>
          apply agree_bind ih
          intro more
          exact agree_pure
      | literal _ _ | call _ _ _ _ | binary _ _ _ _ | unary _ _ _ | list _ _ | map _ _
      | index _ _ _ =>
          apply agree_recover (fun _ _ near => near.loosen) (fun _ _ _ _ => rfl)
          exact ih.mono fun _ _ held => held.2

theorem bareParameters_agree :
    Agree pairing (Near pairing true) true bareParameters bareParameters := by
  refine agree_tie (fun _ _ near => near.loosen) (fun _ _ near => near) (fun _ => agree_pure) ?_ ()
  intro self self' selves _
  apply agree_here (fun _ _ near => near)
  intro cursor cursor' near
  simp only [near.current.isName_eq]
  split
  · rename_i name
    refine agree_bind (agree_next ?_) ?_
    · rintro _ _ ⟨near, rfl, rfl⟩
      exact ⟨near.loosen, Or.inr (Token.ne_finish_of_isName name)⟩
    intro name
    apply agree_bind (selves ())
    intro more
    exact agree_pure
  · exact agree_pure.mono fun _ _ held => held.1

theorem parameterList_agree :
    Agree pairing (Near pairing true) true parameterList parameterList := by
  apply agree_here (fun _ _ near => near)
  intro cursor cursor' near
  simp only [near.isAtSymbol_eq]
  split
  · rename_i paren
    refine agree_bind ((parenArguments_agree expression_settled).mono ?_) ?_
    · rintro _ _ ⟨near, rfl, rfl⟩
      exact ⟨near.loosen, Or.inr (Token.ne_finish_of_isSymbol paren)⟩
    intro arguments
    exact parameters_agree arguments
  · exact bareParameters_agree.mono fun _ _ held => held.1

theorem aliasName_agree : Agree pairing (Near pairing true) true aliasName aliasName := by
  apply agree_bind (agree_accept .bind)
  intro named
  cases named with
  | true =>
      apply agree_bind (nameFor_agree .byname)
      intro name
      exact agree_pure
  | false => exact agree_pure

include inners in
theorem definition_agree :
    Agree pairing (AtToken pairing) true (definition inner) (definition inner') := by
  apply agree_bind (agree_next fun _ _ held => held)
  intro head
  apply agree_bind (nameFor_agree .function)
  intro name
  apply agree_bind parameterList_agree
  intro params
  apply agree_bind aliasName_agree
  intro byname
  apply agree_bind (blockAfter_agree inners head .function)
  intro body
  exact agree_pure

/-! ### Conditionals -/

theorem furtherHead?_agree (word : Token) :
    Agree pairing (Near pairing true) true (furtherHead? word) (furtherHead? word) := by
  apply agree_here (fun _ _ near => near)
  intro cursor cursor' near
  simp only [near.isAt_eq]
  split
  · exact agree_pure.mono fun _ _ held => held.1
  · split
    · rename_i again
      refine agree_bind (agree_next ?_) ?_
      · rintro _ _ ⟨near, rfl, rfl⟩
        exact ⟨near.loosen,
          Or.inr (Token.ne_finish_of_keyword? (by simpa [Cursor.isAt] using again))⟩
      intro head
      exact agree_pure
    · exact agree_pure.mono fun _ _ held => held.1

include inners in
theorem sharedBranch_agree :
    Agree pairing (fun cursor cursor' => Near pairing true cursor cursor' ∧
      cursor.current.kind ≠ .finish) true (sharedBranch inner) (sharedBranch inner') := by
  -- a chain begins at a word for "else"
  refine agree_tie (fun _ _ held => held.1.loosen) (fun _ _ held => held)
    (fun _ => agree_pure.mono fun _ _ held => held.1) ?_ ()
  intro self self' selves _
  apply agree_bind (agree_next fun _ _ held => ⟨held.1.loosen, Or.inr held.2⟩)
  intro word
  refine agree_bind (furtherHead?_agree word) ?_
  intro head
  cases head with
  | some head =>
      apply agree_bind expression_settled
      intro guard
      apply agree_bind (agree_accept .blockOpen)
      intro _
      refine agree_bind_known (blockBody_agree inners true head)
        (blockBody_known rfl true head) ?_
      intro body
      split
      · rename_i otherwise
        apply agree_bind ((selves ()).mono fun _ _ held => ⟨held.1, held.2 otherwise⟩)
        intro branch
        exact agree_pure
      · exact agree_pure.mono fun _ _ held => held.1
  | none =>
      apply agree_bind (blockBody_agree inners false word)
      intro body
      exact agree_pure

include inners in
theorem ownBranch_agree {self self' : Token × Expr → Rule Conditional}
    (selves : ∀ goal, Agree pairing (Near pairing true) true (self goal) (self' goal)) :
    Agree pairing (Near pairing true) true (conditionalTail.ownBranch inner self)
      (conditionalTail.ownBranch inner' self') := by
  apply agree_here (fun _ _ near => near)
  intro cursor cursor' near
  simp only [near.isAt_eq]
  split
  · rename_i otherwise
    have here : cursor.current.kind ≠ .finish := by
      rcases Bool.or_eq_true_iff.mp otherwise with word | word
      · exact Token.ne_finish_of_keyword? (by simpa [Cursor.isAt] using word)
      · exact Token.ne_finish_of_keyword? (by simpa [Cursor.isAt] using word)
    -- the word is no mark of the end, so both cursors move on by one token
    refine agree_bind (agree_next ?_) ?_
    · rintro _ _ ⟨near, rfl, rfl⟩
      exact ⟨near.loosen, Or.inr here⟩
    intro word
    refine agree_bind (furtherHead?_agree word) ?_
    intro head
    cases head with
    | some head =>
        apply agree_bind expression_settled
        intro guard
        apply agree_bind (selves (head, guard))
        intro further
        exact agree_pure
    | none =>
        apply agree_here (fun _ _ near => near)
        intro cursor cursor' near
        simp only [near.isAt_eq]
        split
        · rename_i opens
          refine agree_bind ((block_agree inners false).mono ?_) ?_
          · rintro _ _ ⟨near, rfl, rfl⟩
            exact ⟨near.loosen,
              Or.inr (Token.ne_finish_of_keyword? (by simpa [Cursor.isAt] using opens))⟩
          intro body
          exact agree_pure
        · apply agree_recover (fun _ _ held => held.1.loosen) (fun _ _ _ _ => rfl)
          exact agree_pure.mono fun _ _ held => held.2.1
  · exact agree_pure.mono fun _ _ held => held.1

include inners in
theorem conditionalTail_agree (goal : Token × Expr) :
    Agree pairing (Near pairing true) true (conditionalTail inner goal)
      (conditionalTail inner' goal) := by
  refine agree_tie (fun _ _ near => near.loosen) (fun _ _ near => near) (fun _ => agree_pure) ?_ _
  rintro self self' selves ⟨head, guard⟩
  apply agree_here (fun _ _ near => near)
  intro cursor cursor' near
  simp only [near.isAt_eq]
  split
  · rename_i opens
    refine agree_bind_known ((block_agree inners true).mono ?_) (block_known rfl true) ?_
    · rintro _ _ ⟨near, rfl, rfl⟩
      exact ⟨near.loosen,
        Or.inr (Token.ne_finish_of_keyword? (by simpa [Cursor.isAt] using opens))⟩
    intro body
    split
    · rename_i otherwise
      refine agree_bind
        ((sharedBranch_agree inners).mono fun _ _ held => ⟨held.1, held.2 otherwise⟩) ?_
      intro branch
      exact agree_pure
    · apply agree_bind ((ownBranch_agree inners selves).mono fun _ _ held => held.1)
      intro branch
      exact agree_pure
  · apply agree_recover (fun _ _ held => held.1.loosen) (fun _ _ _ _ => rfl)
    exact agree_pure.mono fun _ _ held => held.2.1

include inners in
theorem conditional_agree :
    Agree pairing (AtToken pairing) true (conditional inner) (conditional inner') := by
  apply agree_bind (agree_next fun _ _ held => held)
  intro head
  apply agree_bind expression_settled
  intro guard
  apply agree_bind (conditionalTail_agree inners (head, guard))
  intro read
  exact agree_pure

/-! ### Loops -/

include inners in
theorem eachTail_agree (head : Token) :
    Agree pairing (Near pairing true) true (eachTail inner head) (eachTail inner' head) := by
  have bodies : ∀ item, Agree pairing (Near pairing true) true
      (eachTail.eachBody inner head item) (eachTail.eachBody inner' head item) := by
    intro item
    apply agree_bind expression_settled
    intro list
    apply agree_bind (blockAfter_agree inners head .each)
    intro body
    exact agree_pure
  apply agree_bind (nameFor_agree .loopItem)
  intro item
  apply agree_bind (agree_accept .within)
  intro within
  cases within with
  | true => exact bodies item
  | false =>
      apply agree_recover (fun _ _ near => near.loosen) (fun _ _ _ _ => rfl)
      exact (bodies item).mono fun _ _ held => held.2

include inners in
theorem eachLoop_agree :
    Agree pairing (AtToken pairing) true (eachLoop inner) (eachLoop inner') := by
  apply agree_bind (agree_next fun _ _ held => held)
  intro head
  exact eachTail_agree inners head

include inners in
theorem guardLoop_agree :
    Agree pairing (AtToken pairing) true (guardLoop inner) (guardLoop inner') := by
  apply agree_bind (agree_next fun _ _ held => held)
  intro head
  apply agree_bind expression_settled
  intro guard
  apply agree_bind (blockAfter_agree inners head .loopGuard)
  intro body
  exact agree_pure

include inners in
theorem loop_agree : Agree pairing (AtToken pairing) true (loop inner) (loop inner') := by
  apply agree_bind (agree_next fun _ _ held => held)
  intro head
  apply agree_here (fun _ _ near => near)
  intro cursor cursor' near
  simp only [near.isAt_eq, near.current.isName_eq, (near.ahead 1).keyword?_eq]
  split
  · rename_i guarded
    apply (guardLoop_agree inners).mono
    rintro _ _ ⟨near, rfl, rfl⟩
    exact ⟨near.loosen,
      Or.inr (Token.ne_finish_of_keyword? (by simpa [Cursor.isAt] using guarded))⟩
  · split
    · rename_i each
      apply (eachLoop_agree inners).mono
      rintro _ _ ⟨near, rfl, rfl⟩
      exact ⟨near.loosen,
        Or.inr (Token.ne_finish_of_keyword? (by simpa [Cursor.isAt] using each))⟩
    · split
      · exact (eachTail_agree inners head).mono fun _ _ held => held.1
      · apply agree_bind (expression_settled.mono fun _ _ held => held.1)
        intro rounds
        apply agree_bind (agree_accept .mul)
        intro _
        apply agree_bind (blockAfter_agree inners head .loopCount)
        intro body
        exact agree_pure

/-! ### Other statements -/

theorem giveBack_agree : Agree pairing (AtToken pairing) true giveBack giveBack := by
  apply agree_bind (agree_next fun _ _ held => held)
  intro head
  apply agree_here (fun _ _ near => near)
  intro cursor cursor' near
  simp only [near.startsOnLine_eq]
  split
  · apply agree_bind (expression_settled.mono fun _ _ held => held.1)
    intro value
    exact agree_pure
  · exact agree_pure.mono fun _ _ held => held.1

theorem outputArguments_agree (head : Token) :
    Agree pairing (Near pairing true) true (outputArguments head) (outputArguments head) := by
  refine agree_bind (argument?_agree expression_settled head.line) ?_
  intro first
  cases first with
  | none => exact agree_pure
  | some first =>
      refine agree_bind (argument?_agree expression_settled head.line) ?_
      intro second
      cases second with
      | none => exact agree_pure
      | some second => exact agree_pure

theorem output_agree : Agree pairing (AtToken pairing) true output output := by
  apply agree_bind (agree_next fun _ _ held => held)
  intro head
  apply agree_here (fun _ _ near => near)
  intro cursor cursor' near
  simp only [near.atOutputParens_eq]
  split
  · rename_i parens
    simp only [Cursor.atOutputParens, Bool.and_eq_true] at parens
    refine agree_bind ((parenArguments_agree expression_settled).mono ?_) ?_
    · rintro _ _ ⟨near, rfl, rfl⟩
      exact ⟨near.loosen, Or.inr (Token.ne_finish_of_isSymbol parens.1)⟩
    intro arguments
    exact agree_pure
  · apply agree_bind ((outputArguments_agree head).mono fun _ _ held => held.1)
    intro arguments
    exact agree_pure

theorem passOver_agree (flaw : String → Flaw) :
    Agree pairing (Near pairing false) true (passOver flaw) (passOver flaw) := by
  apply agree_here (fun _ _ near => near)
  intro cursor cursor' near
  apply agree_recover (fun _ _ held => held.1)
  · intro exact' _ _ _
    rw [near.current_eq (Or.inl exact')]
  · apply agree_bind (agree_next fun _ _ held => ⟨held.2.1, Or.inl held.1⟩)
    intro _
    exact agree_pure

theorem plainStatement_agree :
    Agree pairing (Near pairing false) true plainStatement plainStatement := by
  apply agree_here (fun _ _ near => near)
  intro cursor cursor' near
  simp only [near.current.isSymbol_eq, near.current.kind_eq, (near.ahead 1).keyword?_eq,
    near.current.startsExpression_eq]
  split
  · rename_i separator
    have here : cursor.current.kind ≠ .finish := by
      rcases Bool.or_eq_true_iff.mp separator with symbol | symbol
      · exact Token.ne_finish_of_isSymbol symbol
      · exact Token.ne_finish_of_isSymbol symbol
    refine agree_bind (agree_next ?_) ?_
    · rintro _ _ ⟨near, rfl, rfl⟩
      exact ⟨near, Or.inr here⟩
    intro _
    exact agree_pure
  · split
    · rename_i assigns
      simp only [Bool.and_eq_true, decide_eq_true_eq] at assigns
      have here : cursor.current.kind ≠ .finish := by simp [assigns.1]
      refine agree_map _ (bareAssignment_agree.mono ?_)
      rintro _ _ ⟨near, rfl, rfl⟩
      exact ⟨⟨near, Or.inr here⟩, here, Token.ne_finish_of_keyword? assigns.2⟩
    · split
      · apply agree_bind (expression_agree.mono fun _ _ held => held.1)
        intro value
        exact agree_pure
      · exact (passOver_agree _).mono fun _ _ held => held.1

include inners in
theorem statement_agree :
    Agree pairing (Near pairing false) true (statement inner) (statement inner') := by
  apply agree_here (fun _ _ near => near)
  intro cursor cursor' near
  simp only [near.current.lead_eq]
  have atToken : lead cursor.current ≠ .plain → ∀ left right,
      Near pairing false left right ∧ left = cursor ∧ right = cursor' →
        AtToken pairing left right := by
    rintro leads _ _ ⟨near, rfl, rfl⟩
    exact ⟨near, Or.inr (Token.ne_finish_of_lead leads)⟩
  cases leads : lead cursor.current with
  | plain => exact plainStatement_agree.mono fun _ _ held => held.1
  | closer => exact (passOver_agree _).mono fun _ _ held => held.1
  | otherwise => exact (passOver_agree _).mono fun _ _ held => held.1
  | declaration => exact declaration_agree.mono (atToken (by simp [leads]))
  | definition => exact agree_map _ ((definition_agree inners).mono (atToken (by simp [leads])))
  | conditional => exact agree_map _ ((conditional_agree inners).mono (atToken (by simp [leads])))
  | loop => exact agree_map _ ((loop_agree inners).mono (atToken (by simp [leads])))
  | whileLoop => exact agree_map _ ((guardLoop_agree inners).mono (atToken (by simp [leads])))
  | each => exact agree_map _ ((eachLoop_agree inners).mono (atToken (by simp [leads])))
  | giveBack => exact agree_map _ (giveBack_agree.mono (atToken (by simp [leads])))
  | output => exact agree_map _ (output_agree.mono (atToken (by simp [leads])))
  | assignment => exact assignment_agree.mono (atToken (by simp [leads]))
  | block =>
      apply agree_bind ((block_agree inners false).mono (atToken (by simp [leads])))
      intro read
      exact agree_pure

end

section

variable {pairing : Pairing}

theorem noStatement_agree :
    Agree pairing (Near pairing true) true statements.noStatement statements.noStatement := by
  apply agree_here (fun _ _ near => near)
  intro cursor cursor' near
  apply agree_recover (fun _ _ held => held.1.loosen)
  · intro exact' _ _ _
    rw [near.current_eq (Or.inl exact')]
  · exact agree_pure.mono fun _ _ held => held.2.1

theorem statements_agree : Agree pairing (Near pairing false) true statements statements := by
  -- what stands before a program does not matter
  refine agree_tie (fun _ _ near => near) (fun _ _ near => near.loosen)
    (fun _ => noStatement_agree) ?_ ()
  intro self self' selves _
  apply agree_here (fun _ _ near => near)
  intro cursor cursor' near
  simp only [near.atEnd_eq]
  split
  · rename_i ends
    apply agree_pure.mono
    rintro _ _ ⟨near, rfl, rfl⟩
    apply near.settle
    simp only [Cursor.atEnd, decide_eq_true_eq] at ends
    simp [Cursor.isAtSymbol, Token.isSymbol, ends]
  · apply agree_bind ((statement_agree (selves ())).mono fun _ _ held => held.1)
    intro first
    apply agree_bind (selves ())
    intro more
    exact agree_pure

end

end Parlance.Grammar
