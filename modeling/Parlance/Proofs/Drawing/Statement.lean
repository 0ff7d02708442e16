import Parlance.Proofs.Drawing.Expression
import Parlance.Proofs.Progress.Program

/-!
Statements draw on their tokens. The body of a block is read from tokens of its own, which are taken
with the block; what an expression is made of is never left behind for another.
-/

namespace Parlance.Grammar

open Rule Node

def stmtNodes (stmt : Stmt) : List Node := [stmt.toNode]

def maybeNodes (stmt : Option Stmt) : List Node := Stmt.toNodes stmt.toList

def Block.node (block : Block) : Node := .plain .block block.place (Stmt.toNodes block.body)

section

variable {stands : Place → Prop} {mode : Mode} {credit : Multiset Node.Call} {cursor : Cursor}

theorem nameFor_draws (role : Named) : Drawing stands mode 0 (nameFor role) fun _ => [] := by
  intro cursor
  apply Draws.here
  split
  · apply Draws.next
    intro _
    apply Draws.pure <;> simp
  · apply Draws.recover
    apply Draws.pure <;> simp

/-! ### Blocks -/

/-- The tokens that close the body of a block stand where tokens ahead do. -/
theorem Cursor.Amid.closedBody (amid : cursor.Amid stands) (stopAtElse : Bool) :
    (Cursor.ofTokens (Extent.ofBody stopAtElse cursor.rest).closedBody).Amid stands := by
  obtain ⟨later, split⟩ := Extent.ofBody_split amid.closed stopAtElse
  have ahead : ∀ token ∈ (Extent.ofBody stopAtElse cursor.rest).body ++
      (Extent.ofBody stopAtElse cursor.rest).boundary :: later, stands token.place := by
    rw [← split]
    exact amid.places
  obtain ⟨body, ends, _⟩ := List.forall_mem_append.mp ahead |>.imp_right List.forall_mem_cons.mp
  exact ⟨⟨_, List.mem_append_right _ List.mem_cons_self, rfl⟩,
    List.forall_mem_append.mpr ⟨body, List.forall_mem_singleton.mpr ends⟩⟩

theorem leaveBlock_next {extent : Extent} {lastStop : Nat} {next : Cursor} {noted : List Recovery}
    (leaves : leaveBlock extent lastStop mode cursor = .done () next noted) :
    next = extent.behind lastStop := by
  rw [leaveBlock, bind_apply, goTo, Reading.done_andThen] at leaves
  split at leaves
  · rw [Rule.recover, recoverAt] at leaves
    split at leaves
    · cases leaves
    · exact (Reading.done.inj leaves).2.1.symm
  · exact (Reading.done.inj leaves).2.1.symm

variable {inner : Rule (List Stmt)} (inners : Drawing stands mode 0 inner Stmt.toNodes)

include inners

theorem blockBody_draws (stopAtElse : Bool) {opener : Token} (place : stands opener.place) :
    Drawing stands mode 0 (blockBody inner stopAtElse opener) fun block => [block.node] := by
  intro cursor amid value next noted read
  rw [blockBody, bind_apply, Rule.here, Reading.done_andThen] at read
  obtain ⟨body, _, _, _, inside, goesOn⟩ := Reading.andThen_read read
  obtain ⟨_, last, _, _, leaves, done⟩ := Reading.andThen_read goesOn
  obtain ⟨rfl, rfl, _⟩ := Reading.done.inj done
  obtain rfl := leaveBlock_next leaves
  set extent := Extent.ofBody stopAtElse cursor.rest with scanned
  -- the body is read from its own tokens, up to the closing one that they end with
  rw [within] at inside
  split at inside
  · cases inside
  rename_i stmts last' noted' read'
  obtain ⟨rfl, _, _⟩ := Reading.done.inj inside
  obtain ⟨taken, split, open', places, paid⟩ :=
    inners _ (amid.closedBody stopAtElse) read'
  have front : taken <+: extent.body := by
    have ahead : taken <+: extent.body ++ [_] := ⟨_, split.symm⟩
    rcases List.prefix_concat_iff.mp ahead with whole | front
    · exact absurd rfl (open' _ (whole ▸ List.mem_append_right _ List.mem_cons_self))
    · exact front
  obtain ⟨rest, body⟩ := front
  -- behind the body the block is left with the token that closes it
  obtain ⟨ending, split', ended, _⟩ :=
    Extent.ending_reaches (Extent.scan_ended stopAtElse 0 false cursor.rest) cursor.lastStop
  have parts : extent.body ++ extent.rest = cursor.rest :=
    Extent.scan_append stopAtElse 0 false cursor.rest
  have rest' : extent.rest = ending ++ (extent.behind cursor.lastStop).rest := split'
  refine ⟨extent.body ++ ending, by rw [← parts, rest', List.append_assoc],
    List.forall_mem_append.mpr ⟨Extent.scan_body_open stopAtElse 0 false cursor.rest, ended⟩,
    by simpa [Block.node] using ⟨place, places⟩, ?_⟩
  calc allCalls [Block.node ⟨stmts, opener.place, extent.closer⟩]
      = allCalls (Stmt.toNodes stmts) := by simp [Block.node]
    _ ≤ Token.calls mode.capabilities false taken := by simpa using paid
    _ ≤ Token.calls mode.capabilities false (taken ++ (rest ++ ending)) :=
        le_trans (Multiset.le_add_right _ _) (Token.calls_append _ _)
    _ = 0 + Token.calls mode.capabilities false (extent.body ++ ending) := by
        rw [zero_add, ← body, List.append_assoc]

theorem block_draws (stopAtElse : Bool) :
    Drawing stands mode 0 (block inner stopAtElse) fun block => [block.node] := by
  intro cursor
  apply Draws.next
  intro place
  split
  · apply Draws.acceptSymbol
    · exact blockBody_draws inners stopAtElse place _
    · exact blockBody_draws inners stopAtElse place _
  · exact blockBody_draws inners stopAtElse place _

theorem blockAfter_draws {head : Token} (place : stands head.place) (what : Head) :
    Drawing stands mode 0 (blockAfter inner head what) fun block => [block.node] := by
  intro cursor
  apply Draws.here
  split
  · exact block_draws inners false _
  · apply Draws.recover
    apply Draws.pure <;> simp [Block.node, Stmt.toNodes, place]

omit inners

/-! ### Declarations and assignments -/

theorem declared_draws {head : Token} (place : stands head.place) :
    Drawing stands mode 0 (declaration.declared head) maybeNodes := by
  intro cursor
  apply Draws.bind (nameFor_draws .declaration _)
  intro name next _
  have bare : ∀ name cursor, Draws stands mode false 0 cursor
      (pure (some (.declare name none head.place))) maybeNodes := by
    intro name cursor
    apply Draws.pure <;> simp [maybeNodes, Stmt.toNodes, Stmt.toNode, Expr.toNodes, place]
  cases name with
  | none => apply Draws.pure <;> simp [maybeNodes, Stmt.toNodes]
  | some name =>
      apply Draws.accept
      · apply Draws.bind (expression_draws _)
        intro initial _ places
        apply Draws.pure
        · simp_all [maybeNodes, Stmt.toNodes, Stmt.toNode, Expr.toNodes, exprNodes]
        · simp [maybeNodes, Stmt.toNodes, Stmt.toNode, Expr.toNodes, exprNodes]
      · apply Draws.here
        split
        · apply Draws.recover
          simpa using bare name.lexeme _
        · simpa using bare name.lexeme _

theorem declaration_draws : Drawing stands mode 0 declaration maybeNodes := by
  intro cursor
  apply Draws.next
  intro place
  apply Draws.here
  split
  · apply Draws.next
    intro _
    exact declared_draws place _
  · exact declared_draws place _

theorem assignment_draws : Drawing stands mode 0 assignment maybeNodes := by
  intro cursor
  apply Draws.next
  intro place
  -- a statement that is given up has no nodes, so any credit covers it
  have none : ∀ credit cursor, Draws stands mode false credit cursor (pure none) maybeNodes := by
    intro credit cursor
    exact .pure (by simp [maybeNodes, Stmt.toNodes]) (Multiset.zero_le _)
  split
  · apply Draws.bind (expression_draws _)
    intro value next places
    apply Draws.accept
    · apply Draws.bind (nameFor_draws .assignment _)
      intro name _ _
      cases name with
      | none => exact none _ _
      | some name =>
          apply Draws.pure
          · simp_all [maybeNodes, Stmt.toNodes, Stmt.toNode, exprNodes]
          · simp [maybeNodes, Stmt.toNodes, Stmt.toNode, exprNodes]
    · exact .recover (none _ _)
  · apply Draws.bind (nameFor_draws .assignment _)
    intro name _ _
    cases name with
    | none => exact none _ _
    | some name =>
        apply Draws.accept
        · apply Draws.bind (expression_draws _)
          intro value _ places
          apply Draws.pure
          · simp_all [maybeNodes, Stmt.toNodes, Stmt.toNode, exprNodes]
          · simp [maybeNodes, Stmt.toNodes, Stmt.toNode, exprNodes]
        · exact .recover (none _ _)

theorem bareAssignment_draws : Drawing stands mode 0 bareAssignment stmtNodes := by
  intro cursor
  apply Draws.next
  intro place
  apply Draws.next
  intro _
  apply Draws.bind (expression_draws _)
  intro value _ places
  apply Draws.pure
  · simp_all [stmtNodes, Stmt.toNode, exprNodes]
  · simp [stmtNodes, Stmt.toNode, exprNodes]

/-! ### Definitions -/

def paramNodes (params : List Param) : List Node := params.map Param.toNode

theorem parameters_draws {values : List Expr} (places : AllAt stands (Expr.toNodes values)) :
    Drawing stands mode 0 (parameters values) paramNodes := by
  -- of the expressions between parentheses only the names stay
  induction values with
  | nil =>
      intro cursor
      apply Draws.pure <;> simp [paramNodes]
  | cons value rest ih =>
      intro cursor
      simp only [Expr.toNodes, allThroughout_cons] at places
      cases value with
      | ident name place =>
          apply Draws.bind (ih places.2 _)
          intro more _ places'
          apply Draws.pure
          · simp_all [paramNodes, Param.toNode, Expr.toNode]
          · simp [paramNodes, Param.toNode]
      | _ => exact .recover (ih places.2 _)

theorem bareParameters_draws : Drawing stands mode 0 bareParameters paramNodes := by
  refine drawing_tie (fun _ => True) (fun _ => 0) ?_ ?_ () trivial
  · intro _ _ cursor
    apply Draws.pure <;> simp [paramNodes]
  · intro self selves _ _ cursor
    apply Draws.here
    split
    · apply Draws.next
      intro place
      apply Draws.bind (selves () trivial _)
      intro more _ places
      apply Draws.pure
      · simp_all [paramNodes, Param.toNode]
      · simp [paramNodes, Param.toNode]
    · apply Draws.pure <;> simp [paramNodes]

theorem parameterList_draws : Drawing stands mode 0 parameterList paramNodes := by
  intro cursor
  apply Draws.here
  split
  · apply Draws.bind (parenArguments_draws expression_draws _)
    intro arguments next places
    exact (parameters_draws places next).credited (Multiset.zero_le _)
  · exact bareParameters_draws _

theorem aliasName_draws : Drawing stands mode 0 aliasName fun _ => [] := by
  intro cursor
  apply Draws.accept
  · apply Draws.bind (nameFor_draws .byname _)
    intro name _ _
    apply Draws.pure <;> simp
  · apply Draws.pure <;> simp

include inners

theorem definition_draws : Drawing stands mode 0 (definition inner) stmtNodes := by
  intro cursor
  apply Draws.next
  intro place
  apply Draws.bind (nameFor_draws .function _)
  intro name _ _
  apply Draws.bind (parameterList_draws _)
  intro params _ places
  apply Draws.bind (aliasName_draws _)
  intro byname _ _
  apply Draws.bind (blockAfter_draws inners place .function _)
  intro body _ places'
  apply Draws.pure
  · simp_all [stmtNodes, Stmt.toNode, paramNodes, Block.node]
  · simp [stmtNodes, Stmt.toNode, paramNodes, Block.node]

/-! ### Conditionals -/

omit inners in
/-- The node that a further conditional is to have, without what is read behind its head. -/
def headNodes (head : Option Token) : List Node :=
  head.toList.map fun token => .plain .conditional token.place []

omit inners in
theorem furtherHead?_draws {word : Token} (place : stands word.place) :
    Drawing stands mode 0 (furtherHead? word) headNodes := by
  intro cursor
  apply Draws.here
  split
  · apply Draws.pure <;> simp [headNodes, place]
  · split
    · apply Draws.next
      intro place'
      apply Draws.pure <;> simp [headNodes, place']
    · apply Draws.pure <;> simp [headNodes]

theorem sharedBranch_draws : Drawing stands mode 0 (sharedBranch inner) Branch.toNodes := by
  refine drawing_tie (fun _ => True) (fun _ => 0) ?_ ?_ () trivial
  · intro _ _ cursor
    apply Draws.pure <;> simp [Branch.toNodes]
  · intro self selves _ _ cursor
    apply Draws.next
    intro place
    apply Draws.bind (furtherHead?_draws place _)
    intro head next place'
    cases head with
    | some head =>
      replace place' : stands head.place := by simpa [headNodes] using place'
      apply Draws.bind (expression_draws _)
      intro guard next places
      -- behind the guard the body is drawn from the block, and a further branch from what follows
      have goes : ∀ cursor, Draws stands mode false (0 + allCalls (exprNodes guard)) cursor
          (blockBody inner true head >>= fun body =>
            if body.closer = .otherwise then do
              let otherwise ← self ()
              pure (.conditional guard body.body body.place otherwise head.place)
            else pure (.conditional guard body.body body.place .absent head.place))
          Branch.toNodes := by
        intro cursor
        apply Draws.bind (blockBody_draws inners true place' _)
        intro body _ places'
        split
        · apply Draws.bind (selves () trivial _)
          intro otherwise _ places''
          apply Draws.pure
          · simp_all [Branch.toNodes, Block.node, exprNodes]
          · simp [Branch.toNodes, Block.node, exprNodes, add_assoc]
        · apply Draws.pure
          · simp_all [Branch.toNodes, Block.node, exprNodes]
          · simp [Branch.toNodes, Block.node, exprNodes]
      exact .accept (goes _) (goes _)
    | none =>
        apply Draws.bind (blockBody_draws inners false place _)
        intro body _ places
        apply Draws.pure
        · simpa [Branch.toNodes, Block.node] using places
        · simp [Branch.toNodes, Block.node, headNodes]

def conditionalNodes (read : Conditional) : List Node := [read.stmt.toNode]

theorem conditionalTail_draws {head : Token} {guard : Expr} (place : stands head.place)
    (places : guard.toNode.At stands) :
    Drawing stands mode guard.toNode.calls (conditionalTail inner (head, guard))
      conditionalNodes := by
  -- the guard is read before, and its calls go on as the credit
  refine drawing_tie (fun goal => stands goal.1.place ∧ goal.2.toNode.At stands)
    (fun goal => goal.2.toNode.calls) ?_ ?_ (head, guard) ⟨place, places⟩
  · rintro ⟨head, guard⟩ ⟨place, places⟩ cursor
    apply Draws.pure
    · simp_all [conditionalNodes, Conditional.stmt, Stmt.toNode, Stmt.toNodes, Branch.toNodes]
    · simp [conditionalNodes, Conditional.stmt, Stmt.toNode, Stmt.toNodes, Branch.toNodes]
  rintro self selves ⟨head, guard⟩ ⟨place, places⟩ cursor
  have own : Drawing stands mode 0 (conditionalTail.ownBranch inner self) Branch.toNodes := by
    intro cursor
    have absent : ∀ cursor, Draws stands mode false 0 cursor (pure .absent) Branch.toNodes := by
      intro cursor
      apply Draws.pure <;> simp [Branch.toNodes]
    apply Draws.here
    split
    · apply Draws.next
      intro place
      apply Draws.bind (furtherHead?_draws place _)
      intro head next place'
      cases head with
      | some head =>
          apply Draws.bind (expression_draws _)
          intro guard next places
          have goal : stands head.place ∧ guard.toNode.At stands := by
            simpa [headNodes, exprNodes] using And.intro place' places
          have further := selves (head, guard) goal next
          have spent : 0 + allCalls (headNodes (some head)) + allCalls (exprNodes guard) =
              0 + guard.toNode.calls := by
            simp [headNodes, exprNodes]
          rw [spent]
          apply Draws.bind_spending further
          intro read _ places
          rw [zero_add]
          exact .pure places le_rfl
      | none =>
          apply Draws.here
          split
          · apply Draws.bind (block_draws inners false _)
            intro body _ places
            apply Draws.pure
            · simpa [Branch.toNodes, Block.node] using places
            · simp [Branch.toNodes, Block.node, headNodes]
          · exact .recover (by simpa [headNodes] using absent _)
    · exact absent _
  apply Draws.here
  split
  · apply Draws.bind (block_draws inners true _)
    intro body next places'
    have whole : ∀ otherwise, AllAt stands (Branch.toNodes otherwise) →
        AllAt stands (conditionalNodes ⟨guard, body.body, body.place, otherwise, head.place⟩) := by
      intro otherwise places''
      simp_all [conditionalNodes, Conditional.stmt, Stmt.toNode, Block.node]
    split
    · apply Draws.bind (sharedBranch_draws inners _)
      intro otherwise _ places''
      apply Draws.pure (whole otherwise places'')
      simp [conditionalNodes, Conditional.stmt, Stmt.toNode, Block.node, add_assoc]
    · apply Draws.bind (own _)
      intro otherwise _ places''
      apply Draws.pure (whole otherwise places'')
      simp [conditionalNodes, Conditional.stmt, Stmt.toNode, Block.node, add_assoc]
  · apply Draws.recover
    apply Draws.pure
    · simp_all [conditionalNodes, Conditional.stmt, Stmt.toNode, Stmt.toNodes, Branch.toNodes]
    · simp [conditionalNodes, Conditional.stmt, Stmt.toNode, Stmt.toNodes, Branch.toNodes]

theorem conditional_draws : Drawing stands mode 0 (conditional inner) stmtNodes := by
  intro cursor
  apply Draws.next
  intro place
  apply Draws.bind (expression_draws _)
  intro guard next places
  have guarded : guard.toNode.At stands := by simpa [exprNodes] using places
  have tail := conditionalTail_draws inners place guarded next
  have spent : 0 + allCalls (exprNodes guard) = 0 + guard.toNode.calls := by simp [exprNodes]
  rw [spent]
  apply Draws.bind_spending tail
  intro read _ places
  exact .pure places (by simp [conditionalNodes, stmtNodes])

/-! ### Loops -/

theorem eachTail_draws {head : Token} (place : stands head.place) :
    Drawing stands mode 0 (eachTail inner head) stmtNodes := by
  intro cursor
  have goes : ∀ item, Drawing stands mode 0 (eachTail.eachBody inner head item) stmtNodes := by
    intro item cursor
    apply Draws.bind (expression_draws _)
    intro list _ places
    apply Draws.bind (blockAfter_draws inners place .each _)
    intro body _ places'
    apply Draws.pure
    · simp_all [stmtNodes, Stmt.toNode, LoopHead.expr, Block.node, exprNodes]
    · simp [stmtNodes, Stmt.toNode, LoopHead.expr, Block.node, exprNodes]
  apply Draws.bind (nameFor_draws .loopItem _)
  intro item next _
  exact .accept (goes item _) (.recover (goes item _))

theorem eachLoop_draws : Drawing stands mode 0 (eachLoop inner) stmtNodes := by
  intro cursor
  apply Draws.next
  intro place
  exact eachTail_draws inners place _

theorem guardLoop_draws : Drawing stands mode 0 (guardLoop inner) stmtNodes := by
  intro cursor
  apply Draws.next
  intro place
  apply Draws.bind (expression_draws _)
  intro guard _ places
  apply Draws.bind (blockAfter_draws inners place .loopGuard _)
  intro body _ places'
  apply Draws.pure
  · simp_all [stmtNodes, Stmt.toNode, LoopHead.expr, Block.node, exprNodes]
  · simp [stmtNodes, Stmt.toNode, LoopHead.expr, Block.node, exprNodes]

theorem loop_draws : Drawing stands mode 0 (loop inner) stmtNodes := by
  intro cursor
  apply Draws.next
  intro place
  apply Draws.here
  split
  · exact guardLoop_draws inners _
  · split
    · exact eachLoop_draws inners _
    · split
      · exact eachTail_draws inners place _
      · apply Draws.bind (expression_draws _)
        intro rounds _ places
        have goes : ∀ next, Draws stands mode false (0 + allCalls (exprNodes rounds)) next
            (blockAfter inner cursor.current .loopCount >>= fun body =>
              pure (.loop (.count rounds) body.body body.place cursor.current.place))
            stmtNodes := by
          intro next
          apply Draws.bind (blockAfter_draws inners place .loopCount _)
          intro body _ places'
          apply Draws.pure
          · simp_all [stmtNodes, Stmt.toNode, LoopHead.expr, Block.node, exprNodes]
          · simp [stmtNodes, Stmt.toNode, LoopHead.expr, Block.node, exprNodes]
        exact .accept (goes _) (goes _)

omit inners

/-! ### The other statements -/

theorem giveBack_draws : Drawing stands mode 0 giveBack stmtNodes := by
  intro cursor
  apply Draws.next
  intro place
  apply Draws.here
  split
  · apply Draws.bind (expression_draws _)
    intro value _ places
    apply Draws.pure
    · simp_all [stmtNodes, Stmt.toNode, Expr.toNodes, exprNodes]
    · simp [stmtNodes, Stmt.toNode, Expr.toNodes, exprNodes]
  · apply Draws.pure <;> simp [stmtNodes, Stmt.toNode, Expr.toNodes, place]

theorem output_pair_nodes {value count : Expr} {place : Place} (here : stands place)
    (one : At stands value.toNode) (two : At stands count.toNode) :
    AllAt stands (stmtNodes (.output (some (value, some count)) place)) ∧
      allCalls (stmtNodes (.output (some (value, some count)) place)) =
        value.toNode.calls + count.toNode.calls := by
  simp [stmtNodes, Stmt.toNode, Stmt.outputArguments, Expr.toNodes, here, one, two]

/-- Of the arguments at most two stay, in this order or the other. -/
theorem output_nodes {values : List Expr} {place : Place} (here : stands place)
    (places : AllAt stands (Expr.toNodes values)) :
    AllAt stands (stmtNodes (.output (outputOf values) place)) ∧
      allCalls (stmtNodes (.output (outputOf values) place)) ≤ allCalls (Expr.toNodes values) := by
  match values with
  | [] => simp [stmtNodes, Stmt.toNode, outputOf, Stmt.outputArguments, Expr.toNodes, here]
  | [value] => simp_all [stmtNodes, Stmt.toNode, outputOf, Stmt.outputArguments, Expr.toNodes]
  | first :: second :: rest =>
      obtain ⟨one, others⟩ := Node.allThroughout_cons.mp places
      obtain ⟨two, _⟩ := Node.allThroughout_cons.mp others
      have paid : first.toNode.calls + second.toNode.calls ≤
          allCalls (Expr.toNodes (first :: second :: rest)) := by
        simp only [Expr.toNodes, allCalls_cons, ← add_assoc]
        exact Multiset.le_add_right _ _
      simp only [outputOf]
      split
      · obtain ⟨stand, calls⟩ := output_pair_nodes here two one
        exact ⟨stand, (calls.trans (add_comm _ _)) ▸ paid⟩
      · obtain ⟨stand, calls⟩ := output_pair_nodes here one two
        exact ⟨stand, calls ▸ paid⟩

theorem outputArguments_draws (head : Token) :
    Drawing stands mode 0 (outputArguments head) Expr.toNodes := by
  intro cursor
  apply Draws.bind (argument?_draws expression_draws head.line _)
  intro first _ places
  cases first with
  | none => apply Draws.pure <;> simp [Expr.toNodes]
  | some first =>
      apply Draws.bind (argument?_draws expression_draws head.line _)
      intro second _ places'
      cases second with
      | none => apply Draws.pure <;> simp_all [Expr.toNodes]
      | some second => apply Draws.pure <;> simp_all [Expr.toNodes]

theorem output_draws : Drawing stands mode 0 output stmtNodes := by
  intro cursor
  apply Draws.next
  intro place
  apply Draws.here
  split
  · apply Draws.bind (parenArguments_draws expression_draws _)
    intro values _ places
    obtain ⟨places, paid⟩ := output_nodes place places
    exact .pure places (by simpa using paid)
  · apply Draws.bind (outputArguments_draws cursor.current _)
    intro values _ places
    obtain ⟨places, paid⟩ := output_nodes place places
    exact .pure places (by simpa using paid)

theorem passOver_draws (flaw : String → Flaw) :
    Drawing stands mode 0 (passOver flaw) maybeNodes := by
  intro cursor
  apply Draws.here
  apply Draws.recover
  apply Draws.next
  intro _
  apply Draws.pure <;> simp [maybeNodes, Stmt.toNodes]

theorem plainStatement_draws : Drawing stands mode 0 plainStatement maybeNodes := by
  intro cursor
  apply Draws.here
  dsimp only
  split
  · apply Draws.next
    intro _
    apply Draws.pure <;> simp [maybeNodes, Stmt.toNodes]
  · split
    · exact (bareAssignment_draws _).map some
    · split
      · apply Draws.bind (expression_draws _)
        intro value _ places
        exact .pure places (by simp [maybeNodes, Stmt.toNodes, Stmt.toNode, exprNodes])
      · exact passOver_draws _ _

include inners

theorem statement_draws : Drawing stands mode 0 (statement inner) maybeNodes := by
  -- the token at the cursor says of which sort the statement is
  intro cursor
  apply Draws.here
  cases lead cursor.current with
  | declaration => exact declaration_draws _
  | definition => exact (definition_draws inners _).map some
  | conditional => exact (conditional_draws inners _).map some
  | loop => exact (loop_draws inners _).map some
  | whileLoop => exact (guardLoop_draws inners _).map some
  | each => exact (eachLoop_draws inners _).map some
  | giveBack => exact (giveBack_draws _).map some
  | output => exact (output_draws _).map some
  | assignment => exact assignment_draws _
  | block =>
      apply Draws.bind (block_draws inners false _)
      intro body _ places
      exact .pure places (by simp [maybeNodes, Stmt.toNodes, Stmt.toNode, Block.node])
  | closer => exact passOver_draws _ _
  | otherwise => exact passOver_draws _ _
  | plain => exact plainStatement_draws _

omit inners

theorem statements_draws : Drawing stands mode 0 statements Stmt.toNodes := by
  refine drawing_tie (fun _ => True) (fun _ => 0) ?_ ?_ () trivial
  · intro _ _ cursor
    apply Draws.here
    apply Draws.recover
    apply Draws.pure <;> simp [Stmt.toNodes]
  · intro self selves _ _ cursor
    apply Draws.here
    split
    · apply Draws.pure <;> simp [Stmt.toNodes]
    · apply Draws.bind (statement_draws (selves () trivial) _)
      intro first _ places
      apply Draws.bind (selves () trivial _)
      intro more _ places'
      have nodes : Stmt.toNodes (first.toList ++ more) = maybeNodes first ++ Stmt.toNodes more := by
        simp [maybeNodes, Stmt.toNodes_eq_map]
      apply Draws.pure
      · rw [nodes]
        exact allThroughout_append.mpr ⟨places, places'⟩
      · simp [nodes]

end

end Parlance.Grammar

namespace Parlance

open Grammar

/-- Every node of what is read stands where one of the tokens does, and its calls are those of names
among them. -/
theorem Program.draws {mode : Mode} {tokens : List Token} {program : Program}
    {noted : List Recovery} (read : Program.ofTokens mode tokens = .ok (program, noted)) :
    Node.AllAt (fun place => ∃ token ∈ Token.close tokens, place = token.place)
        (Stmt.toNodes program) ∧
      Node.allCalls (Stmt.toNodes program) ≤
        Token.calls mode.capabilities false (Token.close tokens) := by
  obtain ⟨last, read⟩ := statements_of_ofTokens read
  have amid : (Cursor.ofTokens (Token.close tokens)).Amid
      fun place => ∃ token ∈ Token.close tokens, place = token.place :=
    ⟨Token.close_closed tokens, fun token found => ⟨token, found, rfl⟩⟩
  obtain ⟨taken, split, _, places, paid⟩ := statements_draws _ amid read
  refine ⟨places, ?_⟩
  calc Node.allCalls (Stmt.toNodes program)
      ≤ Token.calls mode.capabilities false taken := by simpa using paid
    _ ≤ Token.calls mode.capabilities false (taken ++ last.rest) :=
        le_trans (Multiset.le_add_right _ _) (Token.calls_append taken last.rest)
    _ = Token.calls mode.capabilities false (Token.close tokens) := by rw [← split, Cursor.ofTokens]

end Parlance
