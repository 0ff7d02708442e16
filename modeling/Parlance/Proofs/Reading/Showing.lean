import Parlance.Proofs.Reading.Account
import Parlance.Proofs.Reading.Extent

/-!
What statements show. A rule for statements that makes no note takes tokens that close no list, and
its statement shows the payloads, keys and names among them, each once; what stands in the
parentheses of an output beyond two values it accounts for besides. A block shows what stands up to
its end, if the statements in it show what stands up to theirs.
-/

namespace Parlance

namespace Token

/-- The tokens in front of the first one that closes the list. -/
def beforeFinish (tokens : List Token) : List Token := tokens.takeWhile (·.kind ≠ .finish)

variable {tokens : List Token}

theorem beforeFinish_append {rest : List Token} (inner : ∀ token ∈ tokens, token.kind ≠ .finish) :
    beforeFinish (tokens ++ rest) = tokens ++ beforeFinish rest :=
  List.takeWhile_append_of_pos fun token member => by simpa using inner token member

theorem beforeFinish_finish {finish : Token} (ends : finish.kind = .finish) (rest : List Token) :
    beforeFinish (finish :: rest) = [] := by
  simp [beforeFinish, ends]

end Token

namespace Stmt

def contents (stmt : Stmt) : Multiset Content := stmt.toNode.contents

def allContents (stmts : List Stmt) : Multiset Content := Node.allContents (Stmt.toNodes stmts)

end Stmt

namespace Grammar

open Rule Token

/-! ### What statements show -/

def branchContents (branch : Branch) : Multiset Content := Node.allContents branch.toNodes

/-- What a statement shows, by its parts. -/
theorem contents_statement (stmt : Stmt) : stmt.contents =
    match stmt with
    | .expression value => value.toNode.contents
    | .block body _ => Stmt.allContents body
    | .declare name initial _ => {.text name} + Node.allContents (Expr.toNodes initial.toList)
    | .assign name value _ => {.text name} + value.toNode.contents
    | .define name byname params body _ _ =>
        {.text (name.getD "")} + Content.ofName byname +
          Node.allContents (params.map Param.toNode) + Stmt.allContents body
    | .conditional guard body _ otherwise _ =>
        guard.toNode.contents + Stmt.allContents body + branchContents otherwise
    | .loop head body _ _ =>
        Content.ofName head.item? + head.expr.toNode.contents +
          Stmt.allContents body
    | .giveBack value _ => Node.allContents (Expr.toNodes value.toList)
    | .output what _ => Node.allContents (Expr.toNodes (Stmt.outputArguments what)) := by
  cases stmt <;>
    simp [Stmt.contents, Stmt.allContents, branchContents, Stmt.toNode, Node.named, Node.plain,
      Node.contents, Node.allContents, Node.allContents_append, Node.Kind.speaks,
      Literal.contents, add_assoc]

theorem contents_branch (branch : Branch) : branchContents branch =
    match branch with
    | .absent => 0
    | .block body _ => Stmt.allContents body
    | .conditional guard body _ otherwise _ =>
        guard.toNode.contents + Stmt.allContents body + branchContents otherwise := by
  cases branch <;>
    simp [branchContents, Stmt.allContents, Branch.toNodes, Node.plain, Node.contents,
      Node.allContents, Node.Kind.speaks, add_assoc]

section

variable {mode : Mode} {cursor : Cursor} {bound : Nat}

def maybeContents (stmt : Option Stmt) : Multiset Content := Stmt.allContents stmt.toList

theorem maybeContents_some (stmt : Stmt) : maybeContents (some stmt) = stmt.contents := by
  simp [maybeContents, Stmt.allContents, Stmt.toNodes, Node.allContents, Stmt.contents]

section

variable {keyword : Keyword} (spelt : cursor.current.keyword? = some keyword)

include spelt

theorem declaration_adds : Adds mode cursor declaration maybeContents := by
  have declared : ∀ head cursor had, had = 0 →
      Gathers mode cursor had (declaration.declared head) maybeContents := by
    rintro head cursor _ rfl
    apply Gathers.nameFor
    intro name next _
    apply Gathers.accept
    · intro _
      apply Gathers.expression
      intro value _ _
      apply Gathers.pure
      simp [maybeContents_some, contents_statement, Expr.toNodes, Node.allContents]
    · apply Gathers.here
      split
      · exact .recover
      · apply Gathers.pure
        simp [maybeContents_some, contents_statement, Expr.toNodes, Node.allContents]
  apply Gathers.adds
  apply Gathers.next spelt
  intro _
  apply Gathers.here
  split
  · rename_i typed
    simp only [Bool.and_eq_true] at typed
    apply Gathers.next (of_decide_eq_true typed.1)
    intro _
    exact declared _ _ _ rfl
  · exact declared _ _ _ rfl

theorem assignment_adds : Adds mode cursor assignment maybeContents := by
  apply Gathers.adds
  apply Gathers.next spelt
  intro _
  split
  · apply Gathers.expression
    intro value _ _
    apply Gathers.accept
    · intro _
      apply Gathers.nameFor
      intro name _ _
      apply Gathers.pure
      simp [maybeContents_some, contents_statement, add_comm]
    · exact .recover
  · apply Gathers.nameFor
    intro name _ _
    apply Gathers.accept
    · intro _
      apply Gathers.expression
      intro value _ _
      apply Gathers.pure
      simp [maybeContents_some, contents_statement]
    · exact .recover

end

theorem bareAssignment_adds (named : cursor.current.isName = true)
    (assigns : cursor.advance.current.keyword? = some .assignOp) :
    Adds mode cursor bareAssignment Stmt.contents := by
  apply Gathers.adds
  apply Gathers.nextName named
  intro _
  apply Gathers.next assigns
  intro _
  apply Gathers.expression
  intro value _ _
  apply Gathers.pure
  simp [contents_statement]

/-! ### Functions -/

def paramContents (params : List Param) : Multiset Content :=
  Node.allContents (params.map Param.toNode)

theorem paramContents_cons (param : Param) (params : List Param) :
    paramContents (param :: params) = {.text param.name} + paramContents params := by
  simp [paramContents, Node.allContents, Param.toNode, Node.named, Node.contents,
    Node.Kind.speaks, Literal.contents]

theorem parameters_contents {values : List Expr} {params : List Param} {next : Cursor}
    (clean : parameters values mode cursor = .done params next []) :
    next = cursor ∧ paramContents params = (Phrase.items values).contents := by
  -- no token is taken: the values that become parameters were read before
  induction values generalizing params with
  | nil =>
      obtain ⟨rfl, rfl, _⟩ := Reading.done.inj clean
      exact ⟨rfl, rfl⟩
  | cons value rest ih =>
      cases value with
      | ident name place =>
          simp only [parameters, bind_apply] at clean
          obtain ⟨more, middle, read, clean⟩ := Reading.andThen_clean clean
          obtain ⟨rfl, rfl, _⟩ := Reading.done.inj clean
          obtain ⟨rfl, same⟩ := ih read
          refine ⟨rfl, ?_⟩
          rw [paramContents_cons, same, contents_items, contents_expression]
      | _ =>
          obtain ⟨_, _, noted, _⟩ := Reading.andThen_clean clean
          exact absurd noted recover_noted

theorem bareParameters_adds : Adds mode cursor bareParameters paramContents := by
  refine tie_induction (fun _ cursor rule => Adds mode cursor rule paramContents)
    (fun same adds _ _ read => adds (same ▸ read)) ?_ () (Nat.lt_succ_self _)
  intro cursor _ self selves _
  apply Gathers.adds
  apply Gathers.here
  split
  · rename_i named
    apply Gathers.nextName named
    intro shorter
    apply Gathers.bind (selves () _ shorter)
    intro more _ _
    apply Gathers.pure
    rw [paramContents_cons, zero_add]
  · exact .pure rfl

theorem parameterList_adds : Adds mode cursor parameterList paramContents := by
  apply Takes.here
  split
  · rename_i paren
    have faithful : Faithful mode cursor.rest.length Grammar.expression :=
      fun cursor _ => expressionOf_takes 1 mode cursor
    apply Takes.bind (parenArguments_takes faithful paren (Nat.le_refl _))
    intro taken values next _ spells params last read
    obtain ⟨rfl, same⟩ := parameters_contents read
    have same : paramContents params = (Phrase.enclosed values).contents := same
    refine ⟨[], rfl, nofun, ?_⟩
    simpa only [List.append_nil, same] using Shows.phrase spells
  · exact bareParameters_adds

theorem aliasName_adds : Adds mode cursor aliasName Content.ofName := by
  apply Gathers.adds
  apply Gathers.accept
  · intro _
    apply Gathers.nameFor
    intro name _ _
    exact .pure (by simp)
  · exact .pure rfl

/-! ### Blocks -/

/-- Of the cursors with fewer tokens ahead than the bound, the rule reads statements up to the token
that closes the list. -/
def Exhausts (mode : Mode) (bound : Nat) (statements : Rule (List Stmt)) : Prop :=
  ∀ ⦃cursor⦄, cursor.rest.length < bound → ∀ ⦃body next⦄,
    statements mode cursor = .done body next [] →
      Shows (beforeFinish cursor.rest) (Stmt.allContents body)

def Block.contents (block : Block) : Multiset Content := Stmt.allContents block.body

/-- A block that notes nothing is ended by a token, and its body was read. -/
theorem blockBody_clean {statements : Rule (List Stmt)} {stopAtElse : Bool} {opener : Token}
    {read : Block} {next : Cursor}
    (clean : blockBody statements stopAtElse opener mode cursor = .done read next []) :
    (∃ last, statements mode (.ofTokens (Extent.ofBody stopAtElse cursor.rest).closedBody) =
      .done read.body last []) ∧ read.closer ≠ .endOfInput ∧
        read.closer = (Extent.ofBody stopAtElse cursor.rest).closer ∧
          next = (Extent.ofBody stopAtElse cursor.rest).behind cursor.lastStop := by
  simp only [blockBody, bind_apply, here, Reading.done_andThen] at clean
  obtain ⟨body, middle, inside, clean⟩ := Reading.andThen_clean clean
  obtain ⟨_, behind, left, clean⟩ := Reading.andThen_clean clean
  obtain ⟨rfl, rfl, _⟩ := Reading.done.inj clean
  have ended : (Extent.ofBody stopAtElse cursor.rest).closer ≠ .endOfInput ∧
      behind = (Extent.ofBody stopAtElse cursor.rest).behind cursor.lastStop := by
    simp only [leaveBlock, bind_apply, goTo, Reading.done_andThen] at left
    split at left
    · exact absurd left recover_noted
    · rename_i ends
      exact ⟨ends, (Reading.done.inj left).2.1.symm⟩
  refine ⟨?_, ended.1, rfl, ended.2⟩
  simp only [within] at inside
  split at inside
  · cases inside
  · rename_i read
    obtain ⟨rfl, _, rfl⟩ := Reading.done.inj inside
    exact ⟨_, read⟩

theorem beforeFinish_closedBody (stopAtElse : Bool) (tokens : List Token) :
    beforeFinish (Extent.ofBody stopAtElse tokens).closedBody =
      (Extent.ofBody stopAtElse tokens).body := by
  have inner := Extent.scan_body_open stopAtElse 0 false tokens
  rw [← Extent.ofBody] at inner
  rw [Extent.closedBody, beforeFinish_append inner, beforeFinish_finish rfl, List.append_nil]

variable {statements : Rule (List Stmt)} (inners : Exhausts mode bound statements)

include inners in
theorem blockBody_adds (stopAtElse : Bool) (opener : Token) (below : cursor.rest.length < bound) :
    Adds mode cursor (blockBody statements stopAtElse opener) Block.contents := by
  intro read next clean
  obtain ⟨⟨last, inside⟩, ends, closer, rfl⟩ := blockBody_clean clean
  have parts := Extent.scan_append stopAtElse 0 false cursor.rest
  have inner := Extent.scan_body_open stopAtElse 0 false cursor.rest
  have ended := Extent.scan_ended stopAtElse 0 false cursor.rest
  rw [← Extent.ofBody] at parts inner ended
  rw [closer] at ends
  -- something stands behind the body, so closed it is no longer than what is ahead
  have shown : (Extent.ofBody stopAtElse cursor.rest).rest ≠ [] →
      Shows (Extent.ofBody stopAtElse cursor.rest).body read.contents := by
    intro some'
    have shorter : (Extent.ofBody stopAtElse cursor.rest).closedBody.length < bound := by
      have behind := List.length_pos_iff.mpr some'
      have all := congrArg List.length parts
      rw [List.length_append] at all
      simp only [Extent.closedBody, List.length_append, List.length_singleton]
      omega
    rw [← beforeFinish_closedBody]
    exact inners shorter inside
  unfold Extent.Ended at ended
  unfold Extent.behind
  cases found : (Extent.ofBody stopAtElse cursor.rest).closer with
  | endOfInput => exact absurd found ends
  | closed =>
      rw [found] at ended
      obtain ⟨token, rest, split, closes⟩ := ended
      rw [split] at parts
      have other := ne_finish_of_keyword? closes
      refine ⟨(Extent.ofBody stopAtElse cursor.rest).body ++ [token], ?_, ?_, ?_⟩
      · simp [split, parts]
      · exact List.forall_mem_append.mpr ⟨inner, by simpa using other⟩
      · have all := (shown (by simp [split])).append (.mute (silent_of_keyword? closes))
        rwa [add_zero] at all
  | otherwise =>
      rw [found] at ended
      obtain ⟨token, rest, split, _⟩ := ended
      exact ⟨_, parts.symm, inner, shown (by simp [split])⟩

/-- A body that ends at a word for "else" leaves the cursor there. -/
theorem blockBody_otherwise {stopAtElse : Bool} {opener : Token} {read : Block} {next : Cursor}
    (clean : blockBody statements stopAtElse opener mode cursor = .done read next [])
    (stops : read.closer = .otherwise) :
    ∃ keyword, next.current.keyword? = some keyword := by
  obtain ⟨_, _, closer, rfl⟩ := blockBody_clean clean
  have ended := Extent.scan_ended stopAtElse 0 false cursor.rest
  rw [← Extent.ofBody] at ended
  rw [stops] at closer
  unfold Extent.Ended at ended
  rw [← closer] at ended
  obtain ⟨token, rest, split, word⟩ := ended
  simp only [Extent.behind, ← closer, Cursor.current, Cursor.ahead, split, List.drop_zero]
  exact word.elim (⟨_, ·⟩) (⟨_, ·⟩)

include inners in
theorem block_adds (stopAtElse : Bool) {keyword : Keyword}
    (spelt : cursor.current.keyword? = some keyword) (near : cursor.rest.length ≤ bound) :
    Adds mode cursor (block statements stopAtElse) Block.contents := by
  apply Gathers.adds
  apply Gathers.next spelt
  intro shorter
  have below := Nat.lt_of_lt_of_le shorter near
  split
  · apply Gathers.acceptSymbol
    · intro shorter
      exact (blockBody_adds inners _ _ (Nat.lt_trans shorter below)).start
    · exact (blockBody_adds inners _ _ below).start
  · exact (blockBody_adds inners _ _ below).start

theorem block_otherwise {stopAtElse : Bool} {read : Block} {next : Cursor}
    (clean : block statements stopAtElse mode cursor = .done read next [])
    (stops : read.closer = .otherwise) :
    ∃ keyword, next.current.keyword? = some keyword := by
  simp only [block, bind_apply, Rule.next, Reading.done_andThen] at clean
  split at clean
  · obtain ⟨_, _, _, clean⟩ := Reading.andThen_clean clean
    exact blockBody_otherwise clean stops
  · exact blockBody_otherwise clean stops

include inners in
theorem blockAfter_adds (head : Token) (what : Head) (near : cursor.rest.length ≤ bound) :
    Adds mode cursor (blockAfter statements head what) Block.contents := by
  apply Takes.here
  split
  · rename_i opens
    exact block_adds inners false (of_decide_eq_true opens) near
  · exact .recover

section

variable {keyword : Keyword} (spelt : cursor.current.keyword? = some keyword)
  (near : cursor.rest.length ≤ bound)

include inners spelt near

theorem definition_adds : Adds mode cursor (definition statements) Stmt.contents := by
  apply Gathers.adds
  apply Gathers.next spelt
  intro shorter
  apply Gathers.nameFor
  intro name _ no_longer
  apply Gathers.bind parameterList_adds
  intro params _ no_longer'
  apply Gathers.bind aliasName_adds
  intro byname next no_longer''
  apply Gathers.bind (blockAfter_adds inners _ .function (by omega))
  intro body _ _
  apply Gathers.pure
  simp only [contents_statement, Block.contents, paramContents, Option.map_some, Option.getD_some,
    zero_add]
  ac_rfl

/-! ### Conditionals -/

omit inners spelt near in
theorem furtherHead?_adds (word : Token) : Adds mode cursor (furtherHead? word) fun _ => 0 := by
  apply Gathers.adds
  apply Gathers.here
  split
  · exact .pure rfl
  · split
    · rename_i opens
      apply Gathers.next (of_decide_eq_true opens)
      intro _
      exact .pure rfl
    · exact .pure rfl

theorem sharedBranch_adds :
    Adds mode cursor (sharedBranch statements) branchContents := by
  -- a branch begins at the word for "else" that ended the body in front of it
  refine tie_induction (fun _ cursor rule => ∀ keyword, cursor.current.keyword? = some keyword →
      cursor.rest.length ≤ bound → Adds mode cursor rule branchContents)
    (fun same adds keyword spelt near _ _ read => adds keyword spelt near (same ▸ read)) ?_ ()
    (Nat.lt_succ_self _) keyword spelt near
  intro cursor _ self selves _ keyword spelt near
  apply Gathers.adds
  apply Gathers.next spelt
  intro shorter
  apply Gathers.bind (furtherHead?_adds _)
  intro head next no_longer
  cases head with
  | some head =>
      apply Gathers.expression
      intro guard next' no_longer'
      have goes : ∀ cursor', cursor'.rest.length < cursor.rest.length → ∀ had,
          had = guard.toNode.contents → Gathers mode cursor' had
            (blockBody statements true head >>= fun body =>
              if body.closer = .otherwise then do
                let otherwise ← self ()
                pure (.conditional guard body.body body.place otherwise head.place)
              else pure (.conditional guard body.body body.place .absent head.place))
            branchContents := by
        rintro cursor' shorter' _ rfl
        apply Gathers.bind_read (blockBody_adds inners true head (by omega)).gathers
        intro body last read no_longer
        split
        · rename_i stops
          obtain ⟨word, spelt⟩ := blockBody_otherwise read stops
          apply Gathers.bind (selves () last (by omega) word spelt (by omega))
          intro otherwise _ _
          apply Gathers.pure
          rw [contents_branch]
          rfl
        · apply Gathers.pure
          simp [contents_branch, Block.contents]
      apply Gathers.accept
      · intro shorter'
        exact goes _ (by omega) _ (by simp)
      · exact goes _ (by omega) _ (by simp)
  | none =>
      apply Gathers.bind (blockBody_adds inners false _ (by omega))
      intro body _ _
      apply Gathers.pure
      simp [contents_branch, Block.contents]

def Conditional.contents (read : Conditional) : Multiset Content :=
  read.guard.toNode.contents + Stmt.allContents read.body + branchContents read.otherwise

omit spelt near in
theorem conditionalTail_gathers (goal : Token × Expr) (below : cursor.rest.length < bound) :
    Gathers mode cursor goal.2.toNode.contents (conditionalTail statements goal)
      Conditional.contents := by
  -- the guard was read before, so its contents are there already
  refine tie_induction (fun goal cursor rule =>
      Gathers mode cursor goal.2.toNode.contents rule Conditional.contents)
    (fun same gathers _ _ read => gathers (same ▸ read)) ?_ goal below
  rintro cursor below self selves ⟨head, guard⟩
  have own : ∀ next, next.rest.length ≤ cursor.rest.length →
      Adds mode next (conditionalTail.ownBranch statements self) branchContents := by
    intro next no_longer
    apply Gathers.adds
    apply Gathers.here
    split
    · rename_i word
      simp only [Bool.or_eq_true, Cursor.isAt, decide_eq_true_eq] at word
      obtain ⟨keyword, spelt⟩ : ∃ keyword, next.current.keyword? = some keyword :=
        word.elim (⟨_, ·⟩) (⟨_, ·⟩)
      apply Gathers.next spelt
      intro shorter
      apply Gathers.bind (furtherHead?_adds _)
      intro further next' no_longer'
      cases further with
      | some further =>
          apply Gathers.expression
          intro guard next'' no_longer''
          simp only [zero_add]
          apply Gathers.bind_read (selves (further, guard) next'' (by omega))
          intro read _ _ _
          apply Gathers.pure
          rw [Conditional.branch, contents_branch, Conditional.contents]
      | none =>
          apply Gathers.here
          split
          · rename_i opens
            apply Gathers.bind (block_adds inners false (of_decide_eq_true opens) (by omega))
            intro body _ _
            apply Gathers.pure
            simp [contents_branch, Block.contents]
          · exact .recover
    · exact .pure rfl
  apply Gathers.here
  split
  · rename_i opens
    have near := Nat.le_of_lt below
    apply Gathers.bind_read (block_adds inners true (of_decide_eq_true opens) near).gathers
    intro body next read no_longer
    split
    · rename_i stops
      obtain ⟨word, spelt⟩ := block_otherwise read stops
      apply Gathers.bind (sharedBranch_adds inners spelt (Nat.le_trans no_longer near))
      intro otherwise _ _
      exact .pure rfl
    · apply Gathers.bind (own next no_longer)
      intro otherwise _ _
      exact .pure rfl
  · exact .recover

theorem conditional_adds : Adds mode cursor (conditional statements) Stmt.contents := by
  apply Gathers.adds
  apply Gathers.next spelt
  intro shorter
  apply Gathers.expression
  intro guard next no_longer
  rw [zero_add]
  apply Gathers.bind_read (conditionalTail_gathers inners (_, guard) (by omega))
  intro read _ _ _
  apply Gathers.pure
  rw [Conditional.stmt, contents_statement, Conditional.contents]

/-! ### Loops -/

omit spelt in
theorem eachTail_adds (head : Token) :
    Adds mode cursor (eachTail statements head) Stmt.contents := by
  -- the head of the loop is read before
  apply Gathers.adds
  apply Gathers.nameFor
  intro item next no_longer
  apply Gathers.accept
  · intro shorter
    apply Gathers.expression
    intro list next' no_longer'
    apply Gathers.bind (blockAfter_adds inners head .each (by omega))
    intro body _ _
    apply Gathers.pure
    simp [contents_statement, LoopHead.item?, LoopHead.expr, Block.contents]
  · exact .recover

theorem eachLoop_adds : Adds mode cursor (eachLoop statements) Stmt.contents := by
  apply Gathers.adds
  apply Gathers.next spelt
  intro shorter
  exact (eachTail_adds inners (by omega) _).start

theorem guardLoop_adds : Adds mode cursor (guardLoop statements) Stmt.contents := by
  apply Gathers.adds
  apply Gathers.next spelt
  intro shorter
  apply Gathers.expression
  intro guard next no_longer
  apply Gathers.bind (blockAfter_adds inners _ .loopGuard (by omega))
  intro body _ _
  apply Gathers.pure
  simp [contents_statement, LoopHead.item?, LoopHead.expr, Block.contents]

theorem loop_adds : Adds mode cursor (loop statements) Stmt.contents := by
  apply Gathers.adds
  apply Gathers.next spelt
  intro shorter
  apply Gathers.here
  split
  · rename_i word
    exact (guardLoop_adds inners (of_decide_eq_true word) (by omega)).start
  · split
    · rename_i word
      exact (eachLoop_adds inners (of_decide_eq_true word) (by omega)).start
    · split
      · exact (eachTail_adds inners (by omega) _).start
      · apply Gathers.expression
        intro rounds next no_longer
        -- the word behind the count may be there or not, and is not spoken of in the node
        have counted : ∀ cursor', cursor'.rest.length ≤ bound → Gathers mode cursor'
            (0 + rounds.toNode.contents) (blockAfter statements cursor.current .loopCount >>=
              fun body => pure (.loop (.count rounds) body.body body.place cursor.current.place))
            Stmt.contents := by
          intro cursor' near
          apply Gathers.bind (blockAfter_adds inners _ .loopCount near)
          intro body _ _
          apply Gathers.pure
          simp [contents_statement, LoopHead.item?, LoopHead.expr, Block.contents]
        apply Gathers.accept
        · intro shorter'
          exact counted _ (by omega)
        · exact counted _ (by omega)

end

/-! ### The other statements -/

theorem giveBack_adds {keyword : Keyword} (spelt : cursor.current.keyword? = some keyword) :
    Adds mode cursor giveBack Stmt.contents := by
  apply Gathers.adds
  apply Gathers.next spelt
  intro _
  apply Gathers.here
  split
  · apply Gathers.expression
    intro value _ _
    apply Gathers.pure
    simp [contents_statement, Expr.toNodes, Node.allContents]
  · exact .pure rfl

theorem contents_output (values : List Expr) (place : Place) :
    (Stmt.output (outputOf values) place).contents = (Phrase.items (values.take 2)).contents := by
  -- the order of two arguments does not matter, and of more only two are shown
  rw [contents_statement]
  match values with
  | [] => rfl
  | [value] => rfl
  | first :: second :: _ =>
      simp only [outputOf]
      split <;>
        simp [Stmt.outputArguments, Phrase.contents, Expr.toNodes, Node.allContents, add_comm]

theorem outputArguments_adds (head : Token) : Adds mode cursor (outputArguments head)
    fun values => (Phrase.items (values.take 2)).contents := by
  have argument : ∀ cursor, Adds mode cursor (argument? Grammar.expression head.line)
      fun argument => (Phrase.items argument.toList).contents := by
    intro cursor
    have faithful : Faithful mode (cursor.rest.length + 1) Grammar.expression :=
      fun cursor _ => expressionOf_takes 1 mode cursor
    apply Takes.mono (spacedArgument?_takes faithful head.line (Nat.lt_succ_self _))
    rintro taken argument (⟨rfl, rfl⟩ | ⟨value, rfl, spells⟩)
    · exact .nil
    · simpa [Phrase.contents, Expr.toNodes, Node.allContents] using Shows.phrase spells
  apply Gathers.adds
  apply Gathers.bind (argument cursor)
  intro first next _
  cases first with
  | none => exact .pure rfl
  | some first =>
      apply Gathers.bind (argument next)
      intro second _ _
      cases second with
      | none => exact .pure (by simp [Phrase.contents, Expr.toNodes, Node.allContents])
      | some second => exact .pure (by simp [Phrase.contents, Expr.toNodes, Node.allContents])

/-- What the parentheses hold beyond two values is what the account says is left out. -/
theorem output_adds (spelt : cursor.current.keyword? = some .output) :
    Adds mode cursor output Stmt.contents := by
  apply Takes.next (ne_finish_of_keyword? spelt)
  intro _
  apply Takes.here
  split
  · rename_i parens
    have faithful : Faithful mode cursor.advance.rest.length Grammar.expression :=
      fun cursor _ => expressionOf_takes 1 mode cursor
    have paren : cursor.advance.isAtSymbol "(" = true := by
      simp only [Cursor.atOutputParens, Bool.and_eq_true] at parens
      exact parens.1
    apply Takes.bind (parenArguments_takes faithful paren (Nat.le_refl _))
    intro taken values _ _ spells
    refine .pure ⟨values.drop 2, ?_⟩
    have accounts := Accounts.output spelt spells .nil
    rw [add_zero, List.append_nil, List.append_nil] at accounts
    simpa only [contents_output, List.append_nil] using accounts
  · apply Takes.bind (outputArguments_adds cursor.current)
    intro taken values _ _ shows
    refine .pure ?_
    simpa [contents_output] using (Shows.mute (silent_of_keyword? spelt)).append shows

theorem keyword?_of_lead {token : Token} (leads : lead token ≠ .plain) :
    ∃ keyword, token.keyword? = some keyword := by
  unfold lead at leads
  cases spelt : token.keyword? with
  | some keyword => exact ⟨keyword, rfl⟩
  | none => simp [spelt] at leads

theorem keyword?_of_lead_output {token : Token} (leads : lead token = .output) :
    token.keyword? = some .output := by
  unfold lead at leads
  split at leads <;> first | assumption | cases leads

theorem passOver_adds (flaw : String → Flaw) :
    Adds mode cursor (passOver flaw) maybeContents := by
  apply Takes.here
  exact .recover

theorem adds_some {rule : Rule Stmt} (adds : Adds mode cursor rule Stmt.contents) :
    Adds mode cursor (some <$> rule) maybeContents := by
  intro value next read
  rw [Rule.map_apply] at read
  obtain ⟨stmt, _, clean, done⟩ := Reading.andThen_clean read
  obtain ⟨rfl, rfl, _⟩ := Reading.done.inj done
  simpa only [maybeContents_some] using adds clean

theorem plainStatement_adds : Adds mode cursor plainStatement maybeContents := by
  apply Takes.here
  dsimp only
  split
  · rename_i separator
    simp only [Bool.or_eq_true] at separator
    obtain ⟨symbol, found⟩ : ∃ symbol, cursor.current.isSymbol symbol = true :=
      separator.elim (⟨_, ·⟩) (⟨_, ·⟩)
    apply Takes.next (ne_finish_of_isSymbol found)
    intro _
    exact .pure (.mute (silent_of_isSymbol found))
  · split
    · rename_i assigns
      simp only [Bool.and_eq_true, decide_eq_true_eq] at assigns
      have named : cursor.current.isName = true := by simp [Token.isName, assigns.1]
      have word : cursor.advance.current.keyword? = some .assignOp := by
        rw [Cursor.current, Cursor.ahead_advance _ 0 (ne_finish_of_isName named)]
        exact assigns.2
      exact adds_some (bareAssignment_adds named word)
    · split
      · apply Gathers.adds
        apply Gathers.expression
        intro value _ _
        apply Gathers.pure
        simp [maybeContents_some, contents_statement]
      · exact passOver_adds _

include inners in
theorem statement_adds (near : cursor.rest.length ≤ bound) :
    Adds mode cursor (statement statements) maybeContents := by
  have word : ∀ {leading}, lead cursor.current = leading → leading ≠ .plain →
      ∃ keyword, cursor.current.keyword? = some keyword :=
    fun leads other => keyword?_of_lead (leads ▸ other)
  apply Takes.here
  cases leads : lead cursor.current with
  | declaration => exact declaration_adds (word leads nofun).choose_spec
  | definition => exact adds_some (definition_adds inners (word leads nofun).choose_spec near)
  | conditional => exact adds_some (conditional_adds inners (word leads nofun).choose_spec near)
  | loop => exact adds_some (loop_adds inners (word leads nofun).choose_spec near)
  | whileLoop => exact adds_some (guardLoop_adds inners (word leads nofun).choose_spec near)
  | each => exact adds_some (eachLoop_adds inners (word leads nofun).choose_spec near)
  | giveBack => exact adds_some (giveBack_adds (word leads nofun).choose_spec)
  | output => exact adds_some (output_adds (keyword?_of_lead_output leads))
  | assignment => exact assignment_adds (word leads nofun).choose_spec
  | block =>
      apply Gathers.adds
      apply Gathers.bind (block_adds inners false (word leads nofun).choose_spec near)
      intro body _ _
      apply Gathers.pure
      rw [maybeContents_some, contents_statement, zero_add, Block.contents]
  | closer => exact passOver_adds _
  | otherwise => exact passOver_adds _
  | plain => exact plainStatement_adds

end

end Grammar

end Parlance
