import Parlance.Proofs.Spelling.Expression

/-!
Statements spelled anew. The extents of blocks are counted by keywords alone, so the bodies of
blocks are spelled anew too, and with them all statements are read similarly.
-/

namespace Parlance.Grammar

open Rule
open Reading (Similar)

/-- Blocks with the same statements, opened at the same place and ended in the same way. -/
structure Block.Similar (left right : Block) : Prop where
  body : Same left.body right.body
  place_eq : right.place = left.place
  closer_eq : right.closer = left.closer

structure Conditional.Similar (left right : Conditional) : Prop where
  guard : Same left.guard right.guard
  body : Same left.body right.body
  bodyPlace_eq : right.bodyPlace = left.bodyPlace
  otherwise : Same left.otherwise right.otherwise
  place_eq : right.place = left.place

namespace Conditional.Similar

variable {left right : Conditional}

theorem stmt (similar : left.Similar right) : Same left.stmt right.stmt := by
  simp only [Conditional.stmt, similar.bodyPlace_eq, similar.place_eq]
  exact Stmt.same_conditional similar.guard similar.body similar.otherwise

theorem branch (similar : left.Similar right) : Same left.branch right.branch := by
  simp only [Conditional.branch, similar.bodyPlace_eq, similar.place_eq]
  exact Branch.same_conditional similar.guard similar.body similar.otherwise

end Conditional.Similar

section

variable {mode : Mode} {cursor cursor' : Cursor}

theorem nameFor_resembles (role : Named) : Resembles mode Eq (nameFor role) (nameFor role) := by
  -- names are not spelled anew, so the very same name is read
  intro cursor cursor' near
  refine similar_here ?_
  simp only [near.current.isName_eq]
  split
  · rename_i name
    refine similar_next ?_
    rw [near.current.eq_of_isName name]
    exact similar_pure near.advance rfl
  · exact similar_recover_pure rfl near rfl

/-! ### Blocks -/

theorem leaveBlock_similar {left right : Extent} (respelt : left.Respelt right) (lastStop : Nat) :
    Similar Eq (leaveBlock left lastStop mode cursor) (leaveBlock right lastStop mode cursor') := by
  refine similar_bind (similar_goTo (respelt.behind lastStop)) ?_
  rintro _ _ next next' _ near
  simp only [respelt.closer_eq]
  split
  · exact similar_recover rfl near
  · exact similar_pure near rfl

variable {inner inner' : Rule (List Stmt)} (inners : Resembles mode Same inner inner')

include inners in
theorem blockBody_resembles (stopAtElse : Bool) {opener opener' : Token}
    (openers : Token.Respelt opener opener') :
    Resembles mode Block.Similar (blockBody inner stopAtElse opener)
      (blockBody inner' stopAtElse opener') := by
  intro cursor cursor' near
  have respelt : (Extent.ofBody stopAtElse cursor.rest).Respelt
      (Extent.ofBody stopAtElse cursor'.rest) :=
    Extent.scan_respelt near.rest stopAtElse 0 false
  refine similar_here ?_
  refine similar_bind (similar_within inners respelt.closedBody near) ?_
  intro body body' next next' bodies _
  simp only [near.lastStop_eq]
  refine similar_bind (leaveBlock_similar respelt cursor.lastStop) ?_
  rintro _ _ last last' _ near
  exact similar_pure near ⟨bodies, openers.place_eq, respelt.closer_eq⟩

include inners in
theorem block_resembles (stopAtElse : Bool) :
    Resembles mode Block.Similar (block inner stopAtElse) (block inner' stopAtElse) := by
  intro cursor cursor' near
  have openers := near.current
  refine similar_next ?_
  simp only [openers.kind_eq]
  split
  · refine similar_bind (similar_acceptSymbol _ near.advance) ?_
    rintro _ _ next next' _ near
    exact blockBody_resembles inners stopAtElse openers next next' near
  · exact blockBody_resembles inners stopAtElse openers _ _ near.advance

include inners in
theorem blockAfter_resembles {head head' : Token} (heads : Token.Respelt head head')
    (what : Head) :
    Resembles mode Block.Similar (blockAfter inner head what) (blockAfter inner' head' what) := by
  intro cursor cursor' near
  refine similar_here ?_
  simp only [near.isAt_eq]
  split
  · exact block_resembles inners false cursor cursor' near
  · exact similar_recover_pure rfl near ⟨Same.refl _, heads.place_eq, rfl⟩

/-! ### Declarations and assignments -/

theorem declared_resembles {head head' : Token} (heads : Token.Respelt head head') :
    Resembles mode Same (declaration.declared head) (declaration.declared head') := by
  intro cursor cursor' near
  refine similar_bind (nameFor_resembles .declaration cursor cursor' near) ?_
  rintro name _ next next' rfl near
  cases name with
  | none => exact similar_pure near (Same.refl _)
  | some name =>
      simp only [heads.place_eq]
      refine similar_bind (similar_accept .assignOp near) ?_
      rintro assigned _ next next' rfl near
      cases assigned with
      | true =>
          refine similar_bind (expression_resembles next next' near) ?_
          intro initial initial' last last' initials near
          exact similar_pure near (Stmt.same_declare name.lexeme initials.some).some
      | false =>
          refine similar_here ?_
          simp only [near.current.startsExpression_eq, near.isOnLine_eq]
          split
          · exact similar_recover_pure rfl near (Same.refl _)
          · exact similar_pure near (Same.refl _)

theorem declaration_resembles : Resembles mode Same declaration declaration := by
  intro cursor cursor' near
  have heads := near.current
  have after := near.advance
  refine similar_next (similar_here ?_)
  simp only [after.isAt_eq, (after.ahead 1).isName_eq]
  split
  · exact similar_next (declared_resembles heads _ _ after.advance)
  · exact declared_resembles heads _ _ after

theorem assignment_resembles : Resembles mode Same assignment assignment := by
  intro cursor cursor' near
  have heads := near.current
  have after := near.advance
  refine similar_next ?_
  simp only [heads.putsValueFirst_eq, heads.place_eq]
  -- the value first, or the name first
  split
  · refine similar_bind (expression_resembles _ _ after) ?_
    intro value value' next next' values near
    refine similar_bind (similar_accept .assignOp near) ?_
    rintro into _ next next' rfl near
    cases into with
    | true =>
        refine similar_bind (nameFor_resembles .assignment next next' near) ?_
        rintro name _ last last' rfl near
        cases name with
        | none => exact similar_pure near (Same.refl _)
        | some name => exact similar_pure near (Stmt.same_assign name.lexeme values).some
    | false => exact similar_recover_pure rfl near (Same.refl _)
  · refine similar_bind (nameFor_resembles .assignment _ _ after) ?_
    rintro name _ next next' rfl near
    cases name with
    | none => exact similar_pure near (Same.refl _)
    | some name =>
        refine similar_bind (similar_accept .assignOp near) ?_
        rintro assigned _ next next' rfl near
        cases assigned with
        | true =>
            refine similar_bind (expression_resembles next next' near) ?_
            intro value value' last last' values near
            exact similar_pure near (Stmt.same_assign name.lexeme values).some
        | false => exact similar_recover_pure rfl near (Same.refl _)

theorem bareAssignment_similar (near : cursor.Respelt cursor')
    (name : cursor'.current = cursor.current) :
    Similar Same (bareAssignment mode cursor) (bareAssignment mode cursor') := by
  refine similar_next (similar_next ?_)
  simp only [name]
  refine similar_bind (expression_resembles _ _ near.advance.advance) ?_
  intro value value' next next' values near
  exact similar_pure near (Stmt.same_assign _ values)

/-! ### Functions -/

theorem parameters_other {expr : Expr} (other : ¬ ∃ name place, expr = .ident name place)
    (rest : List Expr) :
    parameters (expr :: rest) =
      (recover (.parameterExpected expr.toNode.shape) >>= fun _ => parameters rest) := by
  cases expr with
  | ident name place => exact absurd ⟨name, place, rfl⟩ other
  | literal _ _ | call _ _ _ _ | binary _ _ _ _ | unary _ _ _ | list _ _ | map _ _
  | index _ _ _ => rfl

theorem parameters_resembles {exprs exprs' : List Expr} (same : List.Forall₂ Same exprs exprs') :
    Resembles mode Eq (parameters exprs) (parameters exprs') := by
  -- among arguments that are the same the same ones are names
  induction same with
  | nil => exact fun _ _ near => similar_pure near rfl
  | @cons expr expr' rest rest' first _ ih =>
      intro cursor cursor' near
      have canonicals : expr'.canonical = expr.canonical := first
      have names : ∀ name place, expr' = .ident name place ↔ expr = .ident name place := by
        intro name place
        rw [← expr'.canonical_eq_ident_iff, canonicals, expr.canonical_eq_ident_iff]
      -- a name is the very same name on the right; anything else is no name there either
      by_cases ident : ∃ name place, expr = .ident name place
      · obtain ⟨name, place, rfl⟩ := ident
        obtain rfl := (names name place).mpr rfl
        refine similar_bind (ih cursor cursor' near) ?_
        rintro more _ next next' rfl near
        exact similar_pure near rfl
      · have ident' : ¬ ∃ name place, expr' = .ident name place := by simpa only [names] using ident
        rw [parameters_other ident, parameters_other ident']
        refine similar_bind (similar_recover rfl near) ?_
        rintro _ _ next next' _ near
        exact ih next next' near

theorem bareParameters_resembles : Resembles mode Eq bareParameters bareParameters := by
  refine similar_tie Eq (fun _ _ _ _ _ near => similar_pure near rfl) ?_ rfl
  intro self self' selves _ _ _ cursor cursor' near
  refine similar_here ?_
  simp only [near.current.isName_eq]
  split
  · rename_i name
    refine similar_next ?_
    rw [near.current.eq_of_isName name]
    refine similar_bind (selves () () rfl _ _ near.advance) ?_
    rintro more _ last last' rfl near
    exact similar_pure near rfl
  · exact similar_pure near rfl

theorem parameterList_resembles : Resembles mode Eq parameterList parameterList := by
  intro cursor cursor' near
  refine similar_here ?_
  simp only [near.isAtSymbol_eq]
  split
  · refine similar_bind (parenArguments_resembles expression_resembles cursor cursor' near) ?_
    intro arguments arguments' next next' same near
    exact parameters_resembles same.forall₂ next next' near
  · exact bareParameters_resembles cursor cursor' near

theorem aliasName_resembles : Resembles mode Eq aliasName aliasName := by
  intro cursor cursor' near
  refine similar_bind (similar_accept .bind near) ?_
  rintro named _ next next' rfl near
  cases named with
  | true =>
      refine similar_bind (nameFor_resembles .byname next next' near) ?_
      rintro name _ last last' rfl near
      exact similar_pure near rfl
  | false => exact similar_pure near rfl

include inners in
theorem definition_resembles : Resembles mode Same (definition inner) (definition inner') := by
  intro cursor cursor' near
  have heads := near.current
  refine similar_next ?_
  refine similar_bind (nameFor_resembles .function _ _ near.advance) ?_
  rintro name _ next next' rfl near
  refine similar_bind (parameterList_resembles next next' near) ?_
  rintro params _ next next' rfl near
  refine similar_bind (aliasName_resembles next next' near) ?_
  rintro byname _ next next' rfl near
  refine similar_bind (blockAfter_resembles inners heads .function next next' near) ?_
  intro body body' last last' bodies near
  simp only [heads.place_eq, bodies.place_eq]
  exact similar_pure near (Stmt.same_define _ _ _ bodies.body)

/-! ### Conditionals -/

theorem furtherHead?_resembles {word word' : Token} (words : Token.Respelt word word') :
    Resembles mode (Option.Rel Token.Respelt) (furtherHead? word) (furtherHead? word') := by
  intro cursor cursor' near
  refine similar_here ?_
  simp only [words.keyword?_eq, near.isAt_eq]
  split
  · exact similar_pure near (.some words)
  · split
    · exact similar_next (similar_pure near.advance (.some near.current))
    · exact similar_pure near .none

include inners in
theorem sharedBranch_resembles :
    Resembles mode Same (sharedBranch inner) (sharedBranch inner') := by
  refine similar_tie Eq (fun _ _ _ _ _ near => similar_pure near (Same.refl _)) ?_ rfl
  intro self self' selves _ _ _ cursor cursor' near
  have words := near.current
  refine similar_next ?_
  refine similar_bind (furtherHead?_resembles words _ _ near.advance) ?_
  intro head head' next next' heads near
  cases heads with
  | none =>
      refine similar_bind (blockBody_resembles inners false words next next' near) ?_
      intro body body' last last' bodies near
      simp only [bodies.place_eq]
      exact similar_pure near (Branch.same_block bodies.body)
  | some heads =>
      refine similar_bind (expression_resembles next next' near) ?_
      intro guard guard' next next' guards near
      refine similar_bind (similar_accept .blockOpen near) ?_
      rintro _ _ next next' _ near
      refine similar_bind (blockBody_resembles inners true heads next next' near) ?_
      intro body body' last last' bodies near
      simp only [bodies.closer_eq, bodies.place_eq, heads.place_eq]
      split
      · refine similar_bind (selves () () rfl last last' near) ?_
        intro otherwise otherwise' end_ end' branches near
        exact similar_pure near (Branch.same_conditional guards bodies.body branches)
      · exact similar_pure near (Branch.same_conditional guards bodies.body (Same.refl _))

def HeadsSimilar (goal goal' : Token × Expr) : Prop :=
  Token.Respelt goal.1 goal'.1 ∧ Same goal.2 goal'.2

include inners in
theorem ownBranch_resembles {self self' : Token × Expr → Rule Conditional}
    (selves : ∀ goal goal', HeadsSimilar goal goal' →
      Resembles mode Conditional.Similar (self goal) (self' goal')) :
    Resembles mode Same (conditionalTail.ownBranch inner self)
      (conditionalTail.ownBranch inner' self') := by
  intro cursor cursor' near
  refine similar_here ?_
  simp only [near.isAt_eq]
  split
  · refine similar_next ?_
    refine similar_bind (furtherHead?_resembles near.current _ _ near.advance) ?_
    intro head head' next next' heads near
    cases heads with
    | some heads =>
        refine similar_bind (expression_resembles next next' near) ?_
        intro guard guard' next next' guards near
        refine similar_bind (selves (_, guard) (_, guard') ⟨heads, guards⟩ next next' near) ?_
        intro further further' last last' furthers near
        exact similar_pure near furthers.branch
    | none =>
        refine similar_here ?_
        simp only [near.isAt_eq]
        split
        · refine similar_bind (block_resembles inners false next next' near) ?_
          intro body body' last last' bodies near
          simp only [bodies.place_eq]
          exact similar_pure near (Branch.same_block bodies.body)
        · exact similar_recover_pure rfl near (Same.refl _)
  · exact similar_pure near (Same.refl _)

include inners in
theorem conditionalTail_resembles {goal goal' : Token × Expr} (goals : HeadsSimilar goal goal') :
    Resembles mode Conditional.Similar (conditionalTail inner goal)
      (conditionalTail inner' goal') := by
  refine similar_tie HeadsSimilar ?_ ?_ goals
  · intro goal goal' goals cursor cursor' near
    exact similar_pure near
      ⟨goals.2, Same.refl _, goals.1.place_eq, Same.refl _, goals.1.place_eq⟩
  · intro self self' selves goal goal' goals cursor cursor' near
    obtain ⟨head, guard⟩ := goal
    obtain ⟨head', guard'⟩ := goal'
    obtain ⟨heads, guards⟩ := goals
    refine similar_here ?_
    simp only [near.isAt_eq]
    split
    · refine similar_bind (block_resembles inners true cursor cursor' near) ?_
      intro body body' next next' bodies near
      simp only [bodies.closer_eq]
      split
      · refine similar_bind (sharedBranch_resembles inners next next' near) ?_
        intro otherwise otherwise' last last' branches near
        exact similar_pure near ⟨guards, bodies.body, bodies.place_eq, branches, heads.place_eq⟩
      · refine similar_bind (ownBranch_resembles inners selves next next' near) ?_
        intro otherwise otherwise' last last' branches near
        exact similar_pure near ⟨guards, bodies.body, bodies.place_eq, branches, heads.place_eq⟩
    · exact similar_recover_pure rfl near
        ⟨guards, Same.refl _, heads.place_eq, Same.refl _, heads.place_eq⟩

include inners in
theorem conditional_resembles : Resembles mode Same (conditional inner) (conditional inner') := by
  intro cursor cursor' near
  have heads := near.current
  refine similar_next ?_
  refine similar_bind (expression_resembles _ _ near.advance) ?_
  intro guard guard' next next' guards near
  refine similar_bind (conditionalTail_resembles inners ⟨heads, guards⟩ next next' near) ?_
  intro read read' last last' reads near
  exact similar_pure near reads.stmt

/-! ### Loops -/

include inners in
theorem eachBody_resembles {head head' : Token} (heads : Token.Respelt head head')
    (item : Option Token) :
    Resembles mode Same (eachTail.eachBody inner head item)
      (eachTail.eachBody inner' head' item) := by
  intro cursor cursor' near
  refine similar_bind (expression_resembles cursor cursor' near) ?_
  intro list list' next next' lists near
  refine similar_bind (blockAfter_resembles inners heads .each next next' near) ?_
  intro body body' last last' bodies near
  simp only [heads.place_eq, bodies.place_eq]
  exact similar_pure near (Stmt.same_loop (LoopHead.same_each _ lists) bodies.body)

include inners in
theorem eachTail_resembles {head head' : Token} (heads : Token.Respelt head head') :
    Resembles mode Same (eachTail inner head) (eachTail inner' head') := by
  intro cursor cursor' near
  refine similar_bind (nameFor_resembles .loopItem cursor cursor' near) ?_
  rintro item _ next next' rfl near
  refine similar_bind (similar_accept .within near) ?_
  rintro accepted _ next next' rfl near
  cases accepted with
  | true => exact eachBody_resembles inners heads item next next' near
  | false =>
      refine similar_bind (similar_recover rfl near) ?_
      rintro _ _ last last' _ near
      exact eachBody_resembles inners heads item last last' near

include inners in
theorem eachLoop_resembles : Resembles mode Same (eachLoop inner) (eachLoop inner') := by
  intro cursor cursor' near
  exact similar_next (eachTail_resembles inners near.current _ _ near.advance)

include inners in
theorem guardLoop_resembles : Resembles mode Same (guardLoop inner) (guardLoop inner') := by
  intro cursor cursor' near
  have heads := near.current
  refine similar_next ?_
  refine similar_bind (expression_resembles _ _ near.advance) ?_
  intro guard guard' next next' guards near
  refine similar_bind (blockAfter_resembles inners heads .loopGuard next next' near) ?_
  intro body body' last last' bodies near
  simp only [heads.place_eq, bodies.place_eq]
  exact similar_pure near (Stmt.same_loop (LoopHead.same_guard guards) bodies.body)

include inners in
theorem loop_resembles : Resembles mode Same (loop inner) (loop inner') := by
  intro cursor cursor' near
  have heads := near.current
  have after := near.advance
  refine similar_next (similar_here ?_)
  simp only [after.isAt_eq, after.current.isName_eq, (after.ahead 1).keyword?_eq]
  split
  · exact guardLoop_resembles inners _ _ after
  · split
    · exact eachLoop_resembles inners _ _ after
    · split
      · exact eachTail_resembles inners heads _ _ after
      · refine similar_bind (expression_resembles _ _ after) ?_
        intro rounds rounds' next next' counts near
        refine similar_bind (similar_accept .mul near) ?_
        rintro _ _ next next' _ near
        refine similar_bind (blockAfter_resembles inners heads .loopCount next next' near) ?_
        intro body body' last last' bodies near
        simp only [heads.place_eq, bodies.place_eq]
        exact similar_pure near (Stmt.same_loop (LoopHead.same_count counts) bodies.body)

/-! ### Returns and output -/

theorem giveBack_resembles : Resembles mode Same giveBack giveBack := by
  intro cursor cursor' near
  have heads := near.current
  have after := near.advance
  refine similar_next (similar_here ?_)
  simp only [after.current.startsExpression_eq, after.isOnLine_eq, heads.line_eq, heads.place_eq]
  split
  · refine similar_bind (expression_resembles _ _ after) ?_
    intro value value' next next' values near
    exact similar_pure near (Stmt.same_giveBack values.some)
  · exact similar_pure after (Same.refl _)

theorem outputArguments_resembles {head head' : Token} (heads : Token.Respelt head head') :
    Resembles mode Same (outputArguments head) (outputArguments head') := by
  intro cursor cursor' near
  simp only [outputArguments, heads.line_eq]
  refine similar_bind (argument?_resembles expression_resembles _ cursor cursor' near) ?_
  intro first first' next next' firsts near
  cases first with
  | none =>
      obtain rfl := firsts.eq_none
      exact similar_pure near (Same.refl _)
  | some value =>
      obtain ⟨value', rfl, values⟩ := firsts.of_some
      refine similar_bind (argument?_resembles expression_resembles _ next next' near) ?_
      intro second second' last last' seconds near
      cases second with
      | none =>
          obtain rfl := seconds.eq_none
          exact similar_pure near (values.cons (Same.refl _))
      | some count =>
          obtain ⟨count', rfl, counts⟩ := seconds.of_some
          exact similar_pure near (values.cons (counts.cons (Same.refl _)))

theorem outputOf_same {arguments arguments' : List Expr} (same : Same arguments arguments') :
    Same (outputOf arguments) (outputOf arguments') := by
  cases same.forall₂ with
  | nil => exact Same.refl _
  | cons first rest =>
      cases rest with
      | nil => exact (first.pair (Same.refl none)).some
      | cons second _ =>
          simp only [outputOf, Expr.isNumber_eq first, Expr.isNumber_eq second]
          split
          · exact (second.pair first.some).some
          · exact (first.pair second.some).some

theorem output_resembles : Resembles mode Same output output := by
  intro cursor cursor' near
  have heads := near.current
  have after := near.advance
  refine similar_next (similar_here ?_)
  simp only [after.atOutputParens_eq, heads.place_eq]
  split
  · refine similar_bind (parenArguments_resembles expression_resembles _ _ after) ?_
    intro arguments arguments' next next' same near
    exact similar_pure near (Stmt.same_output (outputOf_same same))
  · refine similar_bind (outputArguments_resembles heads _ _ after) ?_
    intro arguments arguments' next next' same near
    exact similar_pure near (Stmt.same_output (outputOf_same same))

/-! ### Any statement -/

theorem passOver_resembles {flaw : String → Flaw}
    (kind : ∀ word word', (flaw word').kind = (flaw word).kind) :
    Resembles mode Same (passOver flaw) (passOver flaw) := by
  intro cursor cursor' near
  refine similar_here ?_
  refine similar_bind (similar_recover (kind _ _) near) ?_
  rintro _ _ next next' _ near
  exact similar_next (similar_pure near.advance (Same.refl _))

theorem plainStatement_resembles : Resembles mode Same plainStatement plainStatement := by
  intro cursor cursor' near
  refine similar_here ?_
  simp only [near.current.isSymbol_eq, near.current.kind_eq, (near.ahead 1).keyword?_eq,
    near.current.startsExpression_eq]
  split
  · exact similar_next (similar_pure near.advance (Same.refl _))
  · split
    · rename_i assigns
      have identifier : cursor.current.kind = .identifier := by
        simpa using (Bool.and_eq_true_iff.mp assigns).1
      have name := near.current.eq_of_kind (by simp [identifier])
      exact similar_map some (bareAssignment_similar near name) fun _ _ same => same.some
    · split
      · refine similar_bind (expression_resembles cursor cursor' near) ?_
        intro value value' next next' values near
        exact similar_pure near (Stmt.same_expression values).some
      · exact passOver_resembles (fun _ _ => rfl) cursor cursor' near

include inners in
theorem statement_resembles : Resembles mode Same (statement inner) (statement inner') := by
  intro cursor cursor' near
  refine similar_here ?_
  simp only [near.current.lead_eq]
  have wrapped : ∀ {rule rule' : Rule Stmt}, Resembles mode Same rule rule' →
      Similar Same ((some <$> rule) mode cursor) ((some <$> rule') mode cursor') :=
    fun rules => similar_map some (rules cursor cursor' near) fun _ _ same => same.some
  cases lead cursor.current with
  | declaration => exact declaration_resembles cursor cursor' near
  | definition => exact wrapped (definition_resembles inners)
  | conditional => exact wrapped (conditional_resembles inners)
  | loop => exact wrapped (loop_resembles inners)
  | whileLoop => exact wrapped (guardLoop_resembles inners)
  | each => exact wrapped (eachLoop_resembles inners)
  | giveBack => exact wrapped giveBack_resembles
  | output => exact wrapped output_resembles
  | assignment => exact assignment_resembles cursor cursor' near
  | block =>
      refine similar_bind (block_resembles inners false cursor cursor' near) ?_
      intro read read' next next' reads near
      simp only [reads.place_eq]
      exact similar_pure near (Stmt.same_block reads.body).some
  | closer => exact passOver_resembles (fun _ _ => rfl) cursor cursor' near
  | otherwise => exact passOver_resembles (fun _ _ => rfl) cursor cursor' near
  | plain => exact plainStatement_resembles cursor cursor' near

end

theorem statements_resembles (mode : Mode) : Resembles mode Same statements statements := by
  refine similar_tie Eq ?_ ?_ rfl
  · intro _ _ _ cursor cursor' near
    refine similar_here ?_
    exact similar_recover_pure (by rfl) near (Same.refl _)
  · intro self self' selves _ _ _ cursor cursor' near
    have inners := selves () () rfl
    refine similar_here ?_
    simp only [near.atEnd_eq]
    split
    · exact similar_pure near (Same.refl _)
    · refine similar_bind (statement_resembles inners cursor cursor' near) ?_
      intro first first' next next' firsts near
      refine similar_bind (inners next next' near) ?_
      intro more more' last last' mores near
      exact similar_pure near (firsts.toList.append mores)

end Parlance.Grammar
