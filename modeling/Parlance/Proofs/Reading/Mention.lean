import Parlance.Proofs.Printing.Statement
import Parlance.Proofs.Reading.Derivation
import Parlance.Proofs.Reading.Wrapping

/-!
Names that are bound and mentioned. A name is bound by a declaration, by an assignment, as a
parameter or as the item of a loop, and mentioned in parentheses behind a word for output. The
binding takes any name; the mention takes a word for a number as the number.
-/

namespace Parlance

namespace Token

/-- The literal that a token is, a word for a number included. -/
def constant? (token : Token) : Option Literal :=
  match Grammar.opening token with
  | .literal value => some value
  | .name => (numberWord? token.lexeme).map .number
  | _ => none

def mention (name : Token) : Expr :=
  match numberWord? name.lexeme with
  | some number => .literal (.number number) name.place
  | none => .ident name.lexeme name.place

/-- What is mentioned of a name that is bound to a value. -/
def recalled (name : Token) (bound : Value) : Value :=
  match numberWord? name.lexeme with
  | some number => .number number
  | none => bound

theorem startsExpression_of_isName {token : Token} (named : token.isName = true) :
    token.startsExpression = true := by
  simp only [isName, Bool.or_eq_true, Bool.and_eq_true, decide_eq_true_eq] at named
  rcases named with kind | ⟨kind, known⟩
  · simp [startsExpression, kind]
  · simp [startsExpression, kind, known, isExpressionKeyword]

theorem not_isSymbol_of_isName {token : Token} (named : token.isName = true) (symbol : String) :
    token.isSymbol symbol = false := by
  simp only [isName, Bool.or_eq_true, Bool.and_eq_true, decide_eq_true_eq] at named
  rcases named with kind | ⟨kind, _⟩ <;> simp [isSymbol, kind]

/-- Nothing that began before the token goes on with it. -/
structure Halts (token : Token) : Prop where
  calm : token.Calm
  starts : token.startsExpression = false
  noPoint : token.isSymbol "." = false
  noMethod : token.isMethodWord = false

theorem EndsStatement.halts {token : Token} (ends : token.EndsStatement) : token.Halts where
  calm := ends.calm
  starts := by
    rcases ends with finish | separator
    · simp [startsExpression, finish]
    · simp only [isSymbol, Bool.and_eq_true, decide_eq_true_eq] at separator
      simp [startsExpression, separator]
  noPoint := ends.isSymbol_eq (by decide)
  noMethod := by
    rcases ends with finish | separator
    · simp [isMethodWord, finish]
    · simp only [isSymbol, Bool.and_eq_true, decide_eq_true_eq] at separator
      simp [isMethodWord, separator]

/-- So with closing brackets and commas. -/
theorem halts_of_isSymbol {token : Token} {symbol : String} (found : token.isSymbol symbol = true)
    (closes : symbol ∈ [")", "]", ","]) : token.Halts := by
  simp only [isSymbol, Bool.and_eq_true, decide_eq_true_eq] at found
  obtain ⟨kind, lexeme⟩ := found
  have marks : [")", "]", ","] ⊆ Keyword.marks := by decide
  have unknown : token.keyword? = none := by
    rw [keyword?, kind, lexeme]
    exact Keyword.ofSpelling?_of_mark (marks closes)
  have other : ∀ bracket ∈ ["(", "[", "-", "!", "."], symbol ≠ bracket := by
    rintro bracket among rfl
    simp only [List.mem_cons, List.not_mem_nil, or_false] at closes among
    rcases closes with rfl | rfl | rfl <;> simp at among
  refine ⟨⟨?_, by rw [unknown]; rfl⟩, ?_, ?_, ?_⟩
  · simp [isSymbol, lexeme, other "[" (by decide)]
  · simp [startsExpression, kind, lexeme, other "(" (by decide), other "[" (by decide),
      other "-" (by decide), other "!" (by decide)]
  · simp [isSymbol, lexeme, other "." (by decide)]
  · simp [isMethodWord, kind]

end Token

namespace Grammar

open Rule

variable {mode : Mode} {token after : Token} {rest : List Token}

/-! ### Operands -/

theorem ne_finish_of_opening (opens : opening token ≠ .nothing) : token.kind ≠ .finish := by
  intro finish
  simp [opening, finish, Token.keyword?, Token.isSymbol] at opens

theorem opening_of_unaryOp {op : UnaryOp} (operator : token.keyword?.bind (·.unaryOp?) = some op) :
    opening token = .nothing := by
  obtain ⟨keyword, known, prefixed⟩ := Option.bind_eq_some_iff.mp operator
  have bracket : ∀ symbol ∈ ["(", "[", "\x7b"], token.isSymbol symbol = false := by
    intro symbol among
    by_contra found
    simp only [Bool.not_eq_false, Token.isSymbol, Bool.and_eq_true, decide_eq_true_eq] at found
    have spelt : Keyword.ofSpelling? symbol = some keyword := by
      simpa [Token.keyword?, found] using known
    have others : ∀ symbol ∈ ["(", "[", "\x7b"],
        (Keyword.ofSpelling? symbol).bind (·.unaryOp?) = none := by decide +kernel
    have none := others symbol among
    simp [spelt, prefixed] at none
  have noOperand : token.kind = .keyword ∨ token.kind = .symbol := by
    cases kind : token.kind <;> simp_all [Token.keyword?]
  have left := bracket "(" (by decide)
  have square := bracket "[" (by decide)
  have brace := bracket "\x7b" (by decide)
  cases keyword <;> simp only [Keyword.unaryOp?, reduceCtorEq] at prefixed <;>
    rcases noOperand with kind | kind <;>
      simp [opening, kind, known, left, square, brace]

theorem not_prefix_of_opening (opens : opening token ≠ .nothing) :
    token.keyword?.bind (·.unaryOp?) = none := by
  cases operator : token.keyword?.bind (·.unaryOp?) with
  | none => rfl
  | some op => exact absurd (opening_of_unaryOp operator) opens

/-- A name is no call where neither an argument nor a method follows. -/
theorem unary_name {expression : Rule Expr} (named : opening token = .name) (halts : after.Halts)
    (lastStop : Nat) :
    unary expression mode ⟨token :: after :: rest, lastStop⟩ =
      .done token.mention ⟨after :: rest, token.stop⟩ [] := by
  have open' : token.kind ≠ .finish := ne_finish_of_opening (by simp [named])
  have quiet : Cursor.callsImplicitly ⟨after :: rest, token.stop⟩ mode.capabilities token =
      false := by
    simp [Cursor.callsImplicitly, Cursor.isAtSymbol, halts.noPoint, halts.noMethod, halts.starts]
  have read : primary expression mode ⟨token :: after :: rest, lastStop⟩ =
      .done token.mention ⟨after :: rest, token.stop⟩ [] := by
    simp only [primary, bind_apply, here, Reading.done_andThen, Cursor.current_cons, named,
      nameExpr, next, Cursor.advance_cons open', Rule.capabilities, quiet, Bool.false_eq_true,
      ↓reduceIte, Token.mention]
    cases numberWord? token.lexeme <;> rfl
  exact unary_of_primary (not_prefix_of_opening (by simp [named])) read halts.calm.unindexed

theorem unary_constant {expression : Rule Expr} {value : Literal}
    (constant : token.constant? = some value) (halts : after.Halts) (lastStop : Nat) :
    unary expression mode ⟨token :: after :: rest, lastStop⟩ =
      .done (.literal value token.place) ⟨after :: rest, token.stop⟩ [] := by
  simp only [Token.constant?] at constant
  split at constant
  · rename_i opens
    obtain rfl := Option.some.inj constant
    exact unary_literal _ mode (ne_finish_of_opening (by simp [opens])) opens
      (not_prefix_of_opening (by simp [opens])) halts.calm.unindexed rest lastStop
  · rename_i named
    obtain ⟨number, word, rfl⟩ := Option.map_eq_some_iff.mp constant
    rw [unary_name named halts, Token.mention, word]
  · cases constant

theorem expression_constant {value : Literal} (constant : token.constant? = some value)
    (halts : after.Halts) (lastStop : Nat) :
    expression mode ⟨token :: after :: rest, lastStop⟩ =
      .done (.literal value token.place) ⟨after :: rest, token.stop⟩ [] :=
  expressionOf_of_unary (unary_constant constant halts lastStop) halts.calm

theorem expression_name (named : token.isName = true) (halts : after.Halts) (lastStop : Nat) :
    expression mode ⟨token :: after :: rest, lastStop⟩ =
      .done token.mention ⟨after :: rest, token.stop⟩ [] :=
  expressionOf_of_unary (unary_name (opening_of_isName named) halts lastStop) halts.calm

/-! ### Items -/

inductive Commas : List Token → List Token → Prop
  | none : Commas [] []
  | last (item : Token) : Commas [item] [item]
  | cons (item : Token) {comma : Token} {items tokens : List Token}
      (separates : comma.isSymbol "," = true) (behind : Commas items tokens) :
      Commas (item :: items) (item :: comma :: tokens)

section

variable {rule : Rule Expr} {read : Token → Expr}

def TakesEach (rule : Rule Expr) (mode : Mode) (bound : Nat) (read : Token → Expr)
    (items : List Token) : Prop :=
  ∀ item ∈ items, ∀ after rest lastStop, Token.Halts after →
    (item :: after :: rest).length ≤ bound →
      rule mode ⟨item :: after :: rest, lastStop⟩ =
        .done (read item) ⟨after :: rest, item.stop⟩ []

/-- Each of the tokens is an item. -/
theorem items_commas {bracket : Bracket} {inside : Inside} {symbol : String} {closer : Token}
    {items tokens : List Token} (commas : Commas items tokens)
    (closes : closer.isSymbol symbol = true) (closing : symbol ∈ [")", "]"])
    (starts : ∀ item ∈ items, item.startsExpression = true) (rest : List Token)
    {bound : Nat} (takes : TakesEach rule mode bound read items)
    (below : (tokens ++ closer :: rest).length ≤ bound) (lastStop : Nat) :
    Grammar.items rule symbol bracket inside mode ⟨tokens ++ closer :: rest, lastStop⟩ =
      .done (items.map read) ⟨rest, closer.stop⟩ [] := by
  have among : symbol ∈ [")", "]", ","] := by
    simp only [List.mem_cons, List.not_mem_nil, or_false] at closing ⊢
    tauto
  have closed : ∀ lastStop, Grammar.items rule symbol bracket inside mode
      ⟨closer :: rest, lastStop⟩ = .done [] ⟨rest, closer.stop⟩ [] := by
    intro lastStop
    have here : Cursor.isAtSymbol ⟨closer :: rest, lastStop⟩ symbol = true := closes
    rw [items_close here, Cursor.advance_cons (Token.ne_finish_of_isSymbol closes)]
  have plain : ∀ item : Token, item.startsExpression = true →
      item.isSymbol symbol = false ∧ item.isSymbol "," = false := by
    intro item begins
    simp only [List.mem_cons, List.not_mem_nil, or_false] at closing
    rcases closing with rfl | rfl <;>
      exact ⟨Token.not_isSymbol_of_starts begins rfl, Token.not_isSymbol_of_starts begins rfl⟩
  induction commas generalizing lastStop with
  | none => exact closed lastStop
  | last token =>
      obtain ⟨begins, _⟩ := List.forall_mem_cons.mp starts
      obtain ⟨noClose, noComma⟩ := plain token begins
      have value := takes token List.mem_cons_self closer rest lastStop
        (Token.halts_of_isSymbol closes among) below
      exact items_item noClose noComma begins value (by simp) (closed token.stop)
  | @cons token comma items tokens separates _ ih =>
      obtain ⟨begins, later⟩ := List.forall_mem_cons.mp starts
      obtain ⟨noClose, noComma⟩ := plain token begins
      have value := takes token List.mem_cons_self comma (tokens ++ closer :: rest) lastStop
        (Token.halts_of_isSymbol separates (by decide)) below
      have passed := Cursor.advance_cons (Token.ne_finish_of_isSymbol separates)
        (tokens ++ closer :: rest) token.stop
      -- a comma does not close the items, it is passed between them
      have differs : comma.isSymbol symbol = false := by
        simp only [Token.isSymbol, Bool.and_eq_true, decide_eq_true_eq] at separates
        simp only [List.mem_cons, List.not_mem_nil, or_false] at closing
        rcases closing with rfl | rfl <;> simp [Token.isSymbol, separates.2]
      have goesOn : Grammar.items rule symbol bracket inside mode
          ⟨comma :: (tokens ++ closer :: rest), token.stop⟩ =
            .done (items.map read) ⟨rest, closer.stop⟩ [] := by
        have skips : Grammar.items rule symbol bracket inside mode
            ⟨comma :: (tokens ++ closer :: rest), token.stop⟩ = _ :=
          items_comma differs separates (by simp [passed])
        rw [skips, passed]
        refine ih later (fun other member => takes other (List.mem_cons_of_mem token member)) ?_ _
        simp only [List.cons_append, List.length_cons] at below
        omega
      exact items_item noClose noComma begins value (by simp) goesOn

theorem TakesEach.within {items : List Token} {start : Cursor} {bound : Nat}
    (takes : TakesEach expression mode bound read items) (below : bound < start.rest.length) :
    TakesEach (expressionWithin start 1) mode bound read items := by
  intro item member after rest lastStop halts short
  rw [expressionWithin_one start mode _ (Nat.lt_of_le_of_lt short below)]
  exact takes item member after rest lastStop halts short

def literalAt (token : Token) : Expr := .literal (token.constant?.getD .void) token.place

theorem takesEach_constants {items : List Token} (bound : Nat)
    (constants : ∀ item ∈ items, item.constant?.isSome = true) :
    TakesEach expression mode bound literalAt items := by
  intro item member after rest lastStop halts _
  obtain ⟨value, constant⟩ := Option.isSome_iff_exists.mp (constants item member)
  rw [expression_constant constant halts, literalAt, constant, Option.getD_some]

theorem takesEach_names {items : List Token} (bound : Nat)
    (names : ∀ item ∈ items, item.isName = true) :
    TakesEach expression mode bound Token.mention items :=
  fun item member _ _ lastStop halts _ => expression_name (names item member) halts lastStop

theorem expression_list {bracket closer : Token} {items tokens : List Token}
    (opens : bracket.isSymbol "[" = true) (commas : Commas items tokens)
    (closes : closer.isSymbol "]" = true)
    (starts : ∀ item ∈ items, item.startsExpression = true)
    (takes : ∀ bound, TakesEach expression mode bound read items) (calm : after.Calm)
    (lastStop : Nat) :
    expression mode ⟨bracket :: (tokens ++ closer :: after :: rest), lastStop⟩ =
      .done (.list (items.map read) bracket.place) ⟨after :: rest, closer.stop⟩ [] := by
  let start : Cursor := ⟨bracket :: (tokens ++ closer :: after :: rest), lastStop⟩
  have inside : Grammar.items (expressionWithin start 1) "]" .list .list mode
      ⟨tokens ++ closer :: after :: rest, bracket.stop⟩ = _ :=
    items_commas commas closes (by decide) starts (after :: rest)
      ((takes _).within (Nat.lt_succ_self _)) (Nat.le_refl _) bracket.stop
  have symbol : bracket.kind = .symbol ∧ bracket.lexeme = "[" := by
    simpa [Token.isSymbol] using opens
  have unknown : bracket.keyword? = none := by
    rw [Token.keyword?, symbol.1, symbol.2]
    exact Keyword.ofSpelling?_of_mark (by decide)
  have lists : opening bracket = .list := by
    simp [opening, symbol.1, unknown, Token.isSymbol, symbol.2]
  have open' : bracket.kind ≠ .finish := ne_finish_of_opening (by simp [lists])
  refine expressionOf_of_unary (unary_of_primary (by simp [Cursor.unaryOp?, unknown]) ?_
    calm.unindexed) calm
  simp [primary, here, lists, listExpr, next, Cursor.advance_cons open', inside, start]

theorem expression_call {word callee opener closer : Token} {items tokens : List Token}
    (announces : opening word = .call) (named : callee.isName = true)
    (opens : opener.isSymbol "(" = true) (commas : Commas items tokens)
    (closes : closer.isSymbol ")" = true)
    (starts : ∀ item ∈ items, item.startsExpression = true)
    (takes : ∀ bound, TakesEach expression mode bound read items) (calm : after.Calm)
    (lastStop : Nat) :
    expression mode ⟨word :: callee :: opener :: (tokens ++ closer :: after :: rest), lastStop⟩ =
      .done (.call callee.lexeme none (items.map read) callee.place)
        ⟨after :: rest, closer.stop⟩ [] := by
  let start : Cursor := ⟨word :: callee :: opener :: (tokens ++ closer :: after :: rest), lastStop⟩
  have inside : Grammar.items (expressionWithin start 1) ")" .arguments .arguments mode
      ⟨tokens ++ closer :: after :: rest, opener.stop⟩ = _ :=
    items_commas commas closes (by decide) starts (after :: rest)
      ((takes _).within (by simp [start]; omega)) (Nat.le_refl _) opener.stop
  have symbol : opener.kind = .symbol ∧ opener.lexeme = "(" := by
    simpa [Token.isSymbol] using opens
  have open' : word.kind ≠ .finish := ne_finish_of_opening (by simp [announces])
  refine expressionOf_of_unary (unary_of_primary
    (not_prefix_of_opening (by simp [announces])) ?_ calm.unindexed) calm
  simp [primary, here, announces, next, Cursor.advance_cons open', explicitCall, named,
    Cursor.advance_cons (Token.ne_finish_of_isName named), callOf, method?, Rule.capabilities,
    Cursor.atPointMethod, Cursor.atBareMethod, Cursor.isAtSymbol, Token.isSymbol,
    Token.isMethodWord, symbol, callArguments, parenArguments,
    Cursor.advance_cons (Token.ne_finish_of_isSymbol opens), inside, start]

end

/-! ### Mentions -/

/-- A name in parentheses behind a word for output, and the statement that it is read as. -/
inductive Saying (name : String) : List Token → Stmt → Prop
  | intro {word opener mention closer : Token} (heads : word.keyword? = some .output)
      (opens : opener.isSymbol "(" = true) (named : mention.isName = true)
      (same : mention.lexeme = name) (closes : closer.isSymbol ")" = true) :
      Saying name [word, opener, mention, closer]
        (.output (some (mention.mention, none)) word.place)

theorem statements_single {mode : Mode} {cursor : Cursor} {finish : Token} {stmt : Stmt}
    {stop : Nat} (open' : cursor.atEnd = false) (ends : finish.kind = .finish)
    (read : statement (statementsWithin cursor) mode cursor =
      .done (some stmt) ⟨[finish], stop⟩ [])
    (shorter : 1 < cursor.rest.length) :
    ∃ last, statements mode cursor = .done [stmt] last [] := by
  have ended : statements mode ⟨[finish], stop⟩ = .done [] ⟨[finish], stop⟩ [] :=
    statements_atEnd (by simp [Cursor.atEnd, ends]) mode
  exact ⟨_, statements_cons open' read shorter ended⟩

namespace Saying

variable {name : String} {tokens : List Token} {stmt : Stmt}

theorem ne_nil (saying : Saying name tokens stmt) : tokens ≠ [] := by
  obtain ⟨⟩ := saying
  exact List.cons_ne_nil _ _

theorem open' (saying : Saying name tokens stmt) : ∀ token ∈ tokens, token.kind ≠ .finish := by
  obtain ⟨heads, opens, named, _, closes⟩ := saying
  simp [Token.ne_finish_of_keyword? heads, Token.ne_finish_of_isSymbol opens,
    Token.ne_finish_of_isName named, Token.ne_finish_of_isSymbol closes]

theorem balanced (saying : Saying name tokens stmt) : Token.Balanced tokens := by
  obtain @⟨word, opener, mention, closer, heads, opens, named, same, closes⟩ := saying
  have left : opener.keyword? = none := Token.keyword?_of_paren opens
  have right : closer.keyword? = none := by
    simp only [Token.isSymbol, Bool.and_eq_true, decide_eq_true_eq] at closes
    rw [Token.keyword?, closes.1, closes.2]
    exact Keyword.ofSpelling?_of_mark (by decide)
  have middle : mention.keyword? = none ∨ mention.keyword? = some .typeWord := by
    simp only [Token.isName, Bool.or_eq_true, Bool.and_eq_true, decide_eq_true_eq] at named
    rcases named with kind | ⟨_, known⟩
    · exact Or.inl (by simp [Token.keyword?, kind])
    · exact Or.inr known
  -- a type word is a keyword, but it opens no block
  rcases middle with known | known <;>
    simp [Token.Balanced, Token.openBlocks, heads, left, known, right]

theorem statement_reads (saying : Saying name tokens stmt) {after : Token}
    (boundary : after.isBoundary = true) (inner : Rule (List Stmt)) (mode : Mode)
    (rest : List Token) (lastStop : Nat) :
    ∃ stop, statement inner mode ⟨tokens ++ after :: rest, lastStop⟩ =
      .done (some stmt) ⟨after :: rest, stop⟩ [] := by
  obtain @⟨word, opener, mention, closer, heads, opens, named, same, closes⟩ := saying
  refine ⟨closer.stop, ?_⟩
  have leads : lead word = .output := by simp [lead, heads]
  have starts : mention.startsExpression = true := Token.startsExpression_of_isName named
  have notLeft : closer.isSymbol "(" = false := by
    simp only [Token.isSymbol, Bool.and_eq_true, decide_eq_true_eq] at closes
    simp [Token.isSymbol, closes]
  have plain := Token.not_isSymbol_of_isName named
  have parens : Cursor.atOutputParens
      ⟨[opener, mention, closer] ++ after :: rest, word.stop⟩ = true := by
    simp [Cursor.atOutputParens, Cursor.isAtSymbol, opens, closingParen?, plain, notLeft, closes,
      boundary]
  have argument : Grammar.items expression ")" .arguments .arguments mode
      ⟨[mention] ++ closer :: after :: rest, opener.stop⟩ = _ :=
    items_commas (.last mention) closes (by decide) (by simpa using starts) (after :: rest)
      (takesEach_names _ (by simpa using named)) (Nat.le_refl _) opener.stop
  simp only [List.cons_append, List.nil_append] at parens argument
  simp [statement, here, leads, output, next, parens, parenArguments, argument,
    Cursor.advance_cons (Token.ne_finish_of_keyword? heads),
    Cursor.advance_cons (Token.ne_finish_of_isSymbol opens), outputOf]

theorem statements_read (saying : Saying name tokens stmt) {finish : Token}
    (ends : finish.kind = .finish) (mode : Mode) (lastStop : Nat) :
    ∃ last, statements mode ⟨tokens ++ [finish], lastStop⟩ = .done [stmt] last [] := by
  have boundary : finish.isBoundary = true := Token.EndsStatement.isBoundary (Or.inl ends)
  have open' : Cursor.atEnd ⟨tokens ++ [finish], lastStop⟩ = false := by
    obtain ⟨heads, _⟩ := saying
    exact decide_eq_false (Token.ne_finish_of_keyword? heads)
  obtain ⟨stop, read⟩ := saying.statement_reads boundary
    (statementsWithin ⟨tokens ++ [finish], lastStop⟩) mode [] lastStop
  have shorter : 1 < (tokens ++ [finish]).length := by
    obtain ⟨⟩ := saying
    simp
  exact statements_single open' ends read shorter

theorem block_reads (saying : Saying name tokens stmt) {opener closer : Token}
    (opens : opener.keyword? = some .blockOpen) (closes : closer.keyword? = some .blockClose)
    {inner : Rule (List Stmt)} {mode : Mode}
    (serves : Printing.Serves inner mode (tokens.length + 2)) (rest : List Token)
    (lastStop : Nat) :
    block inner false mode ⟨opener :: (tokens ++ closer :: rest), lastStop⟩ =
      .done ⟨[stmt], opener.place, .closed⟩ ⟨rest, closer.stop⟩ [] := by
  have extent := Extent.ofBody_balanced saying.open' saying.balanced closes rest
  have finish : (Token.finishAt closer.offset closer.place closer.offset).kind = .finish := rfl
  obtain ⟨last, read⟩ := saying.statements_read finish mode 0
  have inside : inner mode (.ofTokens (tokens ++
      [.finishAt closer.offset closer.place closer.offset])) = .done [stmt] last [] := by
    -- a body is read by itself, with a closing token in place of the word that ends it
    rw [serves _ (by simp [Cursor.ofTokens])]
    exact read
  have body : blockBody inner false opener mode ⟨tokens ++ closer :: rest, opener.stop⟩ = _ :=
    Printing.blockBody_done extent (by decide) inside opener.stop
  have noBrace : Cursor.isAtSymbol ⟨tokens ++ closer :: rest, opener.stop⟩ "\x7b" = false := by
    obtain @⟨word, _, _, _, heads, _⟩ := saying
    refine Bool.eq_false_iff.mpr fun found => ?_
    have symbol : word.isSymbol "\x7b" = true := found
    simp only [Token.isSymbol, Bool.and_eq_true, decide_eq_true_eq] at symbol
    simp [Token.keyword?, symbol, Keyword.ofSpelling?_blockOpen] at heads
  simp only [block, bind_apply, next, Cursor.current_cons, Reading.done_andThen,
    Cursor.advance_cons (Token.ne_finish_of_keyword? opens)]
  split
  · simpa [acceptSymbol, noBrace, Extent.behind, Extent.boundary] using body
  · simpa [Extent.behind, Extent.boundary] using body

end Saying

end Grammar

end Parlance
