import Parlance.Proofs.Printing.Formula
import Parlance.Proofs.Printing.Term
import Parlance.Token.Scan

/-!
Formulas read back. How much of a printed formula is taken at once depends on its level: what may be
indexed is read up to the brackets behind it, what begins with a prefix operator up to the operators
behind it, and an operation up to the operators that bind as it does. Main statement:
`Formula.printed_back`.
-/

namespace Parlance.Printing

open Grammar Rule

variable {capabilities : Capabilities} {strict : Bool}

/-! ### What ends a formula -/

/-- Nothing goes on with a formula of some level: no bracket touches it, and no operator behind it
binds tighter. -/
structure Ends (level : Nat) (cursor : Cursor) : Prop where
  apart : (cursor.isAtSymbol "[" && cursor.touches) = false
  looser : ∀ op, cursor.binaryOp? = some op → (cursor.ahead 1).startsExpression = true →
    op.precedence ≤ level

theorem Ends.mono {low high : Nat} {cursor : Cursor} (ends : Ends low cursor) (le : low ≤ high) :
    Ends high cursor :=
  ⟨ends.apart, fun op found starts => Nat.le_trans (ends.looser op found starts) le⟩

theorem binaryOp?_of_isSymbol {token : Token} {symbol : String}
    (known : symbol ∈ [",", ")", "]", "\x7d"]) (found : token.isSymbol symbol = true) :
    token.keyword?.bind (·.binaryOp?) = none := by
  have meaningless : ∀ symbol ∈ [",", ")", "]", "\x7d"],
      (Keyword.ofSpelling? symbol).bind (·.binaryOp?) = none := by decide +kernel
  simp only [Token.isSymbol, Bool.and_eq_true, decide_eq_true_eq] at found
  simp only [Token.keyword?, found.1, found.2]
  exact meaningless symbol known

theorem isSymbol_other {token : Token} {symbol other : String}
    (found : token.isSymbol symbol = true) (differ : symbol ≠ other) :
    token.isSymbol other = false := by
  simp only [Token.isSymbol, Bool.and_eq_true, decide_eq_true_eq] at found
  simp [Token.isSymbol, found.2, differ]

theorem ends_of_isSymbol {token : Token} {symbol : String}
    (known : symbol ∈ [",", ")", "]", "\x7d"]) (found : token.isSymbol symbol = true) (level : Nat)
    (rest : List Token) (stop : Nat) : Ends level ⟨token :: rest, stop⟩ where
  apart := by
    have differ : symbol ≠ "[" := by
      rintro rfl
      exact absurd known (by decide)
    simp [Cursor.isAtSymbol, isSymbol_other found differ]
  looser op operator _ := by
    rw [Cursor.binaryOp?, Cursor.current_cons, binaryOp?_of_isSymbol known found] at operator
    cases operator

theorem ends_of_finish {cursor : Cursor} (finish : cursor.current.kind = .finish) (level : Nat) :
    Ends level cursor where
  apart := by simp [Cursor.isAtSymbol, Token.isSymbol, finish]
  looser op operator _ := by simp [Cursor.binaryOp?, Token.keyword?, finish] at operator

theorem indexes_apart {mode : Mode} {cursor : Cursor} (expression : Rule Expr) (target : Expr)
    (apart : (cursor.isAtSymbol "[" && cursor.touches) = false) :
    indexes expression target mode cursor = .done target cursor [] := by
  rw [indexes, tie_apply]
  simp only [indexes.round, bind_apply, here, Reading.done_andThen, apart, Bool.false_eq_true,
    ↓reduceIte, pure_apply]

theorem operators_ends {mode : Mode} {cursor : Cursor} {level least : Nat} (left : Expr)
    (expression : Nat → Rule Expr) (ends : Ends level cursor) (tighter : level < least) :
    operators expression least left mode cursor = .done left cursor [] := by
  rw [operators, tie_apply]
  simp only [operators.round, bind_apply, here, Reading.done_andThen]
  cases operator : cursor.binaryOp? with
  | none => rfl
  | some op =>
      have stops :
          (decide (least ≤ op.precedence) && (cursor.ahead 1).startsExpression) = false := by
        refine Bool.eq_false_iff.mpr fun both => ?_
        obtain ⟨reaches, starts⟩ := Bool.and_eq_true_iff.mp both
        have bound := ends.looser op operator starts
        have above := of_decide_eq_true reaches
        omega
      simp only [stops, Bool.false_eq_true, ↓reduceIte, pure_apply]

/-! ### Readings of signs -/

/-- The rule reads expressions wherever fewer than so many tokens are ahead. -/
def Supplies (mode : Mode) (count : Nat) (expression : Rule Expr) : Prop :=
  ∀ cursor, cursor.rest.length < count → expression mode cursor = expressionOf 1 mode cursor

theorem Supplies.mono {mode : Mode} {less count : Nat} {expression : Rule Expr}
    (supplies : Supplies mode count expression) (le : less ≤ count) :
    Supplies mode less expression :=
  fun cursor shorter => supplies cursor (Nat.lt_of_lt_of_le shorter le)

theorem Supplies.behind {mode : Mode} {front back : List Token} {expression : Rule Expr}
    (supplies : Supplies mode ((front ++ back).length + 1) expression) :
    Supplies mode (back.length + 1) expression :=
  supplies.mono (by simp)

def WholeReads (strict : Bool) (level : Nat) (signs : List (Sign capabilities)) (expr : Expr) :
    Prop :=
  ∀ ⦃least first last : Nat⦄ ⦃tokens rest : List Token⦄, least ≤ level →
    Written first signs tokens last → Ends level ⟨rest, last⟩ →
    ∃ value : Expr, value.unplaced = expr ∧
      expressionOf least ⟨strict, capabilities⟩ ⟨tokens ++ rest, first⟩ =
        operators (expressionWithin ⟨tokens ++ rest, first⟩) least value ⟨strict, capabilities⟩
          ⟨rest, last⟩

def UnaryReads (strict : Bool) (signs : List (Sign capabilities)) (expr : Expr) : Prop :=
  ∀ ⦃first last : Nat⦄ ⦃tokens rest : List Token⦄ ⦃expression : Rule Expr⦄,
    Written first signs tokens last →
    Supplies ⟨strict, capabilities⟩ (tokens ++ rest).length expression →
    (Cursor.isAtSymbol ⟨rest, last⟩ "[" && Cursor.touches ⟨rest, last⟩) = false →
    ∃ value : Expr, value.unplaced = expr ∧
      unary expression ⟨strict, capabilities⟩ ⟨tokens ++ rest, first⟩ =
        .done value ⟨rest, last⟩ []

def IndexedReads (strict : Bool) (signs : List (Sign capabilities)) (expr : Expr) : Prop :=
  ∀ ⦃first last : Nat⦄ ⦃tokens rest : List Token⦄ ⦃expression : Rule Expr⦄,
    Written first signs tokens last →
    Supplies ⟨strict, capabilities⟩ (tokens ++ rest).length expression →
    ∃ value : Expr, value.unplaced = expr ∧
      indexed expression ⟨strict, capabilities⟩ ⟨tokens ++ rest, first⟩ =
        indexes expression value ⟨strict, capabilities⟩ ⟨rest, last⟩

def PrimaryReads (strict : Bool) (signs : List (Sign capabilities)) (expr : Expr) : Prop :=
  ∀ ⦃first last : Nat⦄ ⦃tokens rest : List Token⦄ ⦃expression : Rule Expr⦄,
    Written first signs tokens last →
    Supplies ⟨strict, capabilities⟩ (tokens ++ rest).length expression →
    ∃ value : Expr, value.unplaced = expr ∧
      primary expression ⟨strict, capabilities⟩ ⟨tokens ++ rest, first⟩ =
        .done value ⟨rest, last⟩ []

/-- The first sign begins an expression, and is no prefix operator if the signs may be indexed. -/
def Begins (level : Nat) (signs : List (Sign capabilities)) : Prop :=
  ∃ sign more, signs = sign :: more ∧ ∀ token, sign.Spells token →
    token.startsExpression = true ∧
      (indexLevel ≤ level → token.keyword?.bind (·.unaryOp?) = none)

def Plain (signs : List (Sign capabilities)) : Prop :=
  ∃ sign more, signs = sign :: more ∧ ∀ token, sign.Spells token →
    token.keyword?.bind (·.unaryOp?) = none

structure ReadsAs (strict : Bool) (level : Nat) (signs : List (Sign capabilities)) (expr : Expr) :
    Prop where
  begins : Begins level signs
  whole : WholeReads strict level signs expr
  unary : prefixLevel ≤ level → UnaryReads strict signs expr
  indexed : indexLevel ≤ level → IndexedReads strict signs expr

section

variable {signs more : List (Sign capabilities)} {expr : Expr} {level least : Nat}

theorem Begins.append (begins : Begins level signs) : Begins level (signs ++ more) := by
  obtain ⟨sign, behind, rfl, first⟩ := begins
  exact ⟨sign, behind ++ more, rfl, first⟩

theorem Begins.mono (begins : Begins level signs) (le : least ≤ level) : Begins least signs := by
  obtain ⟨sign, behind, rfl, first⟩ := begins
  exact ⟨sign, behind, rfl, fun token spells =>
    ⟨(first token spells).1, fun high => (first token spells).2 (Nat.le_trans high le)⟩⟩

theorem Begins.plain (begins : Begins indexLevel signs) : Plain signs := by
  obtain ⟨sign, behind, rfl, first⟩ := begins
  exact ⟨sign, behind, rfl, fun token spells => (first token spells).2 (Nat.le_refl _)⟩

theorem Begins.token (begins : Begins level signs) {first last : Nat} {tokens : List Token}
    (written : Written first signs tokens last) :
    ∃ token behind, tokens = token :: behind ∧ token.startsExpression = true := by
  obtain ⟨sign, _, rfl, known⟩ := begins
  obtain ⟨token, behind, rfl, spells, _⟩ := written_cons written
  exact ⟨token, behind, rfl, (known token spells).1⟩

theorem begins_item {item : Item capabilities}
    (known : item.literal?.isSome = true ∨ (∃ name, item = .name name) ∨ item = .fixed .openParen) :
    Begins level (.item item :: more) :=
  ⟨.item item, more, rfl, fun _ spells =>
    ⟨spells.item.starts known, fun _ => spells.item.unaryOp?_eq known⟩⟩

/-! ### From the tightest level to the loosest -/

theorem PrimaryReads.indexed (reads : PrimaryReads strict signs expr) :
    IndexedReads strict signs expr := by
  intro first last tokens rest expression written supplies
  obtain ⟨value, same, result⟩ := reads written supplies
  exact ⟨value, same, by rw [Grammar.indexed, bind_apply, result, Reading.done_andThen]⟩

theorem IndexedReads.unary (reads : IndexedReads strict signs expr) (plain : Plain signs) :
    UnaryReads strict signs expr := by
  intro first last tokens rest expression written supplies apart
  obtain ⟨value, same, result⟩ := reads written supplies
  obtain ⟨sign, more, rfl, known⟩ := plain
  obtain ⟨token, behind, rfl, spells, _⟩ := written_cons written
  have operator : Cursor.unaryOp? ⟨token :: behind ++ rest, first⟩ = none := known token spells
  refine ⟨value, same, ?_⟩
  rw [Grammar.unary, tie_apply]
  simp only [unary.round, bind_apply, here, Reading.done_andThen, operator]
  rw [result, indexes_apart expression value apart]

theorem UnaryReads.whole (reads : UnaryReads strict signs expr) :
    WholeReads strict level signs expr := by
  intro least first last tokens rest _ written ends
  obtain ⟨value, same, result⟩ :=
    reads written (expressionWithin_one ⟨tokens ++ rest, first⟩ ⟨strict, capabilities⟩) ends.apart
  exact ⟨value, same, by rw [expressionOf_apply, result, Reading.done_andThen]⟩

theorem IndexedReads.reads (indexed : IndexedReads strict signs expr)
    (begins : Begins indexLevel signs) : ReadsAs strict indexLevel signs expr where
  begins := begins
  whole := (indexed.unary begins.plain).whole
  unary _ := indexed.unary begins.plain
  indexed _ := indexed

theorem PrimaryReads.reads (primary : PrimaryReads strict signs expr)
    (begins : Begins indexLevel signs) : ReadsAs strict indexLevel signs expr :=
  primary.indexed.reads begins

theorem ReadsAs.mono (reads : ReadsAs strict level signs expr) (le : least ≤ level) :
    ReadsAs strict least signs expr where
  begins := reads.begins.mono le
  whole _ _ _ _ _ reaches written ends :=
    reads.whole (Nat.le_trans reaches le) written (ends.mono le)
  unary high := reads.unary (Nat.le_trans high le)
  indexed high := reads.indexed (Nat.le_trans high le)

theorem WholeReads.result (reads : WholeReads strict level signs expr) {first last ending : Nat}
    {tokens rest : List Token} (reaches : least ≤ level)
    (written : Written first signs tokens last) (ends : Ends ending ⟨rest, last⟩)
    (looser : ending ≤ level) (tighter : ending < least) :
    ∃ value : Expr, value.unplaced = expr ∧
      expressionOf least ⟨strict, capabilities⟩ ⟨tokens ++ rest, first⟩ =
        .done value ⟨rest, last⟩ [] := by
  obtain ⟨value, same, result⟩ := reads reaches written (ends.mono looser)
  exact ⟨value, same, by rw [result, operators_ends value _ ends tighter]⟩

/-! ### Parentheses -/

theorem begins_parenthesised : Begins level (parenthesised signs) :=
  begins_item (Or.inr (Or.inr rfl))

theorem parenthesised_primary (reads : WholeReads strict level signs expr) (positive : 1 ≤ level) :
    PrimaryReads strict (parenthesised signs) expr := by
  intro first last tokens rest expression written supplies
  obtain ⟨opener, inside, closer, stop, rfl, opens, within, closes, rfl⟩ := written_between written
  have symbol : closer.isSymbol ")" = true := closes.isSymbol_eq ")"
  obtain ⟨value, same, result⟩ := reads.result positive within
    (ends_of_isSymbol (by decide) symbol 0 rest stop) (Nat.zero_le _) Nat.zero_lt_one
  refine ⟨value, same, ?_⟩
  have inner : expression ⟨strict, capabilities⟩ ⟨inside ++ closer :: rest, opener.stop⟩ = _ :=
    (supplies _ (by simp)).trans result
  have shape : opener :: (inside ++ [closer]) ++ rest = opener :: (inside ++ closer :: rest) := by
    simp
  rw [shape]
  exact primary_group opens.open' (opening_openParen opens.item) inner symbol first

/-- Where a tighter level is needed parentheses give it. -/
theorem ReadsAs.enclosed (reads : ReadsAs strict level signs expr) (positive : 1 ≤ level)
    (bounded : least ≤ indexLevel) : ReadsAs strict least (enclosed level least signs) expr := by
  unfold Printing.enclosed
  split
  · exact ((parenthesised_primary reads.whole positive).reads begins_parenthesised).mono bounded
  · rename_i tight
    exact reads.mono (Nat.not_lt.mp tight)

/-! ### Operators -/

theorem prefixSign_spells {op : UnaryOp} {token : Token}
    (spells : (prefixSign op : Sign capabilities).Spells token) :
    token.startsExpression = true ∧ token.keyword?.bind (·.unaryOp?) = some op := by
  cases op with
  | not =>
      have word : token.keyword? = some .not := spells.keyword?_eq
      have kind : token.kind = .keyword := spells.kind
      simp [Token.startsExpression, kind, word, Token.isExpressionKeyword, Keyword.unaryOp?]
  | negate =>
      have word : token.keyword? = some .sub := spells.keyword?_eq
      have kind : token.kind = .symbol := spells.kind
      have lexeme : token.lexeme = "-" := spells.lexeme
      simp [Token.startsExpression, kind, lexeme, word, Keyword.unaryOp?]

theorem unary_reads {op : UnaryOp} (operand : ReadsAs strict prefixLevel signs expr) :
    UnaryReads strict (prefixSign op :: signs) (.unary op expr .start) := by
  intro first last tokens rest expression written supplies apart
  obtain ⟨sign, behind, rfl, spells, written⟩ := written_cons written
  obtain ⟨value, same, result⟩ := operand.unary (Nat.le_refl _) written
    (supplies.mono (by simp)) apart
  obtain ⟨next, behind, rfl, starts⟩ := operand.begins.token written
  refine ⟨.unary op value sign.place, by simp [Expr.unplaced, same], ?_⟩
  have step : Cursor.advance ⟨sign :: (next :: behind) ++ rest, first⟩ =
      ⟨next :: behind ++ rest, sign.stop⟩ := Cursor.advance_cons spells.open' _ first
  refine unary_prefix (prefixSign_spells spells).2 starts ?_ (step ▸ result)
  rw [step]
  exact Nat.lt_succ_self _

theorem binary_reads {op : BinaryOp} {left right : List (Sign capabilities)}
    {leftExpr rightExpr : Expr} (first : ReadsAs strict op.precedence left leftExpr)
    (second : ReadsAs strict (op.precedence + 1) right rightExpr) :
    WholeReads strict op.precedence (left ++ .fixed (.binary op) :: right)
      (.binary op leftExpr rightExpr .start) := by
  intro least start last tokens rest reaches written ends
  obtain ⟨front, _, middle, rfl, leftWritten, written⟩ := written_append written
  obtain ⟨sign, behind, rfl, spells, rightWritten⟩ := written_cons written
  have operator : sign.keyword?.bind (·.binaryOp?) = some op := by
    rw [spells.keyword?_eq]
    exact Keyword.binaryOp?_eq_some_iff.mpr rfl
  have noBracket : sign.isSymbol "[" = false := by
    rw [spells.isSymbol_eq]
    cases op <;> rfl
  obtain ⟨rightValue, sameRight, readRight⟩ := second.whole.result (Nat.le_refl _) rightWritten ends
    (Nat.le_succ _) (Nat.lt_succ_self _)
  have endsLeft : Ends op.precedence ⟨sign :: (behind ++ rest), middle⟩ :=
    { apart := by simp [Cursor.isAtSymbol, noBracket]
      looser := fun other found _ => by
        obtain rfl := Option.some.inj (operator.symm.trans found)
        exact Nat.le_refl _ }
  obtain ⟨leftValue, sameLeft, readLeft⟩ := first.whole reaches leftWritten endsLeft
  refine ⟨.binary op leftValue rightValue sign.place, by simp [Expr.unplaced, sameLeft, sameRight],
    ?_⟩
  -- the left operand was read up to the sign, and the right one ends where the whole does
  rw [List.append_assoc, List.cons_append, readLeft]
  have step : Cursor.advance ⟨sign :: (behind ++ rest), middle⟩ = ⟨behind ++ rest, sign.stop⟩ :=
    Cursor.advance_cons spells.open' _ middle
  obtain ⟨next, behind, rfl, starts⟩ := second.begins.token rightWritten
  refine operators_more operator reaches starts ?_ (by simp; omega)
  rw [step, expressionWithin_shorter (by simp; omega)]
  exact readRight

/-! ### Brackets -/

theorem index_reads {target position : List (Sign capabilities)} {targetExpr positionExpr : Expr}
    (first : ReadsAs strict indexLevel target targetExpr)
    (second : ReadsAs strict level position positionExpr) (positive : 1 ≤ level) :
    IndexedReads strict (target ++ .openIndex :: (position ++ [.closeBracket]))
      (.index targetExpr positionExpr .start) := by
  intro start last tokens rest expression written supplies
  obtain ⟨front, _, middle, rfl, targetWritten, written⟩ := written_append written
  obtain ⟨opener, inside, closer, stop, rfl, opens, within, closes, rfl⟩ := written_between written
  -- the bracket stands right behind the target, else it would open a list
  have touches : opener.offset = middle := written_openIndex written
  have symbol : closer.isSymbol "]" = true := closes.isSymbol_eq "]"
  have shape : front ++ opener :: (inside ++ [closer]) ++ rest =
      front ++ opener :: (inside ++ closer :: rest) := by simp
  rw [shape] at supplies
  obtain ⟨value, same, result⟩ := first.indexed (Nat.le_refl _) targetWritten supplies
  obtain ⟨place, samePlace, readPlace⟩ := second.whole.result positive within
    (ends_of_isSymbol (by decide) symbol 0 rest stop) (Nat.zero_le _) Nat.zero_lt_one
  have step : Cursor.advance ⟨opener :: (inside ++ closer :: rest), middle⟩ =
      ⟨inside ++ closer :: rest, opener.stop⟩ := Cursor.advance_cons opens.open' _ middle
  have last : Cursor.advance ⟨closer :: rest, stop⟩ = ⟨rest, closer.stop⟩ :=
    Cursor.advance_cons closes.open' _ stop
  refine ⟨.index value place opener.place, by simp [Expr.unplaced, same, samePlace], ?_⟩
  rw [shape, result, ← last]
  refine indexes_index (opens.isSymbol_eq "[") (decide_eq_true touches.symm) ?_ symbol ?_
  · rw [step, supplies _ (by simp; omega)]
    exact readPlace
  · rw [last]
    simp only [List.length_cons, List.length_append]
    omega

/-! ### Items and entries -/

def Further (signs : List (Sign capabilities)) : Prop :=
  signs = [] ∨ ∃ more, signs = .fixed .comma :: more

theorem further_furtherSigns (formulas : List (Formula capabilities)) :
    Further (furtherSigns formulas) := by
  cases formulas with
  | nil => exact Or.inl rfl
  | cons formula rest => exact Or.inr ⟨_, rfl⟩

theorem further_furtherEntries (entries : List (String × Formula capabilities)) :
    Further (furtherEntries entries) := by
  cases entries with
  | nil => exact Or.inl rfl
  | cons entry rest => exact Or.inr ⟨_, rfl⟩

theorem Further.ends (further : Further signs) {first last : Nat} {tokens : List Token}
    (written : Written first signs tokens last) {closer : Token} {symbol : String}
    (known : symbol ∈ [",", ")", "]", "\x7d"]) (closes : closer.isSymbol symbol = true)
    (rest : List Token) (stop : Nat) : Ends 0 ⟨tokens ++ closer :: rest, stop⟩ := by
  rcases further with rfl | ⟨more, rfl⟩
  · obtain ⟨rfl, _⟩ := written
    exact ends_of_isSymbol known closes 0 rest stop
  · obtain ⟨comma, behind, rfl, spells, _⟩ := written_cons written
    exact ends_of_isSymbol (by decide) (spells.isSymbol_eq ",") 0 _ stop

theorem open_of_isSymbol {token : Token} {symbol : String} (found : token.isSymbol symbol = true) :
    token.kind ≠ .finish := by
  intro finish
  simp [Token.isSymbol, finish] at found

theorem spells_comma {token : Token} (spells : (Sign.fixed .comma : Sign capabilities).Spells token)
    {symbol : String} (differ : symbol ≠ ",") :
    token.isSymbol "," = true ∧ token.isSymbol symbol = false :=
  have comma : token.isSymbol "," = true := spells.isSymbol_eq ","
  ⟨comma, isSymbol_other comma differ.symm⟩

def ItemsRead (strict : Bool) (symbol : String) (signs : List (Sign capabilities))
    (exprs : List Expr) : Prop :=
  ∀ ⦃first last : Nat⦄ ⦃tokens rest : List Token⦄ ⦃closer : Token⦄ ⦃expression : Rule Expr⦄
    (bracket : Bracket) (inside : Inside), Written first signs tokens last →
    closer.isSymbol symbol = true →
    Supplies ⟨strict, capabilities⟩ ((tokens ++ closer :: rest).length + 1) expression →
    ∃ values : List Expr, Expr.unplacedAll values = exprs ∧
      items expression symbol bracket inside ⟨strict, capabilities⟩
        ⟨tokens ++ closer :: rest, first⟩ = .done values ⟨rest, closer.stop⟩ []

def EntriesRead (strict : Bool) (signs : List (Sign capabilities))
    (entries : List (MapKey × Expr)) : Prop :=
  ∀ ⦃first last : Nat⦄ ⦃tokens rest : List Token⦄ ⦃closer : Token⦄ ⦃expression : Rule Expr⦄,
    Written first signs tokens last → closer.isSymbol "\x7d" = true →
    Supplies ⟨strict, capabilities⟩ ((tokens ++ closer :: rest).length + 1) expression →
    ∃ values : List (MapKey × Expr), Expr.unplacedEntries values = entries ∧
      mapEntries expression ⟨strict, capabilities⟩ ⟨tokens ++ closer :: rest, first⟩ =
        .done values ⟨rest, closer.stop⟩ []

section

variable {symbol : String} {exprs : List Expr} {entries : List (MapKey × Expr)}

theorem itemsRead_nil : ItemsRead strict symbol ([] : List (Sign capabilities)) [] := by
  rintro first last _ rest closer expression bracket inside ⟨rfl, rfl⟩ closes _
  have here : Cursor.isAtSymbol ⟨closer :: rest, last⟩ symbol = true := closes
  refine ⟨[], rfl, ?_⟩
  rw [List.nil_append, items_close here, Cursor.advance_cons (open_of_isSymbol closes)]

theorem ItemsRead.comma (reads : ItemsRead strict symbol signs exprs) (differ : symbol ≠ ",") :
    ItemsRead strict symbol (.fixed .comma :: signs) exprs := by
  intro first last tokens rest closer expression bracket inside written closes supplies
  obtain ⟨comma, behind, rfl, spells, written⟩ := written_cons written
  obtain ⟨found, other⟩ := spells_comma spells differ
  let cursor : Cursor := ⟨comma :: (behind ++ closer :: rest), first⟩
  have atComma : cursor.isAtSymbol "," = true := found
  have notClosed : cursor.isAtSymbol symbol = false := other
  have step : cursor.advance = ⟨behind ++ closer :: rest, comma.stop⟩ :=
    Cursor.advance_cons spells.open' _ first
  obtain ⟨values, same, result⟩ := reads bracket inside written closes
    (supplies.mono (Nat.le_succ _))
  refine ⟨values, same, (items_comma notClosed atComma ?_).trans ?_⟩
  · rw [step]
    exact Nat.lt_succ_self _
  · rw [step]
    exact result

theorem ItemsRead.item (reads : ItemsRead strict symbol more exprs)
    (item : ReadsAs strict level signs expr) (positive : 1 ≤ level) (further : Further more)
    (known : symbol ∈ [")", "]"]) : ItemsRead strict symbol (signs ++ more) (expr :: exprs) := by
  intro first last tokens rest closer expression bracket inside written closes supplies
  obtain ⟨front, back, middle, rfl, itemWritten, written⟩ := written_append written
  rw [List.append_assoc] at supplies ⊢
  have other : ["(", "[", "-", "!"].contains symbol = false := by
    rcases List.mem_pair.mp known with rfl | rfl <;> decide
  have among : symbol ∈ [",", ")", "]", "\x7d"] := by
    rcases List.mem_pair.mp known with rfl | rfl <;> decide
  obtain ⟨value, same, result⟩ := item.whole.result positive itemWritten
    (further.ends written among closes rest middle) (Nat.zero_le _) Nat.zero_lt_one
  obtain ⟨values, sameAll, results⟩ := reads bracket inside written closes supplies.behind
  obtain ⟨next, behind, rfl, starts⟩ := item.begins.token itemWritten
  have noClosing : next.isSymbol symbol = false := Token.not_isSymbol_of_starts starts other
  have noComma : next.isSymbol "," = false := Token.not_isSymbol_of_starts starts (by decide)
  refine ⟨value :: values, by simp [Expr.unplacedAll, same, sameAll],
    items_item noClosing noComma starts ?_ ?_ results⟩
  · rw [supplies _ (Nat.lt_succ_self _)]
    exact result
  · simp only [List.length_cons, List.length_append]
    omega

theorem entriesRead_nil : EntriesRead strict ([] : List (Sign capabilities)) [] := by
  rintro first last _ rest closer expression ⟨rfl, rfl⟩ closes _
  have here : Cursor.isAtSymbol ⟨closer :: rest, last⟩ "\x7d" = true := closes
  refine ⟨[], rfl, ?_⟩
  rw [List.nil_append, mapEntries_close here, Cursor.advance_cons (open_of_isSymbol closes)]

theorem EntriesRead.comma (reads : EntriesRead strict signs entries) :
    EntriesRead strict (.fixed .comma :: signs) entries := by
  intro first last tokens rest closer expression written closes supplies
  obtain ⟨comma, behind, rfl, spells, written⟩ := written_cons written
  obtain ⟨found, other⟩ := spells_comma spells (show "\x7d" ≠ "," by decide)
  let cursor : Cursor := ⟨comma :: (behind ++ closer :: rest), first⟩
  have atComma : cursor.isAtSymbol "," = true := found
  have notClosed : cursor.isAtSymbol "\x7d" = false := other
  have step : cursor.advance = ⟨behind ++ closer :: rest, comma.stop⟩ :=
    Cursor.advance_cons spells.open' _ first
  obtain ⟨values, same, result⟩ := reads written closes (supplies.mono (Nat.le_succ _))
  refine ⟨values, same, (mapEntries_comma notClosed atComma ?_).trans ?_⟩
  · rw [step]
    exact Nat.lt_succ_self _
  · rw [step]
    exact result

theorem EntriesRead.entry (reads : EntriesRead strict more entries)
    (item : ReadsAs strict level signs expr) (positive : 1 ≤ level) (key : String)
    (further : Further more) :
    EntriesRead strict (.item (.text key) :: .colon :: (signs ++ more))
      ((⟨key, .start⟩, expr) :: entries) := by
  intro first last tokens rest closer expression written closes supplies
  obtain ⟨quoted, _, rfl, names, written⟩ := written_cons written
  obtain ⟨colon, _, rfl, separates, written⟩ := written_cons written
  obtain ⟨front, back, middle, rfl, itemWritten, written⟩ := written_append written
  obtain ⟨value, same, result⟩ := item.whole.result positive itemWritten
    (further.ends written (by decide) closes rest middle) (Nat.zero_le _) Nat.zero_lt_one
  have shape : quoted :: colon :: (front ++ back) ++ closer :: rest =
      quoted :: colon :: (front ++ (back ++ closer :: rest)) := by simp
  rw [shape] at supplies ⊢
  -- the value begins two tokens further on, so the rule that is supplied reads it
  have supplied : Supplies ⟨strict, capabilities⟩
      ((front ++ (back ++ closer :: rest)).length + 1) expression := supplies.mono (by simp)
  obtain ⟨values, sameAll, results⟩ := reads written closes supplied.behind
  obtain ⟨next, behind, rfl, starts⟩ := item.begins.token itemWritten
  let cursor : Cursor := ⟨quoted :: colon :: (next :: behind ++ (back ++ closer :: rest)), first⟩
  have one : cursor.advance =
      ⟨colon :: (next :: behind ++ (back ++ closer :: rest)), quoted.stop⟩ :=
    Cursor.advance_cons names.open' _ first
  have two : cursor.advance.advance = ⟨next :: behind ++ (back ++ closer :: rest), colon.stop⟩ := by
    rw [one, Cursor.advance_cons separates.open']
  have isKey : cursor.current.kind = .string := names.kind
  have atColon : cursor.advance.isAtSymbol ":" = true := by
    rw [one]
    exact separates.isSymbol_eq ":"
  have startsThere : cursor.advance.advance.current.startsExpression = true := by
    rw [two]
    exact starts
  have text : quoted.lexeme = key := names.lexeme
  refine ⟨(⟨quoted.lexeme, quoted.place⟩, value) :: values,
    by simp [Expr.unplacedEntries, same, sameAll, text],
    mapEntries_entry isKey atColon startsThere ?_ ?_ results⟩
  · rw [two, supplied _ (Nat.lt_succ_self _)]
    exact result
  · simp only [List.length_cons, List.length_append]
    omega

end

/-! ### What operands begin with -/

theorem literal_primary {item : Item capabilities} {value : Literal}
    (known : item.literal? = some value) :
    PrimaryReads strict [.item item] (.literal value .start) := by
  intro first last tokens rest expression written supplies
  obtain ⟨token, _, rfl, spells, rfl, rfl⟩ := written_cons written
  have read : primary expression ⟨strict, capabilities⟩ ⟨token :: rest, first⟩ = _ :=
    primary_literal expression ⟨strict, capabilities⟩ (spells.item.opening_eq known)
  rw [Cursor.advance_cons spells.open'] at read
  exact ⟨_, rfl, read⟩

theorem name_primary (name : Name capabilities) :
    PrimaryReads strict [.item (.name name)] (.ident name.text .start) := by
  intro first last tokens rest expression written supplies
  obtain ⟨token, _, rfl, spells, rfl, rfl⟩ := written_cons written
  exact ⟨_, rfl, primary_name spells.item first⟩

theorem list_primary {exprs : List Expr} (reads : ItemsRead strict "]" signs exprs) :
    PrimaryReads strict (.openList :: (signs ++ [.closeBracket])) (.list exprs .start) := by
  intro first last tokens rest expression written supplies
  obtain ⟨opener, inside, closer, stop, rfl, opens, within, closes, rfl⟩ := written_between written
  have shape : opener :: (inside ++ [closer]) ++ rest = opener :: (inside ++ closer :: rest) := by
    simp
  rw [shape] at supplies ⊢
  obtain ⟨values, same, result⟩ := reads .list .list within (closes.isSymbol_eq "]") supplies
  have word : opener.keyword? = none := opens.keyword?_eq
  have kind : opener.kind = .symbol := opens.kind
  have bracket : opener.isSymbol "[" = true := opens.isSymbol_eq "["
  have paren : opener.isSymbol "(" = false := opens.isSymbol_eq "("
  have opening_eq : opening opener = .list := by simp [opening, kind, word, bracket, paren]
  refine ⟨.list values opener.place, by simp [Expr.unplaced, same], ?_⟩
  simp [primary, here, opening_eq, listExpr, Rule.next, Cursor.advance_cons opens.open', result]

theorem map_primary {entries : List (MapKey × Expr)} (reads : EntriesRead strict signs entries) :
    PrimaryReads strict (.fixed .openBrace :: (signs ++ [.fixed .closeBrace]))
      (.map entries .start) := by
  intro first last tokens rest expression written supplies
  obtain ⟨opener, inside, closer, stop, rfl, opens, within, closes, rfl⟩ := written_between written
  have shape : opener :: (inside ++ [closer]) ++ rest = opener :: (inside ++ closer :: rest) := by
    simp
  rw [shape] at supplies ⊢
  obtain ⟨values, same, result⟩ := reads within (closes.isSymbol_eq "\x7d") supplies
  have word : opener.keyword? = some .blockOpen := opens.keyword?_eq
  have kind : opener.kind = .symbol := opens.kind
  have brace : opener.isSymbol "\x7b" = true := opens.isSymbol_eq "\x7b"
  have bracket : opener.isSymbol "[" = false := opens.isSymbol_eq "["
  have paren : opener.isSymbol "(" = false := opens.isSymbol_eq "("
  have opening_eq : opening opener = .map := by
    simp [opening, kind, word, brace, bracket, paren]
  refine ⟨.map values opener.place, by simp [Expr.unplaced, same], ?_⟩
  simp [primary, here, opening_eq, mapExpr, Rule.next, Cursor.advance_cons opens.open', result]

theorem call_primary (callee : Callee) {exprs : List Expr}
    (reads : ItemsRead strict ")" signs exprs) :
    PrimaryReads strict (.call :: .callee callee :: parenthesised signs)
      (.call callee.text none exprs .start) := by
  intro first last tokens rest expression written supplies
  obtain ⟨word, _, rfl, calls, written⟩ := written_cons written
  obtain ⟨name, _, rfl, names, written⟩ := written_cons written
  obtain ⟨opener, inside, closer, stop, rfl, opens, within, closes, rfl⟩ := written_between written
  have shape : word :: name :: opener :: (inside ++ [closer]) ++ rest =
      word :: name :: opener :: (inside ++ closer :: rest) := by simp
  rw [shape] at supplies ⊢
  have supplied : Supplies ⟨strict, capabilities⟩ ((inside ++ closer :: rest).length + 1)
      expression := supplies.mono (by simp)
  obtain ⟨values, same, result⟩ :=
    reads .arguments .arguments within (closes.isSymbol_eq ")") supplied
  have known : word.keyword? = some .call := calls.keyword?_eq
  have kind : word.kind = .keyword := calls.kind
  have opening_eq : opening word = .call := by simp [opening, kind, known]
  have isName : name.isName = true := by simp [Token.isName, names.kind, Sign.kind]
  have text : name.lexeme = callee.text := names.lexeme
  have paren : opener.isSymbol "(" = true := opens.isSymbol_eq "("
  -- a parenthesis behind the name is neither the point nor the word of a method
  have noPoint : opener.isSymbol "." = false := opens.isSymbol_eq "."
  have noMethod : opener.isMethodWord = false := by
    have symbol : opener.kind = .symbol := opens.kind
    simp [Token.isMethodWord, symbol]
  refine ⟨.call name.lexeme none values name.place, by simp [Expr.unplaced, same, text], ?_⟩
  simp [primary, here, opening_eq, explicitCall, Rule.next, Cursor.advance_cons calls.open', isName,
    Cursor.advance_cons names.open', callOf, method?, Cursor.atPointMethod, Cursor.atBareMethod,
    Rule.capabilities, Cursor.isAtSymbol, noPoint, noMethod, callArguments, paren, parenArguments,
    Cursor.advance_cons opens.open', result]

end

/-! ### Formulas -/

theorem precedence_pos (op : BinaryOp) : 1 ≤ op.precedence := by cases op <;> decide

theorem precedence_lt (op : BinaryOp) : op.precedence < prefixLevel := by cases op <;> decide

theorem Formula.level_pos (formula : Formula capabilities) : 1 ≤ formula.level := by
  cases formula with
  | binary op => exact precedence_pos op
  | unary => exact Nat.le_add_left 1 6
  | _ => exact Nat.le_add_left 1 7

mutual

theorem Formula.reads (strict : Bool) (formula : Formula capabilities) :
    ReadsAs strict formula.level formula.signs formula.denote := by
  cases formula with
  | number | text | nothing =>
      exact (literal_primary rfl).reads (begins_item (Or.inl rfl))
  | boolean value =>
      have known : (Item.fixed (if value then .yes else .no) : Item capabilities).literal? =
          some (.boolean value) := by cases value <;> rfl
      exact (literal_primary known).reads (begins_item (Or.inl (known ▸ rfl)))
  | name name => exact (name_primary name).reads (begins_item (Or.inr (Or.inl ⟨name, rfl⟩)))
  | binary op left right =>
      have tight := precedence_lt op
      have first :=
        (left.reads strict).enclosed left.level_pos (Nat.le_of_lt (Nat.lt_succ_of_lt tight))
      have second := (right.reads strict).enclosed right.level_pos (Nat.le_succ_of_le tight)
      exact
        { begins := first.begins.append
          whole := binary_reads first second
          unary := fun high => absurd high (Nat.not_le.mpr tight)
          indexed := fun high => absurd high (Nat.not_le.mpr (Nat.lt_succ_of_lt tight)) }
  | unary op operand =>
      have inner := (operand.reads strict).enclosed operand.level_pos (Nat.le_succ prefixLevel)
      exact
        { begins := ⟨_, _, rfl, fun token spells => ⟨(prefixSign_spells spells).1, fun high =>
            absurd high (Nat.not_succ_le_self 7)⟩⟩
          whole := (unary_reads inner).whole
          unary := fun _ => unary_reads inner
          indexed := fun high => absurd high (Nat.not_succ_le_self 7) }
  | list items =>
      refine (list_primary (listed_reads strict (by decide) items)).reads
        ⟨.openList, _, rfl, fun token spells => ?_⟩
      have kind : token.kind = .symbol := spells.kind
      have lexeme : token.lexeme = "[" := spells.lexeme
      have word : token.keyword? = none := spells.keyword?_eq
      simp [Token.startsExpression, kind, lexeme, word]
  | map entries =>
      -- the braces begin no expression, but are read as one between parentheses
      have braces : WholeReads strict indexLevel
          (.fixed .openBrace :: (entrySigns entries ++ [.fixed .closeBrace])) _ :=
        ((map_primary (entries_read strict entries)).indexed.unary
          ⟨_, _, rfl, fun token spells => by rw [spells.keyword?_eq]; rfl⟩).whole
      exact (parenthesised_primary braces (by decide)).reads begins_parenthesised
  | call callee arguments =>
      refine (call_primary callee (listed_reads strict (by decide) arguments)).reads
        ⟨.call, _, rfl, fun token spells => ?_⟩
      have kind : token.kind = .keyword := spells.kind
      have word : token.keyword? = some .call := spells.keyword?_eq
      simp [Token.startsExpression, kind, word, Token.isExpressionKeyword, Keyword.unaryOp?]
  | index target position =>
      have first := (target.reads strict).enclosed target.level_pos (Nat.le_refl indexLevel)
      exact (index_reads first (position.reads strict) position.level_pos).reads first.begins.append

theorem listed_reads (strict : Bool) {symbol : String} (known : symbol ∈ [")", "]"])
    (formulas : List (Formula capabilities)) :
    ItemsRead strict symbol (listedSigns formulas) (denoteAll formulas) := by
  cases formulas with
  | nil => exact itemsRead_nil
  | cons formula rest =>
      exact (further_read strict known rest).item (formula.reads strict) formula.level_pos
        (further_furtherSigns rest) known

theorem further_read (strict : Bool) {symbol : String} (known : symbol ∈ [")", "]"])
    (formulas : List (Formula capabilities)) :
    ItemsRead strict symbol (furtherSigns formulas) (denoteAll formulas) := by
  cases formulas with
  | nil => exact itemsRead_nil
  | cons formula rest =>
      have differ : symbol ≠ "," := by
        rintro rfl
        exact absurd known (by decide)
      exact ((further_read strict known rest).item (formula.reads strict) formula.level_pos
        (further_furtherSigns rest) known).comma differ

theorem entries_read (strict : Bool) (entries : List (String × Formula capabilities)) :
    EntriesRead strict (entrySigns entries) (denoteEntries entries) := by
  match entries with
  | [] => exact entriesRead_nil
  | (key, formula) :: rest =>
      exact (furtherEntries_read strict rest).entry (formula.reads strict) formula.level_pos key
        (further_furtherEntries rest)

theorem furtherEntries_read (strict : Bool) (entries : List (String × Formula capabilities)) :
    EntriesRead strict (furtherEntries entries) (denoteEntries entries) := by
  match entries with
  | [] => exact entriesRead_nil
  | (key, formula) :: rest =>
      exact ((furtherEntries_read strict rest).entry (formula.reads strict) formula.level_pos key
        (further_furtherEntries rest)).comma

end

/-- Every formula has a printed form, and from any of them the formula is read back: without places
it is what the formula denotes, there is no recovery, and reading stops right behind its last token
if nothing there goes on with it. -/
theorem formula_printed_back (strict : Bool) (formula : Formula capabilities) (first : Nat) :
    (∃ tokens last, Written first formula.signs tokens last) ∧
      ∀ tokens last rest, Written first formula.signs tokens last → Ends 0 ⟨rest, last⟩ →
        ∃ value : Expr, value.unplaced = formula.denote ∧
          expression ⟨strict, capabilities⟩ ⟨tokens ++ rest, first⟩ =
            .done value ⟨rest, last⟩ [] := by
  constructor
  · exact ⟨_, written_packed first formula.signs⟩
  · intro tokens last rest written ends
    exact (formula.reads strict).whole.result formula.level_pos written ends (Nat.zero_le _)
      Nat.zero_lt_one

theorem nothing_inner : ∀ c ∈ ([] : List Char), Piece.isWordChar c = true :=
  List.forall_mem_nil _

def oneLetter (c : Char) (start : Piece.isWordStart c = true)
    (free : Keyword.isWordSpelling (Unicode.lower (String.ofList [c])) = false ∧
      numberWord? (String.ofList [c]) = none ∧
        Capabilities.standard.allowsImplicitCall (String.ofList [c]) = false) : Name .standard :=
  ⟨c, [], start, nothing_inner, free.1, free.2.1, free.2.2⟩

/-- A formula with a pair of parentheses for each reason to have one. -/
def mixed : Formula .standard :=
  let x := oneLetter 'x' (by decide) (by decide +kernel)
  let y := oneLetter 'y' (by decide) (by decide +kernel)
  let one : Formula .standard := .number (.digit '1' (by decide))
  let net : Callee := ⟨'n', ['e', 't'], by decide,
    List.forall_mem_cons.mpr ⟨by decide, List.forall_mem_singleton.mpr (by decide)⟩,
    by decide +kernel⟩
  .binary .or
    (.binary .eq
      (.binary .sub
        (.binary .mul (.unary .not (.index (.binary .add (.name x) (.name y)) one))
          (.unary .negate (.index (.index (.name x) one) (.name y))))
        (.binary .sub (.name y)
          (.map [("k", .call net [.list [one, .boolean true], .nothing])])))
      (.text "s"))
    (.unary .not (.binary .and (.name x) (.name y)))

def mixedText : String :=
  "not (x + y)[1] * -x[1][y] - (y - (\x7b\"k\": call net([1, true], void)\x7d)) == \"s\" " ++
    "or not (x and y)"

theorem mixed_printed_back :
    let tokens := Token.scan mixedText
    Written 0 mixed.signs (tokens.take 49) mixedText.length ∧
      Ends 0 ⟨tokens.drop 49, mixedText.length⟩ ∧
        ∃ value : Expr, value.unplaced = mixed.denote ∧
          expression ⟨false, .standard⟩ ⟨tokens.take 49 ++ tokens.drop 49, 0⟩ =
            .done value ⟨tokens.drop 49, mixedText.length⟩ [] := by
  have written : Written 0 mixed.signs ((Token.scan mixedText).take 49) mixedText.length := by
    decide +kernel
  have ends : Ends 0 ⟨(Token.scan mixedText).drop 49, mixedText.length⟩ :=
    ends_of_finish (by decide +kernel) 0
  exact ⟨written, ends, (formula_printed_back false mixed 0).2 _ _ _ written ends⟩

end Parlance.Printing
