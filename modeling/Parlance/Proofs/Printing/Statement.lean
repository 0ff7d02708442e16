import Parlance.Proofs.Printing.Conditional

/-!
Sentences read back, one kind after the other.
-/

namespace Parlance.Printing

open Grammar Rule

variable {capabilities : Capabilities} {strict : Bool}

/-- Up to whatever ends a statement, the sentence is read as what it denotes. -/
def SentenceReads (mode : Mode) (sentence : Sentence capabilities) : Prop :=
  ∀ inner tokens after rest lastStop, after.EndsStatement →
    Serves inner mode (tokens ++ after :: rest).length → Spelt sentence.items tokens →
    Reads (statement inner mode ⟨tokens ++ after :: rest, lastStop⟩) (after :: rest)
      (fun read => ∃ stmt, read = some stmt ∧ stmt.unplaced = sentence.denote)
      (fun read => ∃ stmt, read = some stmt ∧ stmt.unplaced ≠ sentence.denote) sentence.shielded

/-- A sentence cut at its word for "else" is not read as the whole. -/
def SentenceCut (mode : Mode) (sentence : Sentence capabilities) : Prop :=
  sentence.hasElse = true → ∀ inner tokens after rest lastStop read last, after.EndsStatement →
    Serves inner mode (tokens ++ after :: rest).length → Spelt sentence.front tokens →
      statement inner mode ⟨tokens ++ after :: rest, lastStop⟩ = .done read last [] →
        ∃ stmt, read = some stmt ∧ stmt.unplaced ≠ sentence.denote

theorem reads_of_done {sentence : Sentence capabilities} {reading : Reading (Option Stmt)}
    {rest : List Token} (sound : sentence.shielded = true)
    (read : ∃ stmt stop, reading = .done (some stmt) ⟨rest, stop⟩ [] ∧
      stmt.unplaced = sentence.denote) :
    Reads reading rest (fun read => ∃ stmt, read = some stmt ∧ stmt.unplaced = sentence.denote)
      (fun read => ∃ stmt, read = some stmt ∧ stmt.unplaced ≠ sentence.denote)
      sentence.shielded := by
  obtain ⟨stmt, stop, result, means⟩ := read
  rw [sound, result]
  exact .done ⟨stmt, rfl, means⟩

theorem isName_name {name : Name capabilities} {token : Token}
    (spells : (Item.name name).Spells token) : token.isName = true := by
  simp [Token.isName, spells.kind, Item.kind]

/-! ### Sentences without a body -/

theorem declare_reads (name : Name capabilities) (value : Term capabilities) :
    SentenceReads ⟨strict, capabilities⟩ (.declare name value) := by
  intro inner tokens after rest lastStop ends _ spelt
  obtain ⟨head, _, rfl, heads, spelt⟩ := spelt_cons spelt
  obtain ⟨named, _, rfl, names, spelt⟩ := spelt_cons spelt
  obtain ⟨sign, valueTokens, rfl, signs, spelt⟩ := spelt_cons spelt
  obtain ⟨read, stop, result, means⟩ :=
    value.expression_reads strict spelt ends.calm rest sign.stop
  have leads : lead head = .declaration := by
    simp [lead, heads.keyword?_eq, Item.keyword?, Fixed.keyword?]
  have plain : named.keyword? = none := names.keyword?_eq
  have assigns : sign.keyword? = some .assignOp := signs.keyword?_eq
  have lexeme : named.lexeme = name.text := names.lexeme
  refine reads_of_done rfl ⟨.declare name.text (some read) head.place, stop, ?_, ?_⟩
  · simp [statement, here, leads, declaration, next, Cursor.advance_cons heads.open', Cursor.isAt,
      plain, declaration.declared, nameFor, isName_name names, Cursor.advance_cons names.open',
      accept, assigns, Cursor.advance_cons signs.open', result, lexeme]
  · simp [Stmt.unplaced, Sentence.denote, means]

theorem assign_reads (name : Name capabilities) (value : Term capabilities) :
    SentenceReads ⟨strict, capabilities⟩ (.assign name value) := by
  intro inner tokens after rest lastStop ends _ spelt
  obtain ⟨head, _, rfl, heads, spelt⟩ := spelt_cons spelt
  obtain ⟨named, _, rfl, names, spelt⟩ := spelt_cons spelt
  obtain ⟨sign, valueTokens, rfl, signs, spelt⟩ := spelt_cons spelt
  obtain ⟨read, stop, result, means⟩ :=
    value.expression_reads strict spelt ends.calm rest sign.stop
  have leads : lead head = .assignment := by
    simp [lead, heads.keyword?_eq, Item.keyword?, Fixed.keyword?]
  have nameFirst : putsValueFirst head = false := by
    simp only [putsValueFirst, heads.lexeme, Item.lexeme, Fixed.spelling]
    decide +kernel
  have assigns : sign.keyword? = some .assignOp := signs.keyword?_eq
  have lexeme : named.lexeme = name.text := names.lexeme
  refine reads_of_done rfl ⟨.assign name.text read head.place, stop, ?_, ?_⟩
  · simp [statement, here, leads, assignment, next, Cursor.advance_cons heads.open', nameFirst,
      nameFor, isName_name names, Cursor.advance_cons names.open', accept, Cursor.isAt, assigns,
      Cursor.advance_cons signs.open', result, lexeme]
  · simp [Stmt.unplaced, Sentence.denote, means]

theorem giveBack_reads (value : Term capabilities) :
    SentenceReads ⟨strict, capabilities⟩ (.giveBack value) := by
  intro inner tokens after rest lastStop ends _ spelt
  obtain ⟨head, valueTokens, rfl, heads, line, spelt⟩ := spelt
  obtain ⟨read, stop, result, means⟩ :=
    value.expression_reads strict spelt ends.calm rest head.stop
  obtain ⟨first, others, rfl, starts⟩ := value.starts spelt
  have leads : lead head = .giveBack := by
    simp [lead, heads.keyword?_eq, Item.keyword?, Fixed.keyword?]
  have onLine : first.line = head.line := line rfl first rfl
  rw [List.cons_append] at result
  refine reads_of_done rfl ⟨.giveBack (some read) head.place, stop, ?_, ?_⟩
  · simp [statement, here, leads, giveBack, next, Cursor.advance_cons heads.open', starts,
      Cursor.isOnLine, onLine, result]
  · simp [Stmt.unplaced, Sentence.denote, means]

theorem expression_reads (value : Term capabilities) :
    SentenceReads ⟨strict, capabilities⟩ (.expression value) := by
  intro inner tokens after rest lastStop ends _ spelt
  obtain ⟨paren, _, rfl, opens, spelt⟩ := spelt_cons spelt
  obtain ⟨valueTokens, _, rfl, valueSpelt, spelt⟩ := spelt_append spelt
  obtain ⟨closer, _, rfl, closes, rfl⟩ := spelt_cons spelt
  obtain ⟨read, stop, result, means⟩ := value.expression_reads strict valueSpelt
    (calm_closeParen closes) (after :: rest) paren.stop
  have plain : paren.keyword? = none := opens.keyword?_eq
  have leads : lead paren = .plain := by simp [lead, plain]
  have kind : paren.kind = .symbol := opens.kind
  have lexeme : paren.lexeme = "(" := opens.lexeme
  have whole : expression ⟨strict, capabilities⟩
      ⟨paren :: (valueTokens ++ closer :: after :: rest), lastStop⟩ =
        .done read ⟨after :: rest, closer.stop⟩ [] := by
    have inside : expressionWithin
        ⟨paren :: (valueTokens ++ closer :: after :: rest), lastStop⟩ 1 ⟨strict, capabilities⟩
        ⟨valueTokens ++ closer :: after :: rest, paren.stop⟩ = _ :=
      (expressionWithin_shorter (by simp) 1 _).trans result
    have closed : closer.isSymbol ")" = true := closes.isSymbol_eq ")"
    exact expressionOf_of_unary (unary_group opens.open' (opening_openParen opens)
      (by simp [plain]) inside closed ends.calm.unindexed lastStop) ends.calm
  refine reads_of_done rfl ⟨.expression read, closer.stop, ?_, ?_⟩
  · simp [statement, here, leads, plainStatement, Token.isSymbol, kind, lexeme,
      Token.startsExpression, whole]
  · simp [Stmt.unplaced, Sentence.denote, means]

theorem closingParen?_term (term : Term capabilities) {tokens : List Token}
    (spelt : Spelt term.items tokens) (depth : Nat) (rest : List Token) :
    closingParen? (depth + 1) (tokens ++ rest) = closingParen? (depth + 1) rest := by
  -- only parentheses change the count, and an item that is a leaf is none
  have passes : ∀ {item : Item capabilities} {token : Token}, item.Spells token →
      (item.kind = .symbol → item.lexeme ≠ "(" ∧ item.lexeme ≠ ")") → ∀ depth rest,
        closingParen? depth (token :: rest) = closingParen? depth rest := by
    intro item token spells other depth rest
    have left : token.isSymbol "(" = false := by
      rw [spells.isSymbol_eq]
      by_cases kind : item.kind = .symbol
      · simp [kind, (other kind).1]
      · simp [kind]
    have right : token.isSymbol ")" = false := by
      rw [spells.isSymbol_eq]
      by_cases kind : item.kind = .symbol
      · simp [kind, (other kind).2]
      · simp [kind]
    simp [closingParen?, left, right]
  induction term generalizing tokens rest depth with
  | number | text | nothing | name =>
      obtain ⟨token, _, rfl, spells, rfl⟩ := spelt_cons spelt
      exact passes spells (by simp [Item.kind, Fixed.kind, Fixed.isWord]) _ _
  | boolean value =>
      obtain ⟨token, _, rfl, spells, rfl⟩ := spelt_cons spelt
      refine passes spells ?_ _ _
      cases value <;> simp [Item.kind, Fixed.kind, Fixed.isWord]
  | binary op left right ih ih' =>
      obtain ⟨paren, leftTokens, sign, rightTokens, closer, rfl, opens, leftSpelt, signs,
        rightSpelt, closes⟩ := Term.spelt_binary spelt
      have left : paren.isSymbol "(" = true := opens.isSymbol_eq "("
      have notLeft : closer.isSymbol "(" = false := closes.isSymbol_eq "("
      have right : closer.isSymbol ")" = true := closes.isSymbol_eq ")"
      have other : (Item.fixed (.binary op) : Item capabilities).kind = .symbol →
          (Item.fixed (.binary op) : Item capabilities).lexeme ≠ "(" ∧
            (Item.fixed (.binary op) : Item capabilities).lexeme ≠ ")" := by
        cases op <;> simp [Item.lexeme, Fixed.spelling]
      simp only [List.cons_append, List.append_assoc, List.nil_append, closingParen?, left,
        ↓reduceIte]
      rw [ih leftSpelt, passes signs other, ih' rightSpelt]
      simp [closingParen?, notLeft, right]

theorem items_term (term : Term capabilities) {tokens rest : List Token} {after : Token}
    (spelt : Spelt term.items tokens) (calm : after.Calm) {more : List Expr} {last : Cursor}
    (goesOn : ∀ stop, items expression ")" .arguments .arguments ⟨strict, capabilities⟩
      ⟨after :: rest, stop⟩ = .done more last []) (lastStop : Nat) :
    ∃ value, items expression ")" .arguments .arguments ⟨strict, capabilities⟩
      ⟨tokens ++ after :: rest, lastStop⟩ = .done (value :: more) last [] ∧
        value.unplaced = term.denote := by
  obtain ⟨value, stop, result, means⟩ := term.expression_reads strict spelt calm rest lastStop
  obtain ⟨first, others, rfl, starts⟩ := term.starts spelt
  have noClose : first.isSymbol ")" = false := Token.not_isSymbol_of_starts starts rfl
  have noComma : first.isSymbol "," = false := Token.not_isSymbol_of_starts starts rfl
  have shorter : (after :: rest).length < (first :: others ++ after :: rest).length := by
    simp only [List.length_append, List.length_cons]
    omega
  exact ⟨value, items_item noClose noComma starts result shorter (goesOn stop), means⟩

theorem items_closed {closer : Token}
    (closes : (Item.fixed .closeParen : Item capabilities).Spells closer) (mode : Mode)
    (rest : List Token) (lastStop : Nat) :
    items expression ")" .arguments .arguments mode ⟨closer :: rest, lastStop⟩ =
      .done [] ⟨rest, closer.stop⟩ [] := by
  have right : Cursor.isAtSymbol ⟨closer :: rest, lastStop⟩ ")" = true := by
    simp only [Cursor.isAtSymbol, Cursor.current_cons, closes.isSymbol_eq]
    rfl
  rw [items_close right, Cursor.advance_cons closes.open']

theorem say_reads (value : Term capabilities) :
    SentenceReads ⟨strict, capabilities⟩ (.say value) := by
  intro inner tokens after rest lastStop ends _ spelt
  obtain ⟨head, _, rfl, heads, spelt⟩ := spelt_cons spelt
  obtain ⟨paren, _, rfl, opens, spelt⟩ := spelt_cons spelt
  obtain ⟨valueTokens, _, rfl, valueSpelt, spelt⟩ := spelt_append spelt
  obtain ⟨closer, _, rfl, closes, rfl⟩ := spelt_cons spelt
  obtain ⟨read, arguments, means⟩ := items_term value valueSpelt (calm_closeParen closes)
    (items_closed closes ⟨strict, capabilities⟩ (after :: rest)) paren.stop
  have leads : lead head = .output := by
    simp [lead, heads.keyword?_eq, Item.keyword?, Fixed.keyword?]
  have left : paren.isSymbol "(" = true := opens.isSymbol_eq "("
  have notLeft : closer.isSymbol "(" = false := closes.isSymbol_eq "("
  have right : closer.isSymbol ")" = true := closes.isSymbol_eq ")"
  have parens : Cursor.atOutputParens
      ⟨paren :: (valueTokens ++ closer :: after :: rest), head.stop⟩ = true := by
    simp [Cursor.atOutputParens, Cursor.isAtSymbol, left, closingParen?,
      closingParen?_term value valueSpelt, notLeft, right, ends.isBoundary]
  refine reads_of_done rfl ⟨.output (some (read, none)) head.place, closer.stop, ?_, ?_⟩
  · simp [statement, here, leads, output, next, Cursor.advance_cons heads.open', parens,
      parenArguments, Cursor.advance_cons opens.open', arguments, outputOf]
  · simp [Stmt.unplaced, Sentence.denote, means]

/-! ### Sentences with a body -/

theorem statement_block {opener : Token} (opens : opener.keyword? = some .blockOpen)
    (inner : Rule (List Stmt)) (mode : Mode) (rest : List Token) (lastStop : Nat) :
    statement inner mode ⟨opener :: rest, lastStop⟩ =
      (block inner false mode ⟨opener :: rest, lastStop⟩).andThen fun read next =>
        .done (some (.block read.body read.place)) next [] := by
  have leads : lead opener = .block := by simp [lead, opens]
  simp [statement, here, leads]

theorem block_sentence_reads {body : Body capabilities} {mode : Mode}
    (reads : BodyReads mode body) :
    SentenceReads mode (.block body) := by
  intro inner tokens after rest lastStop ends serves spelt
  have whole := block_reads reads serves (Or.inl rfl) spelt lastStop
  obtain ⟨opener, inside, closer, rfl, opens, _, _⟩ := spelt_braced spelt
  rw [List.cons_append, statement_block opens.keyword?_eq]
  apply whole.map
  · rintro read ⟨holds, _⟩
    exact ⟨_, rfl, by simp [Stmt.unplaced, Sentence.denote, holds]⟩
  · intro read wrong
    exact ⟨_, rfl, by simpa [Stmt.unplaced, Sentence.denote] using wrong⟩

theorem isAt_opener {opener : Token} (opens : opener.keyword? = some .blockOpen)
    (rest : List Token) (lastStop : Nat) (keyword : Keyword) :
    Cursor.isAt ⟨opener :: rest, lastStop⟩ keyword = decide (.blockOpen = keyword) := by
  simp [Cursor.isAt, opens]

theorem blockAfter_opener {opener : Token} (opens : opener.keyword? = some .blockOpen)
    (inner : Rule (List Stmt)) (mode : Mode) (head : Token) (what : Head) (rest : List Token)
    (lastStop : Nat) :
    blockAfter inner head what mode ⟨opener :: rest, lastStop⟩ =
      block inner false mode ⟨opener :: rest, lastStop⟩ := by
  simp [blockAfter, here, isAt_opener opens]

/-- A count in front of a block is taken for no other form of a loop. -/
theorem Term.noLoopWord (term : Term capabilities) {tokens : List Token}
    (spelt : Spelt term.items tokens) {opener : Token}
    (opens : opener.keyword? = some .blockOpen) (rest : List Token) (lastStop : Nat) :
    Cursor.isAt ⟨tokens ++ opener :: rest, lastStop⟩ .whileLoop = false ∧
      Cursor.isAt ⟨tokens ++ opener :: rest, lastStop⟩ .each = false ∧
        ((Cursor.current ⟨tokens ++ opener :: rest, lastStop⟩).isName &&
          decide ((Cursor.ahead ⟨tokens ++ opener :: rest, lastStop⟩ 1).keyword? =
            some .within)) = false := by
  cases term with
  | number | text | nothing | name =>
      obtain ⟨token, _, rfl, spells, rfl⟩ := spelt_cons spelt
      simp [Cursor.isAt, spells.keyword?_eq, Item.keyword?, Fixed.keyword?, Cursor.ahead, opens]
  | boolean value =>
      obtain ⟨token, _, rfl, spells, rfl⟩ := spelt_cons spelt
      cases value <;>
        simp [Cursor.isAt, spells.keyword?_eq, Item.keyword?, Fixed.keyword?, Cursor.ahead, opens]
  | binary op left right =>
      obtain ⟨paren, others, rfl, parens, _⟩ := spelt_cons spelt
      have noName : paren.isName = false := by
        simp [Token.isName, parens.kind, Item.kind, Fixed.kind, Fixed.isWord]
      simp [Cursor.isAt, parens.keyword?_eq, Item.keyword?, Fixed.keyword?, noName]

theorem calm_comma {token : Token}
    (spells : (Item.fixed .comma : Item capabilities).Spells token) : token.Calm := by
  constructor
  · simp [spells.isSymbol_eq, Item.lexeme, Fixed.spelling]
  · rw [spells.keyword?_eq]
    rfl

theorem ident_of_unplaced {value : Expr} {name : String}
    (means : value.unplaced = .ident name .start) : ∃ place, value = .ident name place := by
  cases value with
  | ident other place =>
      simp only [Expr.unplaced, Expr.ident.injEq, and_true] at means
      exact ⟨place, by rw [means]⟩
  | _ => simp [Expr.unplaced] at means

/-- Names in parentheses are parameters. -/
theorem parameters_read (strict : Bool) (names : List (Name capabilities)) {tokens : List Token}
    (spelt : Spelt (listed names) tokens) {closer : Token}
    (closes : (Item.fixed .closeParen : Item capabilities).Spells closer) (rest : List Token)
    (lastStop : Nat) :
    ∃ exprs params, items expression ")" .arguments .arguments ⟨strict, capabilities⟩
      ⟨tokens ++ closer :: rest, lastStop⟩ = .done exprs ⟨rest, closer.stop⟩ [] ∧
        (∀ cursor, parameters exprs ⟨strict, capabilities⟩ cursor = .done params cursor []) ∧
          params.map Param.unplaced = names.map fun name => ⟨name.text, .start⟩ := by
  -- a comma stands between two names and not behind the last
  induction names generalizing tokens lastStop with
  | nil =>
      obtain rfl : tokens = [] := spelt
      exact ⟨[], [], items_closed closes _ rest lastStop, fun _ => rfl, rfl⟩
  | cons name names ih =>
      cases names with
      | nil =>
          obtain ⟨value, result, means⟩ := items_term (.name name) spelt (calm_closeParen closes)
            (items_closed closes ⟨strict, capabilities⟩ rest) lastStop
          obtain ⟨place, rfl⟩ := ident_of_unplaced means
          exact ⟨_, [⟨name.text, place⟩], result, fun _ => rfl, rfl⟩
      | cons other names =>
          obtain ⟨token, _, rfl, spells, spelt⟩ := spelt_cons spelt
          obtain ⟨comma, behind, rfl, commas, spelt⟩ := spelt_cons spelt
          obtain ⟨exprs, params, read, bound, means⟩ := ih spelt comma.stop
          have symbols : comma.isSymbol ")" = false ∧ comma.isSymbol "," = true := by
            rw [commas.isSymbol_eq, commas.isSymbol_eq]
            exact ⟨rfl, rfl⟩
          have goesOn : ∀ stop, items expression ")" .arguments .arguments ⟨strict, capabilities⟩
              ⟨comma :: (behind ++ closer :: rest), stop⟩ =
                .done exprs ⟨rest, closer.stop⟩ [] := by
            intro stop
            have passed := Cursor.advance_cons commas.open' (behind ++ closer :: rest) stop
            have skips : items expression ")" .arguments .arguments ⟨strict, capabilities⟩
                ⟨comma :: (behind ++ closer :: rest), stop⟩ = _ :=
              items_comma symbols.1 symbols.2 (by simp [passed])
            rw [skips, passed, read]
          obtain ⟨value, result, value_means⟩ := items_term (.name name)
            (⟨token, [], rfl, spells, nofun, rfl⟩ : Spelt [.name name] [token])
            (calm_comma commas) goesOn lastStop
          obtain ⟨place, rfl⟩ := ident_of_unplaced value_means
          refine ⟨_, ⟨name.text, place⟩ :: params, result, fun cursor => ?_, ?_⟩
          · simp [parameters, bound]
          · simp [Param.unplaced, ← means]

/-- Behind a header a block is read, and the statement is built of what that holds. -/
def HeaderReads (mode : Mode) (header : Header capabilities) : Prop :=
  ∀ inner tokens opener rest lastStop, opener.keyword? = some .blockOpen →
    Spelt header.items tokens → ∃ (build : Block → Stmt) (stop : Nat),
      statement inner mode ⟨tokens ++ opener :: rest, lastStop⟩ =
        (block inner false mode ⟨opener :: rest, stop⟩).andThen (fun read next =>
          .done (some (build read)) next []) ∧
      ∀ read, (build read).unplaced = header.denote (Stmt.unplacedAll read.body)

theorem loop_reads (rounds : Term capabilities) :
    HeaderReads ⟨strict, capabilities⟩ (.loop rounds) := by
  intro inner tokens opener rest lastStop opens spelt
  obtain ⟨head, countTokens, rfl, heads, countSpelt⟩ := spelt_cons spelt
  obtain ⟨count, stop, result, means⟩ :=
    rounds.expression_reads strict countSpelt (calm_opener opens) rest head.stop
  obtain ⟨noWhile, noEach, noItem⟩ := rounds.noLoopWord countSpelt opens rest head.stop
  have leads : lead head = .loop := by
    simp [lead, heads.keyword?_eq, Item.keyword?, Fixed.keyword?]
  refine ⟨fun read => .loop (.count count) read.body read.place head.place, stop, ?_, ?_⟩
  · simp only [List.cons_append, statement, bind_apply, here, Reading.done_andThen,
      Cursor.current_cons, leads, Rule.map_apply, loop, next, Cursor.advance_cons heads.open',
      noWhile, noEach, noItem, Bool.false_eq_true, ↓reduceIte, result]
    simp [accept, isAt_opener opens, blockAfter_opener opens, Reading.andThen_assoc]
  · intro read
    simp [Stmt.unplaced, LoopHead.unplaced, Header.denote, means]

theorem whileLoop_reads (guard : Term capabilities) :
    HeaderReads ⟨strict, capabilities⟩ (.whileLoop guard) := by
  intro inner tokens opener rest lastStop opens spelt
  obtain ⟨head, guardTokens, rfl, heads, guardSpelt⟩ := spelt_cons spelt
  obtain ⟨value, stop, result, means⟩ :=
    guard.expression_reads strict guardSpelt (calm_opener opens) rest head.stop
  have leads : lead head = .whileLoop := by
    simp [lead, heads.keyword?_eq, Item.keyword?, Fixed.keyword?]
  refine ⟨fun read => .loop (.guard value) read.body read.place head.place, stop, ?_, ?_⟩
  · simp [statement, here, leads, guardLoop, next, Cursor.advance_cons heads.open', result,
      blockAfter_opener opens, Reading.andThen_assoc]
  · intro read
    simp [Stmt.unplaced, LoopHead.unplaced, Header.denote, means]

theorem each_reads (item : Name capabilities) (list : Term capabilities) :
    HeaderReads ⟨strict, capabilities⟩ (.each item list) := by
  intro inner tokens opener rest lastStop opens spelt
  obtain ⟨head, _, rfl, heads, spelt⟩ := spelt_cons spelt
  obtain ⟨named, _, rfl, names, spelt⟩ := spelt_cons spelt
  obtain ⟨word, listTokens, rfl, words, listSpelt⟩ := spelt_cons spelt
  obtain ⟨value, stop, result, means⟩ :=
    list.expression_reads strict listSpelt (calm_opener opens) rest word.stop
  have leads : lead head = .each := by
    simp [lead, heads.keyword?_eq, Item.keyword?, Fixed.keyword?]
  have known : word.keyword? = some .within := words.keyword?_eq
  have lexeme : named.lexeme = item.text := names.lexeme
  refine ⟨fun read => .loop (.each (some item.text) value) read.body read.place head.place, stop,
    ?_, ?_⟩
  · simp [statement, here, leads, eachLoop, next, Cursor.advance_cons heads.open', eachTail,
      nameFor, isName_name names, Cursor.advance_cons names.open', accept, Cursor.isAt, known,
      Cursor.advance_cons words.open', eachTail.eachBody, result, blockAfter_opener opens,
      lexeme, Reading.andThen_assoc]
  · intro read
    simp [Stmt.unplaced, LoopHead.unplaced, Header.denote, means]

theorem function_reads (name : Name capabilities) (params : List (Name capabilities)) :
    HeaderReads ⟨strict, capabilities⟩ (.function name params) := by
  intro inner tokens opener rest lastStop opens spelt
  obtain ⟨head, _, rfl, heads, spelt⟩ := spelt_cons spelt
  obtain ⟨named, _, rfl, names, spelt⟩ := spelt_cons spelt
  obtain ⟨paren, _, rfl, parens, spelt⟩ := spelt_cons spelt
  obtain ⟨paramTokens, _, rfl, paramSpelt, spelt⟩ := spelt_append spelt
  obtain ⟨closer, _, rfl, closes, rfl⟩ := spelt_cons spelt
  obtain ⟨exprs, bound, result, params_eq, means⟩ := parameters_read strict params
    paramSpelt closes (opener :: rest) paren.stop
  have leads : lead head = .definition := by
    simp [lead, heads.keyword?_eq, Item.keyword?, Fixed.keyword?]
  have left : paren.isSymbol "(" = true := parens.isSymbol_eq "("
  have lexeme : named.lexeme = name.text := names.lexeme
  refine ⟨fun read => .define (some name.text) none bound read.body read.place head.place,
    closer.stop, ?_, ?_⟩
  · simp [statement, here, leads, definition, next, Cursor.advance_cons heads.open', nameFor,
      isName_name names, Cursor.advance_cons names.open', parameterList, Cursor.isAtSymbol, left,
      parenArguments, Cursor.advance_cons parens.open', result, params_eq, aliasName, accept,
      isAt_opener opens, blockAfter_opener opens, lexeme, Reading.andThen_assoc]
  · intro read
    simp [Stmt.unplaced, Header.denote, means]

theorem Header.reads (strict : Bool) (header : Header capabilities) :
    HeaderReads ⟨strict, capabilities⟩ header := by
  cases header with
  | loop rounds => exact loop_reads rounds
  | whileLoop guard => exact whileLoop_reads guard
  | each item list => exact each_reads item list
  | function name params => exact function_reads name params

/-- With its block in braces the sentence is right or wrong. -/
theorem headed_reads {sentence : Sentence capabilities} (header : Header capabilities)
    {body : Body capabilities} (reads : BodyReads ⟨strict, capabilities⟩ body)
    (items : sentence.items = header.items ++ braced body.items)
    (means : sentence.denote = header.denote body.denote)
    (sound : sentence.shielded = body.shielded) :
    SentenceReads ⟨strict, capabilities⟩ sentence := by
  intro inner tokens after rest lastStop _ serves spelt
  rw [items] at spelt
  obtain ⟨headTokens, bodyTokens, rfl, headSpelt, bodySpelt⟩ := spelt_append spelt
  have behind : Serves inner ⟨strict, capabilities⟩ (bodyTokens ++ after :: rest).length :=
    serves.mono (by simp)
  have block := block_reads reads behind (Or.inl rfl) bodySpelt
  obtain ⟨opener, inside, closer, rfl, opens, _, _⟩ := spelt_braced bodySpelt
  have opens' : opener.keyword? = some .blockOpen := opens.keyword?_eq
  obtain ⟨build, stop, split, builds⟩ := header.reads strict inner headTokens opener
    (inside ++ [closer] ++ after :: rest) lastStop opens' headSpelt
  rw [List.append_assoc, List.cons_append, split, sound]
  apply (block stop).map
  · rintro read ⟨holds, _⟩
    exact ⟨build read, rfl, by rw [builds, means, holds]⟩
  · intro read wrong
    refine ⟨build read, rfl, fun same => ?_⟩
    rw [builds, means, Header.denote_inj] at same
    exact wrong same

/-! ### Conditionals -/

theorem statement_conditional {inner : Rule (List Stmt)} {mode : Mode} {head : Token}
    (known : head.keyword? = some .conditional) {guard : Expr} {rest rest' : List Token}
    {stop : Nat} (read : expression mode ⟨rest, head.stop⟩ = .done guard ⟨rest', stop⟩ [])
    (lastStop : Nat) :
    statement inner mode ⟨head :: rest, lastStop⟩ =
      (conditionalTail inner (head, guard) mode ⟨rest', stop⟩).andThen fun read next =>
        .done (some read.stmt) next [] := by
  have leads : lead head = .conditional := by simp [lead, known]
  simp [statement, here, leads, conditional, next,
    Cursor.advance_cons (Token.ne_finish_of_keyword? known), read, Reading.andThen_assoc]

theorem conditional_reads {guard : Term capabilities} {body : Body capabilities}
    {otherwise : Otherwise capabilities} (reads : BodyReads ⟨strict, capabilities⟩ body)
    (cut : BodyCut ⟨strict, capabilities⟩ body)
    (branch : BranchReads ⟨strict, capabilities⟩ otherwise) :
    SentenceReads ⟨strict, capabilities⟩ (.conditional guard body otherwise) := by
  intro inner tokens after rest lastStop ends serves spelt
  obtain ⟨head, _, rfl, heads, spelt⟩ := spelt_cons spelt
  obtain ⟨guardTokens, _, rfl, guardSpelt, spelt⟩ := spelt_append spelt
  obtain ⟨bodyTokens, others, rfl, bodySpelt, othersSpelt⟩ := spelt_append spelt
  obtain ⟨value, stop, result, means⟩ :=
    guard.expression_before strict guardSpelt bodySpelt (others ++ after :: rest) head.stop
  simp only [List.cons_append, List.append_assoc] at serves ⊢
  rw [statement_conditional heads.keyword?_eq result]
  have whole := tail_reads reads cut (serves.mono (by simp; omega)) bodySpelt
    (fun self stop selves => branch inner self others after rest stop ends
      (serves.mono (by simp; omega)) selves othersSpelt) head value stop
  apply whole.map
  · rintro read ⟨rfl, bodyMeans, branchMeans⟩
    exact ⟨_, rfl, by
      simp [Conditional.stmt, Stmt.unplaced, Sentence.denote, means, bodyMeans, branchMeans]⟩
  · intro read wrong
    refine ⟨_, rfl, fun same => ?_⟩
    simp only [Conditional.stmt, Stmt.unplaced, Sentence.denote, Stmt.conditional.injEq] at same
    rcases wrong with wrong | wrong
    · exact wrong same.2.1
    · exact wrong same.2.2.2.1

/-- Of a conditional that was cut at its word for "else" nothing is left behind the body. -/
theorem conditional_cut {guard : Term capabilities} {body : Body capabilities}
    {otherwise : Otherwise capabilities} (reads : BodyReads ⟨strict, capabilities⟩ body)
    (cut : BodyCut ⟨strict, capabilities⟩ body) :
    SentenceCut ⟨strict, capabilities⟩ (.conditional guard body otherwise) := by
  intro hasElse inner tokens after rest lastStop read last ends serves spelt clean
  obtain ⟨head, _, rfl, heads, spelt⟩ := spelt_cons spelt
  obtain ⟨guardTokens, bodyTokens, rfl, guardSpelt, bodySpelt⟩ := spelt_append spelt
  obtain ⟨value, stop, result, _⟩ :=
    guard.expression_before strict guardSpelt bodySpelt (after :: rest) head.stop
  simp only [List.cons_append, List.append_assoc] at serves clean
  rw [statement_conditional heads.keyword?_eq result] at clean
  -- nothing that ends a statement begins a branch
  have own : ∀ self stop, (∀ goal cursor, cursor.rest.length < (after :: rest).length →
      self goal ⟨strict, capabilities⟩ cursor =
        conditionalTail inner goal ⟨strict, capabilities⟩ cursor) →
      Reads (conditionalTail.ownBranch inner self ⟨strict, capabilities⟩ ⟨after :: rest, stop⟩)
        (after :: rest) (fun branch => branch = .absent) (fun _ => False) true := by
    intro self stop _
    rw [ownBranch_absent ends]
    exact .done rfl
  have whole := tail_reads reads cut (serves.mono (by simp; omega)) bodySpelt own head value stop
  obtain ⟨tail, next, tailRead, clean⟩ := Reading.andThen_clean clean
  obtain ⟨rfl, _⟩ := Reading.done.inj clean
  refine ⟨_, rfl, fun same => ?_⟩
  simp only [Conditional.stmt, Stmt.unplaced, Sentence.denote, Stmt.conditional.injEq] at same
  by_cases sound : (!body.hasElse && body.shielded && true) = true
  · -- the body is whole, so the branch is the one that was cut off
    obtain ⟨tail', stop', tailRead', _, _, absent⟩ := whole.exact sound
    obtain ⟨rfl, _⟩ := Reading.done.inj (tailRead'.symm.trans tailRead)
    have denotes := same.2.2.2.1
    rw [absent] at denotes
    cases otherwise with
    | absent => cases hasElse
    | block | conditional => cases denotes
  · have unsound := Bool.not_eq_true _ ▸ sound
    rcases whole.off unsound tail next tailRead with wrong | wrong
    · exact wrong same.2.1
    · exact wrong

end Parlance.Printing
