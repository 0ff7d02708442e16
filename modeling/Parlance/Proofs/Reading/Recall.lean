import Parlance.Proofs.Reading.Mention

/-!
Bindings that are mentioned right behind. The tokens bind a name to a literal in one of four ways
and mention it where the binding is in force; they are read without a note, as a binding of the name
and a mention of it.
-/

namespace Parlance

open Grammar

/-- The parameters of a function: bare, or in parentheses, where no parameter is a word for a
number. -/
inductive Parameters (params : List Token) : List Token → Prop
  | bare (names : ∀ param ∈ params, param.isName = true) : Parameters params params
  | enclosed {opener closer : Token} {tokens : List Token} (opens : opener.isSymbol "(" = true)
      (commas : Commas params tokens) (closes : closer.isSymbol ")" = true)
      (names : ∀ param ∈ params, param.isName = true ∧ numberWord? param.lexeme = none) :
      Parameters params (opener :: (tokens ++ [closer]))

def Constants (literals : List Literal) (tokens : List Token) : Prop :=
  ∃ items, Commas items tokens ∧ items.map Token.constant? = literals.map some ∧
    ∀ item ∈ items, item.startsExpression = true

/-- Tokens that bind a name and mention it behind, and the literals that it is bound to whenever it
is mentioned. -/
inductive Recalls (name : Token) : List Literal → List Token → Stmt → Prop
  | declaration {word assign value separator : Token} {literal : Literal} {tokens : List Token}
      {stmt : Stmt} (heads : word.keyword? = some .declare)
      (assigns : assign.keyword? = some .assignOp) (constant : value.constant? = some literal)
      (separates : separator.isSymbol ";" = true) (saying : Saying name.lexeme tokens stmt) :
      Recalls name [literal] (word :: name :: assign :: value :: separator :: tokens) stmt
  | assignment {word assign value separator : Token} {literal : Literal} {tokens : List Token}
      {stmt : Stmt} (heads : word.keyword? = some .assign)
      (nameFirst : putsValueFirst word = false) (assigns : assign.keyword? = some .assignOp)
      (constant : value.constant? = some literal) (separates : separator.isSymbol ";" = true)
      (saying : Saying name.lexeme tokens stmt) :
      Recalls name [literal] (word :: name :: assign :: value :: separator :: tokens) stmt
  | parameter {word function opener closer separator call callee left right : Token}
      {front back paramTokens argumentTokens tokens : List Token} {literals : List Literal}
      {stmt : Stmt} (heads : word.keyword? = some .function) (named : function.isName = true)
      (parameters : Parameters (front ++ name :: back) paramTokens)
      (once : name.lexeme ∉ back.map (·.lexeme)) (opens : opener.keyword? = some .blockOpen)
      (saying : Saying name.lexeme tokens stmt) (closes : closer.keyword? = some .blockClose)
      (separates : separator.isSymbol ";" = true) (announces : call.kind = .keyword)
      (calls : call.keyword? = some .call) (again : callee.isName = true)
      (same : callee.lexeme = function.lexeme) (encloses : left.isSymbol "(" = true)
      (constants : Constants literals argumentTokens) (ends : right.isSymbol ")" = true) :
      Recalls name [literals[front.length]?.getD .void]
        (word :: function :: (paramTokens ++ opener :: (tokens ++ closer :: separator :: call ::
          callee :: left :: (argumentTokens ++ [right])))) stmt
  | item {word within left right opener closer : Token} {itemTokens tokens : List Token}
      {literals : List Literal} {stmt : Stmt} (heads : word.keyword? = some .each)
      (among : within.keyword? = some .within) (encloses : left.isSymbol "[" = true)
      (constants : Constants literals itemTokens) (ends : right.isSymbol "]" = true)
      (opens : opener.keyword? = some .blockOpen) (saying : Saying name.lexeme tokens stmt)
      (closes : closer.keyword? = some .blockClose) :
      Recalls name literals (word :: name :: within :: left :: (itemTokens ++ right :: opener ::
        (tokens ++ [closer]))) stmt

def Expr.Are (literals : List Literal) (exprs : List Expr) : Prop :=
  List.Forall₂ (fun literal expr => ∃ place, expr = .literal literal place) literals exprs

inductive Recital (name : String) (stmt : Stmt) : List Literal → Program → Prop
  | declaration (literal : Literal) (place place' : Place) :
      Recital name stmt [literal] [.declare name (some (.literal literal place)) place', stmt]
  | assignment (literal : Literal) (place place' : Place) :
      Recital name stmt [literal] [.assign name (.literal literal place) place', stmt]
  | parameter {function : String} {params : List Param} {front back : List String}
      {literals : List Literal} {arguments : List Expr} (bodyPlace place callPlace : Place)
      (names : params.map (·.name) = front ++ name :: back) (once : name ∉ back)
      (are : Expr.Are literals arguments) :
      Recital name stmt [literals[front.length]?.getD .void]
        [.define (some function) none params [stmt] bodyPlace place,
          .expression (.call function none arguments callPlace)]
  | item {literals : List Literal} {items : List Expr} (listPlace bodyPlace place : Place)
      (are : Expr.Are literals items) :
      Recital name stmt literals
        [.loop (.each (some name) (.list items listPlace)) [stmt] bodyPlace place]

theorem Constants.are (mode : Mode) {literals : List Literal} {tokens : List Token}
    (constants : Constants literals tokens) :
    ∃ items, Commas items tokens ∧ (∀ item ∈ items, item.startsExpression = true) ∧
      (∀ bound, TakesEach expression mode bound literalAt items) ∧
        Expr.Are literals (items.map literalAt) := by
  obtain ⟨items, commas, same, starts⟩ := constants
  have constant : ∀ item ∈ items, item.constant?.isSome = true := by
    intro item member
    have found : item.constant? ∈ literals.map some := same ▸ List.mem_map_of_mem member
    obtain ⟨literal, _, known⟩ := List.mem_map.mp found
    rw [← known, Option.isSome_some]
  refine ⟨items, commas, starts, fun bound => takesEach_constants bound constant, ?_⟩
  clear commas starts constant
  induction items generalizing literals with
  | nil =>
      obtain rfl : literals = [] := by simpa using same
      exact .nil
  | cons item items ih =>
      cases literals with
      | nil => simp at same
      | cons literal literals =>
          obtain ⟨first, later⟩ := List.cons.inj same
          exact .cons ⟨item.place, by rw [literalAt, first, Option.getD_some]⟩ (ih later)

namespace Grammar

open Rule

variable {mode : Mode}

theorem isName_of_keyword? {token : Token} {keyword : Keyword}
    (known : token.keyword? = some keyword) (other : keyword ≠ .typeWord) :
    token.isName = false := by
  refine Bool.eq_false_iff.mpr fun named => ?_
  simp only [Token.isName, Bool.or_eq_true, Bool.and_eq_true, decide_eq_true_eq] at named
  rcases named with kind | ⟨_, type⟩
  · simp [Token.keyword?, kind] at known
  · exact other (Option.some.inj (known.symm.trans type))

section

variable {inner : Rule (List Stmt)} {word name assign value separator : Token} {literal : Literal}
  (named : name.isName = true) (assigns : assign.keyword? = some .assignOp)
  (constant : value.constant? = some literal) (separates : separator.isSymbol ";" = true)

include named assigns constant separates

theorem declaration_reads (heads : word.keyword? = some .declare) (rest : List Token)
    (lastStop : Nat) :
    statement inner mode ⟨word :: name :: assign :: value :: separator :: rest, lastStop⟩ =
      .done (some (.declare name.lexeme (some (.literal literal value.place)) word.place))
        ⟨separator :: rest, value.stop⟩ [] := by
  have leads : lead word = .declaration := by simp [lead, heads]
  have ends : separator.EndsStatement := Or.inr separates
  have initial : expression mode ⟨value :: separator :: rest, assign.stop⟩ = _ :=
    expression_constant constant ends.halts assign.stop
  have untyped :
      (Cursor.ahead ⟨assign :: value :: separator :: rest, word.stop⟩ 0).isName = false :=
    isName_of_keyword? assigns (by decide)
  simp [statement, here, leads, declaration, next,
    Cursor.advance_cons (Token.ne_finish_of_keyword? heads), untyped, declaration.declared, nameFor,
    named, Cursor.advance_cons (Token.ne_finish_of_isName named), accept, Cursor.isAt, assigns,
    Cursor.advance_cons (Token.ne_finish_of_keyword? assigns), initial]

theorem assignment_reads (heads : word.keyword? = some .assign)
    (nameFirst : putsValueFirst word = false) (rest : List Token) (lastStop : Nat) :
    statement inner mode ⟨word :: name :: assign :: value :: separator :: rest, lastStop⟩ =
      .done (some (.assign name.lexeme (.literal literal value.place) word.place))
        ⟨separator :: rest, value.stop⟩ [] := by
  have leads : lead word = .assignment := by simp [lead, heads]
  have ends : separator.EndsStatement := Or.inr separates
  have given : expression mode ⟨value :: separator :: rest, assign.stop⟩ = _ :=
    expression_constant constant ends.halts assign.stop
  simp [statement, here, leads, assignment, next, nameFirst,
    Cursor.advance_cons (Token.ne_finish_of_keyword? heads), nameFor,
    named, Cursor.advance_cons (Token.ne_finish_of_isName named), accept, Cursor.isAt, assigns,
    Cursor.advance_cons (Token.ne_finish_of_keyword? assigns), given]

end

/-! ### Functions -/

section

variable {params tokens rest : List Token} {opener : Token}

/-- Up to an opener every token is a bare parameter. -/
theorem bareParameters_names (names : ∀ param ∈ params, param.isName = true)
    (opens : opener.keyword? = some .blockOpen) (lastStop : Nat) :
    ∃ stop, bareParameters mode ⟨params ++ opener :: rest, lastStop⟩ =
      .done (params.map fun param => ⟨param.lexeme, param.place⟩) ⟨opener :: rest, stop⟩ [] := by
  induction params generalizing lastStop with
  | nil =>
      have other : opener.isName = false := isName_of_keyword? opens (by decide)
      refine ⟨lastStop, ?_⟩
      rw [bareParameters, tie_apply]
      simp [bareParameters.round, here, other]
  | cons param params ih =>
      obtain ⟨named, later⟩ := List.forall_mem_cons.mp names
      obtain ⟨stop, goesOn⟩ := ih later param.stop
      refine ⟨stop, ?_⟩
      rw [bareParameters] at goesOn
      rw [bareParameters, tie_apply]
      simp [bareParameters.round, here, named, next, granted,
        Cursor.advance_cons (Token.ne_finish_of_isName named), goesOn]

theorem parameters_mentions (names : ∀ param ∈ params, numberWord? param.lexeme = none)
    (cursor : Cursor) :
    parameters (params.map Token.mention) mode cursor =
      .done (params.map fun param => ⟨param.lexeme, param.place⟩) cursor [] := by
  induction params with
  | nil => rfl
  | cons param params ih =>
      obtain ⟨noNumber, later⟩ := List.forall_mem_cons.mp names
      simp [Token.mention, noNumber, parameters, ih later]

theorem parameterList_reads (parameters : Parameters params tokens)
    (opens : opener.keyword? = some .blockOpen) (lastStop : Nat) :
    ∃ stop, parameterList mode ⟨tokens ++ opener :: rest, lastStop⟩ =
      .done (params.map fun param => ⟨param.lexeme, param.place⟩) ⟨opener :: rest, stop⟩ [] := by
  obtain names | @⟨left, right, tokens, encloses, commas, ends, names⟩ := parameters
  · have bare : Cursor.isAtSymbol ⟨params ++ opener :: rest, lastStop⟩ "(" = false := by
      cases params with
      | nil =>
          refine Bool.eq_false_iff.mpr fun found => ?_
          have paren : opener.isSymbol "(" = true := found
          simp [Token.keyword?_of_paren paren] at opens
      | cons param params =>
          exact Token.not_isSymbol_of_isName (names param List.mem_cons_self) "("
    obtain ⟨stop, read⟩ : ∃ stop, bareParameters mode ⟨params ++ opener :: rest, lastStop⟩ =
        .done _ ⟨opener :: rest, stop⟩ [] := bareParameters_names names opens lastStop
    exact ⟨stop, by simp [parameterList, here, bare, read]⟩
  · have given : Grammar.items expression ")" .arguments .arguments mode
        ⟨tokens ++ right :: opener :: rest, left.stop⟩ = _ :=
      items_commas commas ends (by decide)
        (fun item member => Token.startsExpression_of_isName (names item member).1)
        (opener :: rest) (takesEach_names _ fun item member => (names item member).1)
        (Nat.le_refl _) left.stop
    have bound : ∀ cursor, parameters (params.map Token.mention) mode cursor = _ :=
      parameters_mentions fun item member => (names item member).2
    refine ⟨right.stop, ?_⟩
    simp [parameterList, here, Cursor.isAtSymbol, encloses, parenArguments, next,
      Cursor.advance_cons (Token.ne_finish_of_isSymbol encloses), given, bound]

theorem definition_reads {inner : Rule (List Stmt)} {name word function closer : Token}
    {body : List Token} {stmt : Stmt} (heads : word.keyword? = some .function)
    (named : function.isName = true) (parameters : Parameters params tokens)
    (opens : opener.keyword? = some .blockOpen) (saying : Saying name.lexeme body stmt)
    (closes : closer.keyword? = some .blockClose)
    (serves : Printing.Serves inner mode (body.length + 2)) (lastStop : Nat) :
    statement inner mode
        ⟨word :: function :: (tokens ++ opener :: (body ++ closer :: rest)), lastStop⟩ =
      .done (some (.define (some function.lexeme) none
        (params.map fun param => ⟨param.lexeme, param.place⟩) [stmt] opener.place word.place))
        ⟨rest, closer.stop⟩ [] := by
  have leads : lead word = .definition := by simp [lead, heads]
  obtain ⟨stop, given⟩ : ∃ stop, parameterList mode
      ⟨tokens ++ opener :: (body ++ closer :: rest), function.stop⟩ =
        .done _ ⟨opener :: (body ++ closer :: rest), stop⟩ [] :=
    parameterList_reads parameters opens function.stop
  have block := saying.block_reads opens closes serves rest stop
  simp [statement, here, leads, definition, next, nameFor, named, given, aliasName, accept, block,
    Cursor.advance_cons (Token.ne_finish_of_keyword? heads), Printing.isAt_opener opens,
    Cursor.advance_cons (Token.ne_finish_of_isName named), Printing.blockAfter_opener opens]

theorem call_reads {inner : Rule (List Stmt)} {call callee left right finish : Token}
    {literals : List Literal} (announces : call.kind = .keyword)
    (calls : call.keyword? = some .call) (again : callee.isName = true)
    (encloses : left.isSymbol "(" = true) (constants : Constants literals tokens)
    (ends : right.isSymbol ")" = true) (last : finish.kind = .finish) (lastStop : Nat) :
    ∃ arguments, Expr.Are literals arguments ∧
      statement inner mode
          ⟨call :: callee :: left :: (tokens ++ right :: finish :: rest), lastStop⟩ =
        .done (some (.expression (.call callee.lexeme none arguments callee.place)))
          ⟨finish :: rest, right.stop⟩ [] := by
  obtain ⟨items, commas, starts, takes, are⟩ := constants.are mode
  refine ⟨_, are, ?_⟩
  have leads : lead call = .plain := by simp [lead, calls]
  have opens : opening call = .call := by simp [opening, announces, calls]
  have begins : call.startsExpression = true := by
    simp [Token.startsExpression, announces, calls, Token.isExpressionKeyword]
  have plain : ∀ symbol, call.isSymbol symbol = false := by simp [Token.isSymbol, announces]
  have halts : finish.Halts := Token.EndsStatement.halts (Or.inl last)
  have read : expression mode ⟨call :: callee :: left :: (tokens ++ right :: finish :: rest),
      lastStop⟩ = _ :=
    expression_call opens again encloses commas ends starts takes halts.calm lastStop
  simp [statement, here, leads, plainStatement, plain, announces, begins, read]

end

/-! ### Loops -/

theorem each_reads {inner : Rule (List Stmt)} {word name within left right opener closer : Token}
    {itemTokens body rest : List Token} {literals : List Literal} {stmt : Stmt}
    (heads : word.keyword? = some .each) (named : name.isName = true)
    (among : within.keyword? = some .within) (encloses : left.isSymbol "[" = true)
    (constants : Constants literals itemTokens) (ends : right.isSymbol "]" = true)
    (opens : opener.keyword? = some .blockOpen) (saying : Saying name.lexeme body stmt)
    (closes : closer.keyword? = some .blockClose)
    (serves : Printing.Serves inner mode (body.length + 2)) (lastStop : Nat) :
    ∃ items, Expr.Are literals items ∧
      statement inner mode ⟨word :: name :: within :: left :: (itemTokens ++ right :: opener ::
          (body ++ closer :: rest)), lastStop⟩ =
        .done (some (.loop (.each (some name.lexeme) (.list items left.place)) [stmt] opener.place
          word.place)) ⟨rest, closer.stop⟩ [] := by
  obtain ⟨items, commas, starts, takes, are⟩ := constants.are mode
  refine ⟨_, are, ?_⟩
  have leads : lead word = .each := by simp [lead, heads]
  have list : expression mode ⟨left :: (itemTokens ++ right :: opener :: (body ++ closer :: rest)),
      within.stop⟩ = _ :=
    expression_list encloses commas ends starts takes (Printing.calm_opener opens) within.stop
  have block := saying.block_reads opens closes serves rest right.stop
  simp [statement, here, leads, eachLoop, next, eachTail, nameFor, named, accept, Cursor.isAt,
    among, Cursor.advance_cons (Token.ne_finish_of_keyword? heads), eachTail.eachBody, list,
    Cursor.advance_cons (Token.ne_finish_of_isName named), Printing.blockAfter_opener opens, block,
    Cursor.advance_cons (Token.ne_finish_of_keyword? among)]

/-! ### Programs -/

theorem atEnd_cons {token : Token} (other : token.kind ≠ .finish) (rest : List Token)
    (lastStop : Nat) : Cursor.atEnd ⟨token :: rest, lastStop⟩ = false :=
  decide_eq_false other

theorem statements_separated {cursor : Cursor} {separator : Token} {rest : List Token} {stmt : Stmt}
    {more : List Stmt} {stop : Nat} (open' : cursor.atEnd = false)
    (separates : separator.isSymbol ";" = true)
    (read : statement (statementsWithin cursor) mode cursor =
      .done (some stmt) ⟨separator :: rest, stop⟩ [])
    (shorter : (separator :: rest).length < cursor.rest.length)
    (later : ∃ last, statements mode ⟨rest, separator.stop⟩ = .done more last []) :
    ∃ last, statements mode cursor = .done (stmt :: more) last [] := by
  have symbol : (Cursor.isAtSymbol ⟨separator :: rest, stop⟩ ";" ||
      Cursor.isAtSymbol ⟨separator :: rest, stop⟩ ",") = true := by
    rw [Bool.or_eq_true]
    exact Or.inl separates
  obtain ⟨last, later⟩ := later
  have goesOn : statements mode ⟨separator :: rest, stop⟩ = _ :=
    (statements_separator symbol).trans
      (Cursor.advance_cons (Token.ne_finish_of_isSymbol separates) rest stop ▸ later)
  exact ⟨last, statements_cons open' read shorter goesOn⟩

/-- A name is bound, and mentioned behind a separator. -/
theorem bound_and_mentioned {word name assign value separator finish : Token} {body : List Token}
    {stmt other : Stmt} {mode : Mode} (begins : word.kind ≠ .finish)
    (separates : separator.isSymbol ";" = true) (saying : Saying name.lexeme body stmt)
    (ends : finish.kind = .finish)
    (read : ∀ inner rest, statement inner mode
      (.ofTokens (word :: name :: assign :: value :: separator :: rest)) =
        .done (some other) ⟨separator :: rest, value.stop⟩ []) :
    ∃ last, statements mode
      (.ofTokens ((word :: name :: assign :: value :: separator :: body) ++ [finish])) =
        .done [other, stmt] last [] :=
  statements_separated (atEnd_cons begins _ 0) separates (read _ (body ++ [finish]))
    (by simp [Cursor.ofTokens]) (saying.statements_read ends mode separator.stop)

end Grammar

open Grammar

/-- Such tokens are read without a note, whatever the mode and wherever they end. -/
theorem Recalls.reads {name : Token} (named : name.isName = true) {literals : List Literal}
    {tokens : List Token} {stmt : Stmt} (recalls : Recalls name literals tokens stmt) (mode : Mode)
    {finish : Token} (last : finish.kind = .finish) :
    ∃ program, Recital name.lexeme stmt literals program ∧
      Program.ofTokens mode (tokens ++ [finish]) = .ok (program, []) := by
  have closed : Token.close (tokens ++ [finish]) = tokens ++ [finish] := by
    simp [Token.close, last]
  suffices read : ∃ program, Recital name.lexeme stmt literals program ∧
      ∃ last, statements mode (.ofTokens (tokens ++ [finish])) = .done program last [] by
    obtain ⟨program, recital, final, read⟩ := read
    exact ⟨program, recital, Program.ofTokens_of_statements (closed ▸ read)⟩
  obtain @⟨word, assign, value, separator, literal, body, stmt, heads, assigns, constant, separates,
      saying⟩ |
    @⟨word, assign, value, separator, literal, body, stmt, heads, nameFirst, assigns, constant,
      separates, saying⟩ |
    @⟨word, function, opener, closer, separator, call, callee, left, right, front, back,
      paramTokens, argumentTokens, body, literals, stmt, heads, function_named, parameters, once,
      opens, saying, closes, separates, announces, calls, again, same, encloses, constants, ends⟩ |
    @⟨word, within, left, right, opener, closer, itemTokens, body, literals, stmt, heads, among,
      encloses, constants, ends, opens, saying, closes⟩ := recalls
  · exact ⟨_, .declaration literal value.place word.place,
      bound_and_mentioned (Token.ne_finish_of_keyword? heads) separates saying last fun _ rest =>
        declaration_reads named assigns constant separates heads rest 0⟩
  · exact ⟨_, .assignment literal value.place word.place,
      bound_and_mentioned (Token.ne_finish_of_keyword? heads) separates saying last fun _ rest =>
        assignment_reads named assigns constant separates heads nameFirst rest 0⟩
  · have begins := Token.ne_finish_of_keyword? heads
    -- the call stands behind the definition and a separator
    let behind := call :: callee :: left :: (argumentTokens ++ [right, finish])
    let start : Cursor :=
      ⟨word :: function :: (paramTokens ++ opener :: (body ++ closer :: separator :: behind)), 0⟩
    obtain ⟨arguments, are, read⟩ := call_reads announces calls again encloses constants ends last
      separator.stop
    have later := statements_single (atEnd_cons (Token.ne_finish_of_keyword? calls) _ _) last read
      (by simp)
    have definition : statement (statementsWithin start) mode start = _ :=
      definition_reads heads function_named parameters opens saying closes
        ((Printing.statementsWithin_serves start mode).mono (by simp [start, behind]; omega)) 0
    have whole := statements_separated (atEnd_cons begins _ 0) separates definition
      (by simp [behind]; omega) later
    let params := (front ++ name :: back).map fun param => (⟨param.lexeme, param.place⟩ : Param)
    have names :
        params.map (·.name) = front.map (·.lexeme) ++ name.lexeme :: back.map (·.lexeme) := by
      simp [params, Function.comp_def]
    have length : (front.map (·.lexeme)).length = front.length := List.length_map _
    have recital : Recital name.lexeme stmt [literals[front.length]?.getD .void]
        [.define (some function.lexeme) none params [stmt] opener.place word.place,
          .expression (.call callee.lexeme none arguments callee.place)] := by
      rw [same, ← length]
      exact .parameter _ _ _ names once are
    exact ⟨_, recital, by simpa [start, behind, params, Cursor.ofTokens] using whole⟩
  · let start : Cursor := ⟨word :: name :: within :: left :: (itemTokens ++ right :: opener ::
      (body ++ [closer, finish])), 0⟩
    obtain ⟨items, are, read⟩ := each_reads heads named among encloses constants ends opens saying
      closes ((Printing.statementsWithin_serves start mode).mono (by simp [start]; omega)) 0
    have whole := statements_single (atEnd_cons (Token.ne_finish_of_keyword? heads) _ 0) last
      read (by simp)
    exact ⟨_, .item left.place opener.place word.place are, by simpa [Cursor.ofTokens] using whole⟩

end Parlance
