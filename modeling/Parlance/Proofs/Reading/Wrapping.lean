import Parlance.Proofs.Reading.Operand
import Parlance.Proofs.Reading.Program
import Parlance.Token.Scan

/-!
Programs inside blocks. The end of a block is found by counting the words that open and close
blocks, so the tokens of a program are the body of a block exactly if they are balanced. The
closer of a chain of conditionals closes several openers at once, and such a chain is not.
-/

namespace Parlance

namespace Token

/-- How many blocks are open behind the tokens if so many are open in front of them; nothing if a
closer finds none open. -/
def openBlocks (depth : Nat) (fused : Bool) : List Token → Option Nat
  | [] => some depth
  | token :: rest =>
      match token.keyword? with
      | some .blockOpen =>
          let depth := if fused && token.isSymbol "\x7b" then depth else depth + 1
          openBlocks depth (token.kind = .keyword) rest
      | some .blockClose =>
          match depth with
          | 0 => none
          | depth + 1 => openBlocks depth false rest
      | _ => openBlocks depth false rest

/-- As many closers as openers, and never more of them so far. A brace right after a word that
opens does not count. -/
def Balanced (tokens : List Token) : Prop := openBlocks 0 false tokens = some 0

instance (tokens : List Token) : Decidable (Balanced tokens) :=
  inferInstanceAs (Decidable (_ = _))

end Token

namespace Grammar

open Rule

namespace Extent

/-- Counting goes through tokens that do not end the block. -/
theorem scan_through {tokens : List Token} (inner : ∀ token ∈ tokens, token.kind ≠ .finish)
    {depth opened : Nat} {fused : Bool}
    (counted : Token.openBlocks depth fused tokens = some opened) :
    ∃ fused', ∀ rest, scan false depth fused (tokens ++ rest) =
      (scan false opened fused' rest).prepend tokens := by
  induction tokens generalizing depth fused with
  | nil =>
      obtain rfl := Option.some.inj counted
      exact ⟨fused, fun _ => rfl⟩
  | cons token tokens ih =>
      have here := inner token List.mem_cons_self
      have later := fun other found => inner other (List.mem_cons_of_mem token found)
      -- whatever the token does to the count, the tokens behind it are passed by induction
      have goes : ∀ depth' fused', Token.openBlocks depth' fused' tokens = some opened →
          ∃ last, ∀ rest, (scan false depth' fused' (tokens ++ rest)).cons token =
            (scan false opened last rest).prepend (token :: tokens) := by
        intro depth' fused' counted
        obtain ⟨last, goes⟩ := ih later counted
        refine ⟨last, fun rest => ?_⟩
        rw [goes rest]
        rfl
      simp only [Token.openBlocks] at counted
      simp only [List.cons_append, scan, here, ↓reduceIte, Bool.false_and, Bool.false_eq_true]
      split at counted
      · rename_i opens
        simp only [opens]
        exact goes _ _ counted
      · rename_i closes
        simp only [closes]
        cases depth with
        | zero => cases counted
        | succ depth => exact goes _ _ counted
      · obtain ⟨last, goes⟩ := goes _ _ counted
        refine ⟨last, fun rest => ?_⟩
        split
        all_goals first
          | contradiction
          | exact goes rest

/-- Balanced tokens are the body of the block that a closer ends behind them. -/
theorem ofBody_balanced {tokens : List Token} (inner : ∀ token ∈ tokens, token.kind ≠ .finish)
    (balanced : Token.Balanced tokens) {closer : Token}
    (closes : closer.keyword? = some .blockClose) (rest : List Token) :
    ofBody false (tokens ++ closer :: rest) = ⟨tokens, closer :: rest, .closed⟩ := by
  obtain ⟨fused, goes⟩ := scan_through inner balanced
  have open' := Token.ne_finish_of_keyword? closes
  simp [ofBody, goes, scan, open', closes, prepend]

/-- If more blocks are opened than closed, a single closer behind the tokens does not help. -/
theorem ofBody_open {tokens : List Token} (inner : ∀ token ∈ tokens, token.kind ≠ .finish)
    {opened : Nat} (counted : Token.openBlocks 0 false tokens = some (opened + 1))
    {closer finish : Token} (closes : closer.keyword? = some .blockClose)
    (ends : finish.kind = .finish) :
    ofBody false (tokens ++ [closer, finish]) =
      ⟨tokens ++ [closer], [finish], .endOfInput⟩ := by
  obtain ⟨fused, goes⟩ := scan_through inner counted
  have open' := Token.ne_finish_of_keyword? closes
  simp [ofBody, goes, scan, open', closes, ends, prepend, cons]

/-- If a closer finds no block open, the block ends there. -/
theorem scan_early {tokens : List Token} (inner : ∀ token ∈ tokens, token.kind ≠ .finish)
    {depth : Nat} {fused : Bool} (early : Token.openBlocks depth fused tokens = none) :
    ∃ body closer behind, tokens = body ++ closer :: behind ∧
      ∀ rest, scan false depth fused (tokens ++ rest) =
        ⟨body, closer :: behind ++ rest, .closed⟩ := by
  induction tokens generalizing depth fused with
  | nil => cases early
  | cons token tokens ih =>
      have here := inner token List.mem_cons_self
      have later := fun other found => inner other (List.mem_cons_of_mem token found)
      -- a token that does not end the block belongs to its body
      have goes : ∀ depth' fused', Token.openBlocks depth' fused' tokens = none →
          ∃ body closer behind, token :: tokens = body ++ closer :: behind ∧
            ∀ rest, (scan false depth' fused' (tokens ++ rest)).cons token =
              ⟨body, closer :: behind ++ rest, .closed⟩ := by
        intro depth' fused' early
        obtain ⟨body, closer, behind, rfl, goes⟩ := ih later early
        refine ⟨token :: body, closer, behind, rfl, fun rest => ?_⟩
        rw [goes rest]
        rfl
      simp only [Token.openBlocks] at early
      simp only [List.cons_append, scan, here, ↓reduceIte, Bool.false_and, Bool.false_eq_true]
      split at early
      · rename_i opens
        simp only [opens]
        exact goes _ _ early
      · rename_i closes
        simp only [closes]
        cases depth with
        | zero => exact ⟨[], token, tokens, rfl, fun _ => rfl⟩
        | succ depth => exact goes _ _ early
      · obtain ⟨body, closer, behind, split, goes⟩ := goes _ _ early
        refine ⟨body, closer, behind, split, fun rest => ?_⟩
        split
        all_goals first
          | contradiction
          | exact goes rest

end Extent

structure Spot where
  offset : Nat
  place : Place
  stop : Nat

def Spot.token (spot : Spot) (kind : Token.Kind) (lexeme : String) : Token :=
  ⟨kind, lexeme, spot.offset, spot.place, spot.stop⟩

def Spot.onFirstLine (offset length : Nat) : Spot := ⟨offset, ⟨1, offset + 1⟩, offset + length⟩

@[simp] theorem Spot.token_kind (spot : Spot) (kind : Token.Kind) (lexeme : String) :
    (spot.token kind lexeme).kind = kind := rfl

@[simp] theorem Spot.token_offset (spot : Spot) (kind : Token.Kind) (lexeme : String) :
    (spot.token kind lexeme).offset = spot.offset := rfl

@[simp] theorem Spot.token_place (spot : Spot) (kind : Token.Kind) (lexeme : String) :
    (spot.token kind lexeme).place = spot.place := rfl

@[simp] theorem Spot.token_stop (spot : Spot) (kind : Token.Kind) (lexeme : String) :
    (spot.token kind lexeme).stop = spot.stop := rfl

@[simp] theorem Spot.keyword?_symbol (spot : Spot) (lexeme : String) :
    (spot.token .symbol lexeme).keyword? = Keyword.ofSpelling? lexeme := rfl

@[simp] theorem Spot.keyword?_keyword (spot : Spot) (lexeme : String) :
    (spot.token .keyword lexeme).keyword? = Keyword.ofSpelling? lexeme := rfl

/-- Statements with a body in braces, by where their tokens stand. -/
inductive Wrapper where
  | block (opener : Spot)
  | loop (head count opener : Spot)
  | function (head name left right opener : Spot)

namespace Wrapper

def opener : Wrapper → Spot
  | .block opener | .loop _ _ opener | .function _ _ _ _ opener => opener

def head : Wrapper → List Token
  | .block _ => []
  | .loop head count _ => [head.token .keyword "loop", count.token .number "2"]
  | .function head name left right _ =>
      [head.token .keyword "function", name.token .identifier "f", left.token .symbol "(",
        right.token .symbol ")"]

def brace (wrapper : Wrapper) : Token := wrapper.opener.token .symbol "\x7b"

def around (wrapper : Wrapper) (closer : Spot) (tokens : List Token) : List Token :=
  wrapper.head ++ wrapper.brace :: tokens ++ [closer.token .symbol "\x7d"]

theorem head_open (wrapper : Wrapper) : ∀ token ∈ wrapper.head, token.kind ≠ .finish := by
  cases wrapper with
  | block => simp [head]
  | loop => simp [head, Spot.token]
  | function => simp [head, Spot.token]

theorem around_open (wrapper : Wrapper) (closer : Spot) {tokens : List Token}
    (inner : ∀ token ∈ tokens, token.kind ≠ .finish) :
    ∀ token ∈ wrapper.around closer tokens, token.kind ≠ .finish := by
  intro token found
  simp only [around, List.mem_append, List.mem_cons, List.mem_nil_iff, or_false] at found
  rcases found with (head | rfl | body) | rfl
  · exact wrapper.head_open token head
  · exact nofun
  · exact inner token body
  · exact nofun

def stmt (wrapper : Wrapper) (body : List Stmt) : Stmt :=
  match wrapper with
  | .block opener => .block body opener.place
  | .loop head count opener =>
      .loop (.count (.literal (.number (numberValue "2")) count.place)) body opener.place
        head.place
  | .function head _ _ _ opener => .define (some "f") none [] body opener.place head.place

theorem brace_keyword? (wrapper : Wrapper) : wrapper.brace.keyword? = some .blockOpen :=
  Keyword.ofSpelling?_blockOpen

theorem block_brace (wrapper : Wrapper) (inner : Rule (List Stmt)) (mode : Mode)
    (tokens : List Token) (lastStop : Nat) :
    Grammar.block inner false mode ⟨wrapper.brace :: tokens, lastStop⟩ =
      blockBody inner false wrapper.brace mode ⟨tokens, wrapper.brace.stop⟩ := by
  simp [Grammar.block, next, Cursor.current, Cursor.ahead, Cursor.advance, brace, Spot.token]

theorem blockAfter_brace (wrapper : Wrapper) (inner : Rule (List Stmt)) (mode : Mode)
    (tokens : List Token) (lastStop : Nat) (head : Token) (what : Head) :
    blockAfter inner head what mode ⟨wrapper.brace :: tokens, lastStop⟩ =
      blockBody inner false wrapper.brace mode ⟨tokens, wrapper.brace.stop⟩ := by
  have opens : Cursor.isAt ⟨wrapper.brace :: tokens, lastStop⟩ .blockOpen = true := by
    simp [Cursor.isAt, Cursor.current, Cursor.ahead, brace_keyword?]
  simp [blockAfter, here, opens, block_brace]

theorem expression_count (count : Spot) (wrapper : Wrapper) (mode : Mode) (tokens : List Token)
    (lastStop : Nat) :
    expression mode ⟨count.token .number "2" :: wrapper.brace :: tokens, lastStop⟩ =
      .done (.literal (.number (numberValue "2")) count.place)
        ⟨wrapper.brace :: tokens, count.stop⟩ [] := by
  have calm : Token.Calm wrapper.brace :=
    ⟨rfl, by rw [brace_keyword?]; rfl⟩
  have other : (count.token .number "2").kind ≠ .finish := by simp
  exact expressionOf_of_unary
    (unary_literal _ mode other rfl rfl calm.unindexed tokens lastStop) calm

theorem statement_lenient {wrapper : Wrapper} {inner : Rule (List Stmt)} {mode : Mode}
    (lenient : mode.strict = false) {tokens : List Token} {body : List Stmt} {last : Cursor}
    {noted : List Recovery}
    (read : inner mode (.ofTokens (Extent.ofBody false tokens).closedBody) = .done body last noted)
    (lastStop : Nat) :
    statement inner mode ⟨wrapper.head ++ wrapper.brace :: tokens, lastStop⟩ =
      .done (some (wrapper.stmt body))
        ((Extent.ofBody false tokens).behind wrapper.brace.stop)
        (noted ++ (Extent.ofBody false tokens).missing wrapper.brace.stop) := by
  have bodies : blockBody inner false wrapper.brace mode ⟨tokens, wrapper.brace.stop⟩ = _ :=
    blockBody_lenient lenient read wrapper.brace
  -- the tokens in front of the brace are known one by one, so they are read by evaluation
  cases wrapper with
  | block opener =>
      have leads : lead (Wrapper.block opener).brace = .block := by
        simp [lead, brace_keyword?]
      simp [statement, here, head, leads, block_brace, bodies, Reading.andThen, stmt]
      rfl
  | loop at' count opener =>
      have leads : lead (at'.token .keyword "loop") = .loop := by
        have known : Keyword.ofSpelling? "loop" = some .loop := by decide +kernel
        simp [lead, known]
      have open' : (at'.token .keyword "loop").kind ≠ .finish := by simp
      have number : (count.token .number "2").keyword? = none := rfl
      have name : (count.token .number "2").isName = false := rfl
      simp [statement, here, head, leads, Grammar.loop, next, Cursor.advance_cons open',
        Cursor.isAt, number, name, accept, expression_count, blockAfter_brace, bodies,
        brace_keyword?, Reading.andThen, stmt]
      rfl
  | function at' name left right opener =>
      have leads : lead (at'.token .keyword "function") = .definition := by
        have known : Keyword.ofSpelling? "function" = some .function := by decide +kernel
        simp [lead, known]
      have open' : (at'.token .keyword "function").kind ≠ .finish := by simp
      have openName : (name.token .identifier "f").kind ≠ .finish := by simp
      have openLeft : (left.token .symbol "(").kind ≠ .finish := by simp
      have openRight : (right.token .symbol ")").kind ≠ .finish := by simp
      have named : (name.token .identifier "f").isName = true := rfl
      have parens : (left.token .symbol "(").isSymbol "(" = true := rfl
      have closes : (right.token .symbol ")").isSymbol ")" = true := rfl
      simp [statement, here, head, leads, definition, next, Cursor.advance_cons open', nameFor,
        named, Cursor.advance_cons openName, parameterList, Cursor.isAtSymbol, parens,
        parenArguments, Cursor.advance_cons openLeft, items, items.round, tie_apply, acceptSymbol,
        closes, Cursor.advance_cons openRight, parameters, aliasName, accept, Cursor.isAt,
        blockAfter_brace, bodies, brace_keyword?, Reading.andThen, stmt]
      exact ⟨rfl, rfl⟩

theorem statements_lenient (wrapper : Wrapper) {mode : Mode} (lenient : mode.strict = false)
    {tokens : List Token} (ends : (Extent.ofBody false tokens).rest ≠ [])
    {body more : List Stmt} {last next : Cursor} {noted later : List Recovery}
    (read : statements mode (.ofTokens (Extent.ofBody false tokens).closedBody) =
      .done body last noted)
    (goesOn : statements mode ((Extent.ofBody false tokens).behind wrapper.brace.stop) =
      .done more next later) (lastStop : Nat) :
    statements mode ⟨wrapper.head ++ wrapper.brace :: tokens, lastStop⟩ =
      .done (wrapper.stmt body :: more) next
        (noted ++ (Extent.ofBody false tokens).missing wrapper.brace.stop ++ later) := by
  have parts : (Extent.ofBody false tokens).body ++ (Extent.ofBody false tokens).rest = tokens :=
    Extent.scan_append false 0 false tokens
  have length := congrArg List.length parts
  have some := List.length_pos_iff.mpr ends
  rw [List.length_append] at length
  have open' : Cursor.atEnd ⟨wrapper.head ++ wrapper.brace :: tokens, lastStop⟩ = false := by
    cases wrapper <;> rfl
  have inner : statementsWithin ⟨wrapper.head ++ wrapper.brace :: tokens, lastStop⟩ mode
      (.ofTokens (Extent.ofBody false tokens).closedBody) = .done body last noted := by
    rw [statementsWithin_shorter, read]
    simp [Cursor.ofTokens, Extent.closedBody]
    omega
  refine statements_cons open' (statement_lenient lenient inner lastStop) ?_ goesOn
  have behind := (Extent.behind_suffix (Extent.ofBody false tokens) wrapper.brace.stop).length_le
  simp
  omega

end Wrapper

/-! ### Readings that note nothing -/

def Reading.Gives (reading : Reading (Option Stmt)) : Prop :=
  ∀ next, reading ≠ .done none next []

section

variable {α : Type} {mode : Mode} {cursor : Cursor}

theorem gives_bind {rule : Rule α} {more : α → Rule (Option Stmt)}
    (later : ∀ value next, rule mode cursor = .done value next [] →
      (more value mode next).Gives) : ((rule >>= more) mode cursor).Gives := by
  intro last clean
  obtain ⟨value, next, read, clean⟩ := Reading.andThen_clean clean
  exact later value next read last clean

theorem gives_pure (stmt : Stmt) : ((pure (some stmt) : Rule (Option Stmt)) mode cursor).Gives := by
  intro last clean
  cases clean

theorem gives_some (rule : Rule Stmt) : ((some <$> rule) mode cursor).Gives := by
  intro last clean
  obtain ⟨value, next, _, clean⟩ := Reading.andThen_clean clean
  cases clean

theorem gives_recover {flaw : Flaw} {more : Unit → Rule (Option Stmt)} :
    ((recover flaw >>= more) mode cursor).Gives :=
  gives_bind fun _ _ read => absurd read recover_noted

theorem nameFor_clean {role : Named} {name : Option Token} {next : Cursor}
    (clean : nameFor role mode cursor = .done name next []) : name ≠ none := by
  simp only [nameFor, bind_apply, here, Reading.done_andThen] at clean
  split at clean
  · obtain ⟨token, middle, _, clean⟩ := Reading.andThen_clean clean
    obtain ⟨rfl, _⟩ := Reading.done.inj clean
    exact Option.some_ne_none token
  · obtain ⟨_, _, read, _⟩ := Reading.andThen_clean clean
    exact absurd read recover_noted

theorem declared_gives (head : Token) : (declaration.declared head mode cursor).Gives := by
  refine gives_bind fun name next read => ?_
  cases name with
  | none => exact absurd rfl (nameFor_clean read)
  | some name =>
      refine gives_bind fun assigned next _ => ?_
      cases assigned with
      | true => exact gives_bind fun _ _ _ => gives_pure _
      | false =>
          refine gives_bind fun _ next _ => ?_
          split
          · exact gives_recover
          · exact gives_pure _

theorem declaration_gives : (declaration mode cursor).Gives := by
  refine gives_bind fun head _ _ => gives_bind fun _ _ _ => ?_
  split
  · exact gives_bind fun _ _ _ => declared_gives head
  · exact declared_gives head

theorem assignment_gives : (assignment mode cursor).Gives := by
  refine gives_bind fun head _ _ => ?_
  split
  · refine gives_bind fun value _ _ => gives_bind fun assigned _ _ => ?_
    cases assigned with
    | true =>
        refine gives_bind fun name _ read => ?_
        cases name with
        | none => exact absurd rfl (nameFor_clean read)
        | some name => exact gives_pure _
    | false => exact gives_recover
  · refine gives_bind fun name _ read => ?_
    cases name with
    | none => exact absurd rfl (nameFor_clean read)
    | some name =>
        refine gives_bind fun assigned _ _ => ?_
        cases assigned with
        | true => exact gives_bind fun _ _ _ => gives_pure _
        | false => exact gives_recover

theorem passOver_gives (flaw : String → Flaw) : (passOver flaw mode cursor).Gives :=
  gives_bind fun _ _ _ => gives_recover

theorem statement_gives {inner : Rule (List Stmt)}
    (other : (cursor.isAtSymbol ";" || cursor.isAtSymbol ",") = false) :
    (statement inner mode cursor).Gives := by
  have plain : (plainStatement mode cursor).Gives := by
    refine gives_bind fun here' _ read => ?_
    obtain ⟨rfl, rfl, _⟩ := Reading.done.inj read
    simp only [Cursor.isAtSymbol] at other
    simp only [other, Bool.false_eq_true, ↓reduceIte]
    split
    · exact gives_some _
    · split
      · exact gives_bind fun _ _ _ => gives_pure _
      · exact passOver_gives _
  refine gives_bind fun here' _ read => ?_
  obtain ⟨rfl, rfl, _⟩ := Reading.done.inj read
  cases lead cursor.current with
  | declaration => exact declaration_gives
  | assignment => exact assignment_gives
  | closer | otherwise => exact passOver_gives _
  | plain => exact plain
  | block => exact gives_bind fun _ _ _ => gives_pure _
  | definition | conditional | loop | whileLoop | each | giveBack | output => exact gives_some _

end

theorem statements_none_clean {mode : Mode} {cursor last : Cursor} (open' : cursor.atEnd = false)
    (clean : statements mode cursor = .done [] last []) :
    (cursor.isAtSymbol ";" || cursor.isAtSymbol ",") = true ∧
      statements mode cursor.advance = .done [] last [] := by
  rw [statements_apply open'] at clean
  obtain ⟨first, middle, read, clean⟩ := Reading.andThen_clean clean
  obtain ⟨more, next, goesOn, clean⟩ := Reading.andThen_clean clean
  obtain ⟨empty, rfl, _⟩ := Reading.done.inj clean
  obtain ⟨nothing, rfl⟩ := List.append_eq_nil_iff.mp empty
  obtain rfl := Option.toList_eq_nil_iff.mp nothing
  have separator : (cursor.isAtSymbol ";" || cursor.isAtSymbol ",") = true := by
    by_contra other
    exact statement_gives (Bool.not_eq_true _ ▸ other) middle read
  rw [statement_separator _ separator] at read
  obtain ⟨_, rfl, _⟩ := Reading.done.inj read
  rw [statementsWithin_shorter (cursor.advance_shorter open')] at goesOn
  exact ⟨separator, goesOn⟩

theorem statements_stray {mode : Mode} {tokens behind : List Token}
    (inner : ∀ token ∈ tokens, token.kind ≠ .finish) {closer : Token}
    (closes : closer.keyword? = some .blockClose) (lastStop : Nat) (last : Cursor) :
    statements mode ⟨tokens ++ closer :: behind, lastStop⟩ ≠ .done [] last [] := by
  induction tokens generalizing lastStop with
  | nil =>
      intro clean
      have leads : lead closer = .closer := by simp [lead, closes]
      have open' : Cursor.atEnd ⟨closer :: behind, lastStop⟩ = false := by
        simp [Cursor.atEnd, Token.ne_finish_of_keyword? closes]
      have plain := lead_separator (statements_none_clean open' clean).1
      rw [Cursor.current_cons, leads] at plain
      cases plain
  | cons token tokens ih =>
      intro clean
      have here := inner token List.mem_cons_self
      have open' : Cursor.atEnd ⟨token :: tokens ++ closer :: behind, lastStop⟩ = false := by
        simp [Cursor.atEnd, here]
      have goesOn := (statements_none_clean open' clean).2
      rw [List.cons_append, Cursor.advance_cons here] at goesOn
      exact ih (fun other found => inner other (List.mem_cons_of_mem token found)) _ goesOn

end Grammar

open Grammar

namespace Program

variable {capabilities : Capabilities} {tokens : List Token} {body : Program}

/-- Balanced tokens become the body of the statement, and what is behind it is read as alone. -/
theorem statements_around (wrapper : Wrapper) (closer : Spot)
    (inner : ∀ token ∈ tokens, token.kind ≠ .finish) (balanced : Token.Balanced tokens)
    (clean : Program.ofTokens ⟨false, capabilities⟩ tokens = .ok (body, []))
    {behind : List Token} {more : Program} {last : Cursor} {later : List Recovery}
    (goesOn : statements ⟨false, capabilities⟩ ⟨behind, closer.stop⟩ = .done more last later) :
    statements ⟨false, capabilities⟩ (.ofTokens (wrapper.around closer tokens ++ behind)) =
      .done (wrapper.stmt body :: more) last later := by
  have closes : (closer.token .symbol "\x7d").keyword? = some .blockClose :=
    Keyword.ofSpelling?_blockClose
  have extent := Extent.ofBody_balanced inner balanced closes behind
  have ends : (Token.finishAt closer.offset closer.place closer.offset).kind = .finish := rfl
  obtain ⟨inside, read⟩ := statements_reclosed inner clean ends
  have ended : (Extent.ofBody false
      (tokens ++ closer.token .symbol "\x7d" :: behind)).rest ≠ [] := by
    simp [extent]
  have read' : statements ⟨false, capabilities⟩ (.ofTokens (Extent.ofBody false
      (tokens ++ closer.token .symbol "\x7d" :: behind)).closedBody) = .done body inside [] := by
    simpa [extent, Extent.closedBody, Extent.boundary] using read
  have goesOn' : statements ⟨false, capabilities⟩ ((Extent.ofBody false
      (tokens ++ closer.token .symbol "\x7d" :: behind)).behind wrapper.brace.stop) =
        .done more last later := by
    simpa [extent, Extent.behind, Extent.boundary] using goesOn
  have wrapped := wrapper.statements_lenient rfl ended read' goesOn' 0
  simpa [Wrapper.around, Cursor.ofTokens, extent, Extent.missing] using wrapped

/-- If the tokens are not balanced, something is noted or another statement is read. -/
theorem statements_around_unbalanced (wrapper : Wrapper) (closer : Spot)
    (inner : ∀ token ∈ tokens, token.kind ≠ .finish) (unbalanced : ¬ Token.Balanced tokens)
    {finish : Token} (ends : finish.kind = .finish) (last : Cursor) :
    statements ⟨false, capabilities⟩ (.ofTokens (wrapper.around closer tokens ++ [finish])) ≠
      .done [wrapper.stmt body] last [] := by
  have closes : (closer.token .symbol "\x7d").keyword? = some .blockClose :=
    Keyword.ofSpelling?_blockClose
  have ended : (Extent.ofBody false
      (tokens ++ [closer.token .symbol "\x7d", finish])).rest ≠ [] :=
    Extent.ofBody_rest_ne_nil (List.mem_append_right tokens (by simp : finish ∈ [_, finish])) ends
  obtain ⟨read, _, noted, inside, _⟩ := Grammar.statements_lenient capabilities
    (.ofTokens (Extent.ofBody false (tokens ++ [closer.token .symbol "\x7d", finish])).closedBody)
  obtain ⟨more, next, later, goesOn, _⟩ := Grammar.statements_lenient capabilities
    ((Extent.ofBody false (tokens ++ [closer.token .symbol "\x7d", finish])).behind
      wrapper.brace.stop)
  have wrapped := wrapper.statements_lenient rfl ended inside goesOn 0
  intro clean
  have same : Cursor.ofTokens (wrapper.around closer tokens ++ [finish]) =
      ⟨wrapper.head ++ wrapper.brace :: (tokens ++ [closer.token .symbol "\x7d", finish]), 0⟩ := by
    simp [Wrapper.around, Cursor.ofTokens]
  rw [same, wrapped] at clean
  obtain ⟨stmts, _, flaws⟩ := Reading.done.inj clean
  -- either a closer ends the block early, and the closer put behind is read as a stray one,
  -- or an opener takes that closer, and the block is not closed
  cases counted : Token.openBlocks 0 false tokens with
  | none =>
      obtain ⟨front, early, behind, rfl, extent⟩ := Extent.scan_early inner counted
      obtain ⟨_, rfl⟩ := List.cons.inj stmts
      obtain ⟨_, rfl⟩ := List.append_eq_nil_iff.mp flaws
      have behindOpen : ∀ token ∈ behind, token.kind ≠ .finish :=
        fun token found => inner token (by simp [found])
      have extent : Extent.ofBody false _ = _ :=
        extent [closer.token .symbol "\x7d", finish]
      simp only [extent, Extent.behind, List.cons_append, List.tail_cons] at goesOn
      exact statements_stray behindOpen closes _ _ goesOn
  | some opened =>
      cases opened with
      | zero => exact unbalanced counted
      | succ opened =>
          have extent := Extent.ofBody_open inner counted closes ends
          simp [extent, Extent.missing] at flaws

theorem statements_separated {rest : List Token} {program : Program} {noted : List Recovery}
    (alone : Program.ofTokens ⟨false, capabilities⟩ rest = .ok (program, noted))
    (separator : Spot) (lastStop : Nat) :
    ∃ last, statements ⟨false, capabilities⟩
      ⟨Token.close (separator.token .symbol ";" :: rest), lastStop⟩ = .done program last noted := by
  obtain ⟨closed, closes, last, goesOn⟩ : ∃ closed,
      Token.close (separator.token .symbol ";" :: rest) = separator.token .symbol ";" :: closed ∧
        ∃ last, statements ⟨false, capabilities⟩ ⟨closed, separator.stop⟩ =
          .done program last noted := by
    obtain ⟨last, read⟩ := statements_of_ofTokens alone
    cases rest with
    | nil =>
        rw [statements_atEnd rfl] at read
        obtain ⟨rfl, _, rfl⟩ := Reading.done.inj read
        exact ⟨_, rfl, _, statements_atEnd rfl _⟩
    | cons first rest =>
        exact ⟨_, Token.close_append [_] (List.cons_ne_nil first rest),
          statements_behind read separator.stop⟩
  rw [closes]
  exact ⟨last, statements_cons rfl (statement_separator _ rfl) (Cursor.advance_shorter _ rfl)
    goesOn⟩

/-- A program that is read without a note is the same program inside braces, and nothing behind
the braces is read otherwise, if and only if its tokens are balanced. -/
theorem wrapped_alike_iff_balanced (wrapper : Wrapper) (closer : Spot)
    (inner : ∀ token ∈ tokens, token.kind ≠ .finish)
    (clean : Program.ofTokens ⟨false, capabilities⟩ tokens = .ok (body, [])) :
    (Program.ofTokens ⟨false, capabilities⟩ (wrapper.around closer tokens) =
        .ok ([wrapper.stmt body], []) ∧
      ∀ (separator : Spot) (rest : List Token) (program : Program) (noted : List Recovery),
        Program.ofTokens ⟨false, capabilities⟩ rest = .ok (program, noted) →
          Program.ofTokens ⟨false, capabilities⟩
              (wrapper.around closer tokens ++ separator.token .symbol ";" :: rest) =
            .ok (wrapper.stmt body :: program, noted)) ↔
      Token.Balanced tokens := by
  have closes : (closer.token .symbol "\x7d").keyword? = some .blockClose :=
    Keyword.ofSpelling?_blockClose
  constructor
  · rintro ⟨alike, _⟩
    -- an unbalanced body is cut early, or runs over the closer that was meant for it
    by_contra unbalanced
    obtain ⟨finish, ends, closed⟩ := Token.close_open (wrapper.around_open closer inner)
    obtain ⟨last, read⟩ := statements_of_ofTokens alike
    rw [closed] at read
    exact statements_around_unbalanced wrapper closer inner unbalanced ends last read
  · intro balanced
    constructor
    · obtain ⟨finish, ends, closed⟩ := Token.close_open (wrapper.around_open closer inner)
      have goesOn : statements ⟨false, capabilities⟩ ⟨[finish], closer.stop⟩ = .done [] _ [] :=
        statements_atEnd (by simp [Cursor.atEnd, ends]) _
      have wrapped := statements_around wrapper closer inner balanced clean goesOn
      exact ofTokens_of_statements (closed ▸ wrapped)
    · intro separator rest program noted alone
      obtain ⟨_, goesOn⟩ := statements_separated alone separator closer.stop
      have wrapped := statements_around wrapper closer inner balanced clean goesOn
      rw [← Token.close_append _ (List.cons_ne_nil _ rest)] at wrapped
      exact ofTokens_of_statements wrapped

def nestedConditionals : List Token :=
  (Token.scan "                 if a then if b \x7b c \x7d end").dropLast

def functionInFront : Wrapper :=
  .function (.onFirstLine 0 8) (.onFirstLine 9 1) (.onFirstLine 11 1) (.onFirstLine 13 1)
    (.onFirstLine 15 1)

theorem nested_conditionals_in_function :
    ∃ body, Program.ofTokens ⟨false, .standard⟩ nestedConditionals = .ok (body, []) ∧
      Program.ofTokens ⟨false, .standard⟩
          (functionInFront.around (.onFirstLine 46 1) nestedConditionals) =
        .ok ([functionInFront.stmt body], []) := by
  obtain ⟨body, noted, read⟩ := ofTokens_lenient .standard nestedConditionals
  have quiet : (Program.ofTokens ⟨false, .standard⟩ nestedConditionals).toOption.map Prod.snd =
      some [] := by decide +kernel
  rw [read] at quiet
  obtain rfl := Option.some.inj quiet
  obtain ⟨open', balanced⟩ : (∀ token ∈ nestedConditionals, token.kind ≠ .finish) ∧
      Token.Balanced nestedConditionals := by decide +kernel
  exact ⟨body, read, ((wrapped_alike_iff_balanced _ _ open' read).mpr balanced).1⟩

def sharedChain : List Token :=
  (Token.scan "  if a then say 1 else if b then say 2 else say 3 end").dropLast

/-- In braces the chain is not closed. -/
theorem shared_chain_in_braces :
    ∃ body, Program.ofTokens ⟨false, .standard⟩ sharedChain = .ok (body, []) ∧
      Program.ofTokens ⟨false, .standard⟩
          ((Wrapper.block (.onFirstLine 0 1)).around (.onFirstLine 54 1) sharedChain) ≠
        .ok ([(Wrapper.block (.onFirstLine 0 1)).stmt body], []) := by
  obtain ⟨body, noted, read⟩ := ofTokens_lenient .standard sharedChain
  have quiet : (Program.ofTokens ⟨false, .standard⟩ sharedChain).toOption.map Prod.snd =
      some [] := by decide +kernel
  rw [read] at quiet
  obtain rfl := Option.some.inj quiet
  refine ⟨body, read, fun alike => ?_⟩
  have noted : (Program.ofTokens ⟨false, .standard⟩
      ((Wrapper.block (.onFirstLine 0 1)).around (.onFirstLine 54 1) sharedChain)).toOption.map
        Prod.snd ≠ some [] := by decide +kernel
  exact noted (by rw [alike]; rfl)

end Program

end Parlance
