import Parlance.Grammar.Block
import Parlance.Grammar.Expression
import Parlance.Program.Node

/-!
Statements. The canonical keyword at the cursor decides which statement begins; whatever else can
begin an expression is an expression statement. The body of a block is read as a token list of
its own, by the rule for statement lists that the rules here take as a parameter.
-/

namespace Parlance.Grammar

open Rule

def nameFor (role : Named) : Rule (Option Token) := do
  let cursor ← here
  if cursor.current.isName then
    let name ← next
    pure (some name)
  else
    recover (.nameExpected role)
    pure none

/-- A block as it was read: its statements, where it opened, and what ended it. -/
structure Block where
  body : List Stmt
  place : Place
  closer : Closer

/-- The cursor behind a block whose body begins behind `lastStop`. -/
def Extent.behind (extent : Extent) (lastStop : Nat) : Cursor :=
  match extent.closer with
  | .closed => ⟨extent.rest.tail, extent.boundary.stop⟩
  | .otherwise | .endOfInput => ⟨extent.rest, lastStop⟩

def leaveBlock (extent : Extent) (lastStop : Nat) : Rule Unit := do
  goTo (extent.behind lastStop)
  if extent.closer = .endOfInput then recover .blockNotClosed else pure ()

/-- The body of a block whose opener is read already; `opener` is the token it starts with. -/
def blockBody (statements : Rule (List Stmt)) (stopAtElse : Bool) (opener : Token) :
    Rule Block := do
  let cursor ← here
  let extent := Extent.ofBody stopAtElse cursor.rest
  let body ← within extent.closedBody statements
  leaveBlock extent cursor.lastStop
  pure ⟨body, opener.place, extent.closer⟩

/-- A block from its opener on. A word and a brace right after it open one block together. -/
def block (statements : Rule (List Stmt)) (stopAtElse : Bool) : Rule Block := do
  let opener ← next
  if opener.kind = .keyword then
    let _ ← acceptSymbol "\x7b"
    blockBody statements stopAtElse opener
  else blockBody statements stopAtElse opener

/-- A block, or an empty one in its place and a note that it is missing. -/
def blockAfter (statements : Rule (List Stmt)) (head : Token) (what : Head) : Rule Block := do
  let cursor ← here
  if cursor.isAt .blockOpen then block statements false
  else
    recover (.blockExpected what)
    pure ⟨[], head.place, .closed⟩

/-- A declaration, perhaps with a type word. Without a word of assignment nothing is assigned, and
an expression on the same line is a statement of its own. -/
def declaration : Rule (Option Stmt) := do
  let head ← next
  let cursor ← here
  if cursor.isAt .typeWord && (cursor.ahead 1).isName then
    let _ ← next
    declared head
  else declared head
where
  declared (head : Token) : Rule (Option Stmt) := do
    match ← nameFor .declaration with
    | none => pure none
    | some name =>
        if ← accept .assignOp then
          let initial ← expression
          pure (some (.declare name.lexeme (some initial) head.place))
        else
          let cursor ← here
          if cursor.current.startsExpression && cursor.isOnLine name.line then
            recover (.operatorExpected name.lexeme)
            pure (some (.declare name.lexeme none head.place))
          else pure (some (.declare name.lexeme none head.place))

/-- The word that puts the value before the name. -/
def putsValueFirst (head : Token) : Bool := Unicode.lower head.lexeme = "put"

/-- An assignment: the name first, or, after `put`, the value first. -/
def assignment : Rule (Option Stmt) := do
  let head ← next
  if putsValueFirst head then
    let value ← expression
    if ← accept .assignOp then
      match ← nameFor .assignment with
      | some name => pure (some (.assign name.lexeme value head.place))
      | none => pure none
    else
      recover .targetExpected
      pure none
  else
    match ← nameFor .assignment with
    | some name =>
        if ← accept .assignOp then
          let value ← expression
          pure (some (.assign name.lexeme value head.place))
        else
          recover (.operatorExpected name.lexeme)
          pure none
    | none => pure none

def bareAssignment : Rule Stmt := do
  let name ← next
  let _ ← next
  let value ← expression
  pure (.assign name.lexeme value name.place)

def parameters : List Expr → Rule (List Param)
  | [] => pure []
  | .ident name place :: rest => do
      let more ← parameters rest
      pure (⟨name, place⟩ :: more)
  | other :: rest => do
      recover (.parameterExpected other.toNode.shape)
      parameters rest

def bareParameters : Rule (List Param) :=
  tie (fun _ => pure []) round ()
where
  round (self : Unit → Rule (List Param)) (_ : Unit) : Rule (List Param) := do
    let cursor ← here
    if cursor.current.isName then
      let name ← next
      let more ← self ()
      pure (⟨name.lexeme, name.place⟩ :: more)
    else pure []

def parameterList : Rule (List Param) := do
  let cursor ← here
  if cursor.isAtSymbol "(" then
    let arguments ← parenArguments expression
    parameters arguments
  else bareParameters

def aliasName : Rule (Option String) := do
  if ← accept .bind then
    let name ← nameFor .byname
    pure (name.map (·.lexeme))
  else pure none

def definition (statements : Rule (List Stmt)) : Rule Stmt := do
  let head ← next
  let name ← nameFor .function
  let params ← parameterList
  let byname ← aliasName
  let body ← blockAfter statements head .function
  pure (.define (name.map (·.lexeme)) byname params body.body body.place head.place)

/-- A conditional as it was read; it is a statement, or a branch of another. -/
structure Conditional where
  guard : Expr
  body : List Stmt
  bodyPlace : Place
  otherwise : Branch
  place : Place

def Conditional.stmt (c : Conditional) : Stmt :=
  .conditional c.guard c.body c.bodyPlace c.otherwise c.place

def Conditional.branch (c : Conditional) : Branch :=
  .conditional c.guard c.body c.bodyPlace c.otherwise c.place

/-- The head of a further conditional after a word for "else", if one begins: the word itself, or
a word for "if" behind it. -/
def furtherHead? (word : Token) : Rule (Option Token) := do
  let cursor ← here
  if word.keyword? = some .elseIf then pure (some word)
  else if cursor.isAt .conditional then
    let head ← next
    pure (some head)
  else pure none

/-- What follows a body that a word for "else" ended. One closer ends the whole chain. -/
def sharedBranch (statements : Rule (List Stmt)) : Rule Branch :=
  tie (fun _ => pure .absent) round ()
where
  round (self : Unit → Rule Branch) (_ : Unit) : Rule Branch := do
    let word ← next
    match ← furtherHead? word with
    | some head =>
        let guard ← expression
        let _ ← accept .blockOpen
        let body ← blockBody statements true head
        if body.closer = .otherwise then
          let otherwise ← self ()
          pure (.conditional guard body.body body.place otherwise head.place)
        else pure (.conditional guard body.body body.place .absent head.place)
    | none =>
        let body ← blockBody statements false word
        pure (.block body.body body.place)

def conditionalTail (statements : Rule (List Stmt)) : Token × Expr → Rule Conditional :=
  tie (fun (head, guard) => pure ⟨guard, [], head.place, .absent, head.place⟩) round
where
  round (self : Token × Expr → Rule Conditional) : Token × Expr → Rule Conditional
    | (head, guard) => do
        let cursor ← here
        if cursor.isAt .blockOpen then
          let body ← block statements true
          if body.closer = .otherwise then
            let otherwise ← sharedBranch statements
            pure ⟨guard, body.body, body.place, otherwise, head.place⟩
          else
            let otherwise ← ownBranch self
            pure ⟨guard, body.body, body.place, otherwise, head.place⟩
        else
          recover (.blockExpected .condition)
          pure ⟨guard, [], head.place, .absent, head.place⟩
  /-- What follows a body with a closer of its own. -/
  ownBranch (self : Token × Expr → Rule Conditional) : Rule Branch := do
    let cursor ← here
    if cursor.isAt .otherwise || cursor.isAt .elseIf then
      let word ← next
      match ← furtherHead? word with
      | some head =>
          let guard ← expression
          let further ← self (head, guard)
          pure further.branch
      | none =>
          let cursor ← here
          if cursor.isAt .blockOpen then
            let body ← block statements false
            pure (.block body.body body.place)
          else
            recover (.blockExpected .otherwise)
            pure .absent
    else pure .absent

def conditional (statements : Rule (List Stmt)) : Rule Stmt := do
  let head ← next
  let guard ← expression
  let read ← conditionalTail statements (head, guard)
  pure read.stmt

/-- The rest of an each loop behind its head. -/
def eachTail (statements : Rule (List Stmt)) (head : Token) : Rule Stmt := do
  let item ← nameFor .loopItem
  if ← accept .within then eachBody item
  else
    recover .itemWordExpected
    eachBody item
where
  eachBody (item : Option Token) : Rule Stmt := do
    let list ← expression
    let body ← blockAfter statements head .each
    pure (.loop (.each (item.map (·.lexeme)) list) body.body body.place head.place)

def eachLoop (statements : Rule (List Stmt)) : Rule Stmt := do
  let head ← next
  eachTail statements head

def guardLoop (statements : Rule (List Stmt)) : Rule Stmt := do
  let head ← next
  let guard ← expression
  let body ← blockAfter statements head .loopGuard
  pure (.loop (.guard guard) body.body body.place head.place)

def loop (statements : Rule (List Stmt)) : Rule Stmt := do
  let head ← next
  let cursor ← here
  if cursor.isAt .whileLoop then guardLoop statements
  else if cursor.isAt .each then eachLoop statements
  else if cursor.current.isName && (cursor.ahead 1).keyword? = some .within then
    eachTail statements head
  else
    let rounds ← expression
    let _ ← accept .mul
    let body ← blockAfter statements head .loopCount
    pure (.loop (.count rounds) body.body body.place head.place)

def giveBack : Rule Stmt := do
  let head ← next
  let cursor ← here
  if cursor.current.startsExpression && cursor.isOnLine head.line then
    let value ← expression
    pure (.giveBack (some value) head.place)
  else pure (.giveBack none head.place)

/-- The parenthesis that closes those of the tokens, and what follows it. -/
def closingParen? (depth : Nat) : List Token → Option (Token × List Token)
  | [] => none
  | token :: rest =>
      if token.isSymbol "(" then closingParen? (depth + 1) rest
      else if token.isSymbol ")" then
        if depth ≤ 1 then some (token, rest) else closingParen? (depth - 1) rest
      else closingParen? depth rest

/-- The parentheses at the cursor hold all of the output: something ends behind them, or the line
does. -/
def Cursor.atOutputParens (cursor : Cursor) : Bool :=
  cursor.isAtSymbol "(" &&
    match closingParen? 0 cursor.rest with
    | none => false
    | some (close, []) => close.isBoundary
    | some (close, after :: _) => after.isBoundary || after.line ≠ close.line

/-- At most two arguments without parentheses. -/
def outputArguments (head : Token) : Rule (List Expr) := do
  match ← argument? expression head.line with
  | none => pure []
  | some first =>
      match ← argument? expression head.line with
      | none => pure [first]
      | some second => pure [first, second]

/-- Of two arguments a number literal in front of anything else is the count. -/
def outputOf : List Expr → Option (Expr × Option Expr)
  | [] => none
  | [value] => some (value, none)
  | first :: second :: _ =>
      if first.isNumber && !second.isNumber then some (second, some first)
      else some (first, some second)

def output : Rule Stmt := do
  let head ← next
  let cursor ← here
  if cursor.atOutputParens then
    let arguments ← parenArguments expression
    pure (.output (outputOf arguments) head.place)
  else
    let arguments ← outputArguments head
    pure (.output (outputOf arguments) head.place)

/-- What a statement may begin as. -/
inductive Lead where
  | declaration | definition | conditional | loop | whileLoop | each | giveBack | output
  | assignment | block | closer | otherwise | plain
  deriving DecidableEq, Repr, Inhabited

/-- What the token begins as the first one of a statement. -/
def lead (token : Token) : Lead :=
  match token.keyword? with
  | some .declare => .declaration
  | some .function => .definition
  | some .conditional => .conditional
  | some .loop => .loop
  | some .whileLoop => .whileLoop
  | some .each => .each
  | some .giveBack => .giveBack
  | some .output => .output
  | some .assign => .assignment
  | some .blockOpen => .block
  | some .blockClose => .closer
  | some .otherwise | some .elseIf => .otherwise
  | _ => .plain

/-- A token that no statement begins with is noted and passed. -/
def passOver (flaw : String → Flaw) : Rule (Option Stmt) := do
  let cursor ← here
  recover (flaw cursor.current.lexeme)
  let _ ← next
  pure none

/-- A statement that no keyword announces; nothing if only a separator or junk was read. -/
def plainStatement : Rule (Option Stmt) := do
  let cursor ← here
  let token := cursor.current
  if token.isSymbol ";" || token.isSymbol "," then
    let _ ← next
    pure none
  else if token.kind = .identifier && (cursor.ahead 1).keyword? = some .assignOp then
    some <$> bareAssignment
  else if token.startsExpression then
    let value ← expression
    pure (some (.expression value))
  else passOver .unexpected

def statement (statements : Rule (List Stmt)) : Rule (Option Stmt) := do
  let cursor ← here
  match lead cursor.current with
  | .declaration => declaration
  | .definition => some <$> definition statements
  | .conditional => some <$> conditional statements
  | .loop => some <$> loop statements
  | .whileLoop => some <$> guardLoop statements
  | .each => some <$> eachLoop statements
  | .giveBack => some <$> giveBack
  | .output => some <$> output
  | .assignment => assignment
  | .block =>
      let read ← block statements false
      pure (some (.block read.body read.place))
  | .closer => passOver .strayCloser
  | .otherwise => passOver .elseWithoutIf
  | .plain => plainStatement

def statements : Rule (List Stmt) :=
  tie (fun _ => noStatement) round ()
where
  round (self : Unit → Rule (List Stmt)) (_ : Unit) : Rule (List Stmt) := do
    let cursor ← here
    if cursor.atEnd then pure []
    else
      let first ← statement (self ())
      let more ← self ()
      pure (first.toList ++ more)
  /-- What is read where a statement took no token. -/
  noStatement : Rule (List Stmt) := do
    let cursor ← here
    recover (.skipped cursor.current.lexeme)
    pure []

end Grammar

/-- The program that the tokens spell, with the recoveries on the way; under a strict mode the
first flaw refuses it. -/
def Program.ofTokens (mode : Grammar.Mode) (tokens : List Token) :
    Except Grammar.Recovery (Program × List Grammar.Recovery) :=
  match Grammar.statements mode (.ofTokens (Token.close tokens)) with
  | .done program _ recoveries => .ok (program, recoveries)
  | .refused first => .error first

end Parlance
