import Parlance.Place
import Parlance.Text.Quoted

/-!
Recoveries. Where a program breaks the grammar, a lenient reader notes the flaw and goes on; a
strict one stops at the first. A flaw is the cause, with what its message names.
-/

namespace Parlance.Grammar

/-- Kinds of recovery, as reports name them. -/
inductive Recovery.Kind where
  | missingBlockOpen | missingAssignOp | unclosedBlock | unexpectedToken | strayDelimiter
  | missingName | missingCloseParen
  deriving DecidableEq, Repr, Inhabited

def Recovery.Kind.name : Recovery.Kind → String
  | .missingBlockOpen => "missing_block_open"
  | .missingAssignOp => "missing_assign_op"
  | .unclosedBlock => "unclosed_block"
  | .unexpectedToken => "unexpected_token"
  | .strayDelimiter => "stray_delimiter"
  | .missingName => "missing_name"
  | .missingCloseParen => "missing_close_paren"

/-- What a name was expected for. -/
inductive Named where
  | declaration | assignment | function | byname | loopItem
  deriving DecidableEq, Repr

def Named.text : Named → String
  | .declaration => "declaration"
  | .assignment => "assignment"
  | .function => "function"
  | .byname => "alias"
  | .loopItem => "loop item"

/-- What a block was expected after. -/
inductive Head where
  | condition | otherwise | function | loopCount | loopGuard | each
  deriving DecidableEq, Repr

def Head.text : Head → String
  | .condition => "condition"
  | .otherwise => "'else'"
  | .function => "function head"
  | .loopCount => "loop count"
  | .loopGuard => "while condition"
  | .each => "each head"

/-- What a closing bracket was expected for. -/
inductive Bracket where
  | index | arguments | group | list | map
  deriving DecidableEq, Repr

def Bracket.text : Bracket → String
  | .index => "']' after index"
  | .arguments => "')' to close arguments"
  | .group => "')'"
  | .list => "']' to close list"
  | .map => "'\x7d' to close map"

/-- Where a token was not expected. -/
inductive Inside where
  | arguments | list | map
  deriving DecidableEq, Repr

def Inside.text : Inside → String
  | .arguments => "arguments"
  | .list => "list"
  | .map => "map"

inductive Flaw where
  | blockExpected (after : Head)
  | blockNotClosed
  | operatorExpected (name : String)
  | targetExpected
  | nameExpected (role : Named)
  | calleeExpected
  | expressionExpected (got : String)
  | bracketExpected (bracket : Bracket)
  | unexpected (lexeme : String)
  | unexpectedIn (lexeme : String) (place : Inside)
  | colonExpected (key : String)
  | itemWordExpected
  | parameterExpected (got : String)
  | strayCloser (lexeme : String)
  | elseWithoutIf (lexeme : String)
  | skipped (lexeme : String)
  deriving DecidableEq, Repr

namespace Flaw

def kind : Flaw → Recovery.Kind
  | .blockExpected _ => .missingBlockOpen
  | .blockNotClosed => .unclosedBlock
  | .operatorExpected _ | .targetExpected => .missingAssignOp
  | .nameExpected _ | .calleeExpected => .missingName
  | .bracketExpected _ => .missingCloseParen
  | .strayCloser _ => .strayDelimiter
  | .expressionExpected _ | .unexpected _ | .unexpectedIn .. | .colonExpected _
  | .itemWordExpected | .parameterExpected _ | .elseWithoutIf _ | .skipped _ => .unexpectedToken

def message : Flaw → String
  | .blockExpected after => "Expected a block after " ++ after.text
  | .blockNotClosed => "Block not closed before end of input"
  | .operatorExpected name => "Expected an assignment operator after " ++ Text.quoted name
  | .targetExpected => "Expected 'into' after value"
  | .nameExpected role => "Expected a name for " ++ role.text
  | .calleeExpected => "Expected a name after 'call'"
  | .expressionExpected got => "Expected an expression, got " ++ Text.quoted got
  | .bracketExpected bracket => "Expected " ++ bracket.text
  | .unexpected lexeme => "Unexpected " ++ Text.quoted lexeme
  | .unexpectedIn lexeme place => "Unexpected " ++ Text.quoted lexeme ++ " in " ++ place.text
  | .colonExpected key => "Expected ':' after map key " ++ Text.quoted key
  | .itemWordExpected => "Expected 'in' after loop item"
  | .parameterExpected got => "Parameter must be a name, got " ++ got
  | .strayCloser lexeme => "Stray " ++ Text.quoted lexeme
  | .elseWithoutIf lexeme => Text.quoted lexeme ++ " without 'if'"
  | .skipped lexeme => "Skipping " ++ Text.quoted lexeme

end Flaw

structure Recovery where
  flaw : Flaw
  place : Place
  deriving DecidableEq, Repr

namespace Recovery

def kind (recovery : Recovery) : Kind := recovery.flaw.kind

def message (recovery : Recovery) : String := recovery.flaw.message

def text (recovery : Recovery) : String :=
  toString recovery.place.line ++ ":" ++ toString recovery.place.column ++ " " ++
    recovery.kind.name ++ ": " ++ recovery.message

end Recovery

end Parlance.Grammar
