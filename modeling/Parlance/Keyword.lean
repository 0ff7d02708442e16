import Parlance.Unicode.Lower

/-!
Keywords. Every concept of the grammar has one canonical keyword and any number of spellings;
whatever reads a program asks only for the canonical keyword of a spelling.
-/

namespace Parlance

inductive Keyword where
  | declare | function | call | conditional | otherwise | elseIf | loop | whileLoop | each | within
  | giveBack | output | assign
  | assignOp | bind | blockOpen | blockClose
  | add | sub | mul | div | mod
  | eq | ne | gt | lt | ge | le
  | and | or | not
  | true | false | void | typeWord
  deriving DecidableEq, Repr, Inhabited

namespace Keyword

/-- The keywords in the order of the reference table. -/
def all : List Keyword :=
  [.declare, .function, .call, .conditional, .otherwise, .elseIf, .loop, .whileLoop, .each, .within,
    .giveBack, .output, .assign, .assignOp, .bind, .blockOpen, .blockClose, .add, .sub, .mul, .div,
    .mod, .eq, .ne, .gt, .lt, .ge, .le, .and, .or, .not, .true, .false, .void, .typeWord]

def name : Keyword → String
  | .declare => "declare"
  | .function => "function"
  | .call => "call"
  | .conditional => "if"
  | .otherwise => "else"
  | .elseIf => "elif"
  | .loop => "loop"
  | .whileLoop => "while"
  | .each => "each"
  | .within => "in"
  | .giveBack => "return"
  | .output => "output"
  | .assign => "assign"
  | .assignOp => "assign_op"
  | .bind => "bind"
  | .blockOpen => "block_open"
  | .blockClose => "block_close"
  | .add => "add"
  | .sub => "sub"
  | .mul => "mul"
  | .div => "div"
  | .mod => "mod"
  | .eq => "eq"
  | .ne => "ne"
  | .gt => "gt"
  | .lt => "lt"
  | .ge => "ge"
  | .le => "le"
  | .and => "and"
  | .or => "or"
  | .not => "not"
  | .true => "true"
  | .false => "false"
  | .void => "void"
  | .typeWord => "type"

def ofName? (name : String) : Option Keyword := all.find? fun keyword => keyword.name = name

def spellings : Keyword → List String
  | .declare =>
      ["form", "let", "var", "const", "create", "make", "declare", "define", "init", "new",
        "variable"]
  | .function => ["act", "def", "fn", "func", "function", "method", "procedure", "routine"]
  | .call => ["call", "invoke", "run", "perform"]
  | .conditional => ["if", "when", "whenever", "provided", "assuming", "given", "conditional"]
  | .otherwise => ["else", "otherwise"]
  | .elseIf => ["elif", "elseif", "elsif"]
  | .loop => ["loop", "repeat", "for", "iterate"]
  | .whileLoop => ["while", "whilst"]
  | .each => ["each", "foreach", "every"]
  | .within => ["in", "of"]
  | .giveBack => ["give", "return", "yield", "produce"]
  | .output => ["say", "print", "output", "display", "log", "echo", "show", "write"]
  | .assign => ["set", "put", "assign", "update", "change", "store"]
  | .assignOp => ["=", "from", "is", "be", "becomes", "to", "into", "gets"]
  | .bind => ["as", "aka", "alias"]
  | .blockOpen => ["\x7b", "do", "then", "begin"]
  | .blockClose => ["\x7d", "end", "finish", "done"]
  | .add => ["+", "plus"]
  | .sub => ["-", "minus"]
  | .mul => ["*", "times", "mul"]
  | .div => ["/", "div", "divided_by", "per"]
  | .mod => ["%", "mod", "modulo", "remainder"]
  | .eq => ["==", "same", "equals", "eq", "matches"]
  | .ne => ["!=", "differs", "ne", "isnt", "not_same"]
  | .gt => [">", "over", "above", "greater", "gt", "exceeds"]
  | .lt => ["<", "under", "below", "less", "lt"]
  | .ge => [">=", "atleast", "ge"]
  | .le => ["<=", "atmost", "le"]
  | .and => ["and", "&&"]
  | .or => ["or", "||"]
  | .not => ["not", "!"]
  | .true => ["true", "yes"]
  | .false => ["false", "no"]
  | .void => ["void", "null", "nothing", "none", "nil"]
  | .typeWord => ["num", "number", "text", "string", "bool", "boolean", "list", "map"]

def spellingTable : List (String × Keyword) :=
  all.flatMap fun keyword => keyword.spellings.map fun spelling => (spelling, keyword)

/-- The keyword of a spelling in any letter case. -/
def ofSpelling? (spelling : String) : Option Keyword :=
  spellingTable.lookup (Unicode.lower spelling)

/-- Spellings that are words; the others are symbols. -/
def wordSpellings : List String :=
  (spellingTable.map Prod.fst).filter fun spelling =>
    spelling.toList.head?.any fun c => c.isAlpha || c = '_'

/-- The word, as it is spelled, is a keyword. -/
def isWordSpelling (word : String) : Bool := wordSpellings.contains word

/-- Keywords that begin a statement; an expression never runs past one. -/
def startsStatement : Keyword → Bool
  | .declare | .function | .call | .conditional | .loop | .whileLoop | .each | .giveBack | .output
  | .assign => Bool.true
  | _ => Bool.false

end Keyword

/-- Words that stand for a number, in lower case. -/
def numberWords : List (String × Float) :=
  [("zero", 0), ("one", 1), ("two", 2), ("three", 3), ("four", 4), ("five", 5), ("six", 6),
    ("seven", 7), ("eight", 8), ("nine", 9), ("ten", 10), ("eleven", 11), ("twelve", 12),
    ("thirteen", 13), ("fourteen", 14), ("fifteen", 15), ("sixteen", 16), ("seventeen", 17),
    ("eighteen", 18), ("nineteen", 19), ("twenty", 20), ("thirty", 30), ("forty", 40),
    ("fifty", 50), ("sixty", 60), ("seventy", 70), ("eighty", 80), ("ninety", 90),
    ("hundred", 100), ("thousand", 1000), ("million", 1000000), ("four_zero_zero_zero", 4000),
    ("four_g", 4294967296)]

def numberWord? (word : String) : Option Float := numberWords.lookup (Unicode.lower word)

end Parlance
