import Parlance.Program
import Parlance.Decimal.Layout

/-!
The uniform view of programs: every statement and expression is a node with a kind, perhaps a
scalar, perhaps a second name, a place, and child nodes whose meaning is their position.
-/

namespace Parlance

inductive Node.Kind where
  | program | block | declaration | functionDefinition | call | conditional | loop | giveBack
  | output | assignment | binaryOp | unaryOp | identifier | literal | listLiteral | mapLiteral
  | index
  deriving DecidableEq, Repr, Inhabited

inductive Node where
  | mk (kind : Node.Kind) (scalar : Literal) (boundName : Option String) (place : Place)
      (children : List Node)

namespace Node

def Kind.name : Kind → String
  | .program => "program"
  | .block => "block"
  | .declaration => "declaration"
  | .functionDefinition => "function_definition"
  | .call => "call"
  | .conditional => "conditional"
  | .loop => "loop"
  | .giveBack => "return"
  | .output => "output"
  | .assignment => "assignment"
  | .binaryOp => "binary_op"
  | .unaryOp => "unary_op"
  | .identifier => "identifier"
  | .literal => "literal"
  | .listLiteral => "list_literal"
  | .mapLiteral => "map_literal"
  | .index => "index"

def kind : Node → Kind
  | .mk kind .. => kind

def scalar : Node → Literal
  | .mk _ scalar .. => scalar

def boundName : Node → Option String
  | .mk _ _ boundName .. => boundName

def place : Node → Place
  | .mk _ _ _ place _ => place

def children : Node → List Node
  | .mk _ _ _ _ children => children

/-- A node without scalar and second name. -/
def plain (kind : Kind) (place : Place) (children : List Node) : Node :=
  .mk kind .void none place children

def named (kind : Kind) (name : String) (place : Place) (children : List Node) : Node :=
  .mk kind (.text name) none place children

/-- The scalar of a node inside a text. -/
def scalarText : Literal → String
  | .void => ""
  | .boolean value => if value then "True" else "False"
  | .text value => value
  | .number value => Decimal.text value

mutual

/-- One line for a node: literals and names as they are, binary operations with the operator in
the middle, all else as its kind, its scalar and its children in parentheses. -/
def shape : Node → String
  | .mk .literal scalar _ _ _ =>
      match scalar with
      | .void => "void"
      | .boolean value => if value then "true" else "false"
      | .text value => "\"" ++ value ++ "\""
      | .number value => Decimal.brief value
  | .mk .identifier scalar _ _ _ => scalarText scalar
  | .mk .binaryOp scalar _ _ [left, right] =>
      "(" ++ left.shape ++ " " ++ scalarText scalar ++ " " ++ right.shape ++ ")"
  | .mk kind scalar _ _ children =>
      let head := match scalar with
        | .void => kind.name
        | scalar => kind.name ++ " " ++ scalarText scalar
      let inner := " ".intercalate (shapes children)
      if inner.isEmpty then "(" ++ head ++ ")" else "(" ++ head ++ " " ++ inner ++ ")"

def shapes : List Node → List String
  | [] => []
  | node :: rest => node.shape :: shapes rest

end

end Node

def Param.toNode (param : Param) : Node := .named .identifier param.name param.place []

mutual

def Expr.toNode : Expr → Node
  | .literal value place => .mk .literal value none place []
  | .ident name place => .named .identifier name place []
  | .call callee method arguments place =>
      .mk .call (.text callee) method place (Expr.toNodes arguments)
  | .binary op left right place => .named .binaryOp op.name place [left.toNode, right.toNode]
  | .unary op operand place => .named .unaryOp op.name place [operand.toNode]
  | .list items place => .plain .listLiteral place (Expr.toNodes items)
  | .map entries place => .plain .mapLiteral place (Expr.entryNodes entries)
  | .index target position place => .plain .index place [target.toNode, position.toNode]

def Expr.toNodes : List Expr → List Node
  | [] => []
  | expr :: rest => expr.toNode :: Expr.toNodes rest

/-- Keys and values in turn. -/
def Expr.entryNodes : List (MapKey × Expr) → List Node
  | [] => []
  | (key, value) :: rest =>
      .named .literal key.text key.place [] :: value.toNode :: Expr.entryNodes rest

end

namespace LoopHead

def name : LoopHead → String
  | .count _ => "count"
  | .guard _ => "while"
  | .each .. => "each"

def item? : LoopHead → Option String
  | .each item _ => item
  | _ => none

def expr : LoopHead → Expr
  | .count rounds => rounds
  | .guard condition => condition
  | .each _ items => items

end LoopHead

/-- The arguments of an output statement: the value, then the count. -/
def Stmt.outputArguments : Option (Expr × Option Expr) → List Expr
  | none => []
  | some (value, count) => value :: count.toList

mutual

def Stmt.toNode : Stmt → Node
  | .expression value => value.toNode
  | .block body place => .plain .block place (Stmt.toNodes body)
  | .declare name initial place =>
      .named .declaration name place (Expr.toNodes initial.toList)
  | .assign name value place => .named .assignment name place [value.toNode]
  | .define name byname params body bodyPlace place =>
      .mk .functionDefinition (.text (name.getD "")) byname place
        (params.map Param.toNode ++ [.plain .block bodyPlace (Stmt.toNodes body)])
  | .conditional guard body bodyPlace otherwise place =>
      .plain .conditional place
        (guard.toNode :: .plain .block bodyPlace (Stmt.toNodes body) :: otherwise.toNodes)
  | .loop head body bodyPlace place =>
      .mk .loop (.text head.name) head.item? place
        [head.expr.toNode, .plain .block bodyPlace (Stmt.toNodes body)]
  | .giveBack value place => .plain .giveBack place (Expr.toNodes value.toList)
  | .output what place => .plain .output place (Expr.toNodes (Stmt.outputArguments what))

def Stmt.toNodes : List Stmt → List Node
  | [] => []
  | stmt :: rest => stmt.toNode :: Stmt.toNodes rest

/-- The third child of a conditional, if there is one. -/
def Branch.toNodes : Branch → List Node
  | .absent => []
  | .block body place => [.plain .block place (Stmt.toNodes body)]
  | .conditional guard body bodyPlace otherwise place =>
      [.plain .conditional place
        (guard.toNode :: .plain .block bodyPlace (Stmt.toNodes body) :: otherwise.toNodes)]

end

def Program.toNode (program : Program) : Node := .plain .program .start (Stmt.toNodes program)

def Expr.kind : Expr → Node.Kind
  | .literal .. => .literal
  | .ident .. => .identifier
  | .call .. => .call
  | .binary .. => .binaryOp
  | .unary .. => .unaryOp
  | .list .. => .listLiteral
  | .map .. => .mapLiteral
  | .index .. => .index

/-- Kind and place of the node of a statement; an expression has no other than its own. -/
def Stmt.head? : Stmt → Option (Node.Kind × Place)
  | .expression _ => none
  | .block _ place => some (.block, place)
  | .declare _ _ place => some (.declaration, place)
  | .assign _ _ place => some (.assignment, place)
  | .define _ _ _ _ _ place => some (.functionDefinition, place)
  | .conditional _ _ _ _ place => some (.conditional, place)
  | .loop _ _ _ place => some (.loop, place)
  | .giveBack _ place => some (.giveBack, place)
  | .output _ place => some (.output, place)

theorem Expr.kind_toNode (expr : Expr) : expr.toNode.kind = expr.kind := by
  cases expr <;> rfl

theorem Expr.place_toNode (expr : Expr) : expr.toNode.place = expr.place := by
  cases expr <;> rfl

theorem Stmt.head_toNode {stmt : Stmt} {kind : Node.Kind} {place : Place}
    (head : stmt.head? = some (kind, place)) :
    stmt.toNode.kind = kind ∧ stmt.toNode.place = place := by
  cases stmt <;> cases head <;> exact ⟨rfl, rfl⟩

theorem Expr.toNodes_eq_map (exprs : List Expr) : Expr.toNodes exprs = exprs.map Expr.toNode := by
  induction exprs with
  | nil => rfl
  | cons expr rest ih => simp [Expr.toNodes, ih]

theorem Stmt.toNodes_eq_map (stmts : List Stmt) : Stmt.toNodes stmts = stmts.map Stmt.toNode := by
  induction stmts with
  | nil => rfl
  | cons stmt rest ih => simp [Stmt.toNodes, ih]

end Parlance
