import Parlance.Proofs.Printing.Item

/-!
Programs to be printed: sentences whose bodies stand in braces, over terms that have parentheses
around every operation. Each has the items it is printed as and the statement it denotes.
-/

namespace Parlance

mutual

def Expr.unplaced : Expr → Expr
  | .literal value _ => .literal value .start
  | .ident name _ => .ident name .start
  | .call callee method arguments _ => .call callee method (Expr.unplacedAll arguments) .start
  | .binary op left right _ => .binary op left.unplaced right.unplaced .start
  | .unary op operand _ => .unary op operand.unplaced .start
  | .list items _ => .list (Expr.unplacedAll items) .start
  | .map entries _ => .map (Expr.unplacedEntries entries) .start
  | .index target position _ => .index target.unplaced position.unplaced .start

def Expr.unplacedAll : List Expr → List Expr
  | [] => []
  | expr :: rest => expr.unplaced :: Expr.unplacedAll rest

def Expr.unplacedEntries : List (MapKey × Expr) → List (MapKey × Expr)
  | [] => []
  | (key, value) :: rest => (⟨key.text, .start⟩, value.unplaced) :: Expr.unplacedEntries rest

end

def LoopHead.unplaced : LoopHead → LoopHead
  | .count rounds => .count rounds.unplaced
  | .guard condition => .guard condition.unplaced
  | .each item items => .each item items.unplaced

def Param.unplaced (param : Param) : Param := ⟨param.name, .start⟩

mutual

def Stmt.unplaced : Stmt → Stmt
  | .expression value => .expression value.unplaced
  | .block body _ => .block (Stmt.unplacedAll body) .start
  | .declare name initial _ => .declare name (initial.map Expr.unplaced) .start
  | .assign name value _ => .assign name value.unplaced .start
  | .define name byname params body _ _ =>
      .define name byname (params.map Param.unplaced) (Stmt.unplacedAll body) .start .start
  | .conditional guard body _ otherwise _ =>
      .conditional guard.unplaced (Stmt.unplacedAll body) .start otherwise.unplaced .start
  | .loop head body _ _ => .loop head.unplaced (Stmt.unplacedAll body) .start .start
  | .giveBack value _ => .giveBack (value.map Expr.unplaced) .start
  | .output what _ =>
      .output (what.map fun (value, count) => (value.unplaced, count.map Expr.unplaced)) .start

def Stmt.unplacedAll : List Stmt → List Stmt
  | [] => []
  | stmt :: rest => stmt.unplaced :: Stmt.unplacedAll rest

def Branch.unplaced : Branch → Branch
  | .absent => .absent
  | .block body _ => .block (Stmt.unplacedAll body) .start
  | .conditional guard body _ otherwise _ =>
      .conditional guard.unplaced (Stmt.unplacedAll body) .start otherwise.unplaced .start

end

namespace Printing

variable {capabilities : Capabilities}

/-- Literals, names, and binary operations in parentheses. -/
inductive Term (capabilities : Capabilities) where
  | number (numeral : Numeral)
  | text (content : String)
  | boolean (value : Bool)
  | nothing
  | name (name : Name capabilities)
  | binary (op : BinaryOp) (left right : Term capabilities)

mutual

/-- Statements; what is in a body stands in braces. -/
inductive Sentence (capabilities : Capabilities) where
  | declare (name : Name capabilities) (value : Term capabilities)
  | assign (name : Name capabilities) (value : Term capabilities)
  | say (value : Term capabilities)
  | giveBack (value : Term capabilities)
  | expression (value : Term capabilities)
  | block (body : Body capabilities)
  | loop (rounds : Term capabilities) (body : Body capabilities)
  | whileLoop (guard : Term capabilities) (body : Body capabilities)
  | each (item : Name capabilities) (list : Term capabilities) (body : Body capabilities)
  | function (name : Name capabilities) (params : List (Name capabilities))
      (body : Body capabilities)
  | conditional (guard : Term capabilities) (body : Body capabilities)
      (otherwise : Otherwise capabilities)

/-- Sentences, each with a semicolon behind it. -/
inductive Body (capabilities : Capabilities) where
  | nil
  | cons (first : Sentence capabilities) (rest : Body capabilities)

inductive Otherwise (capabilities : Capabilities) where
  | absent
  | block (body : Body capabilities)
  | conditional (guard : Term capabilities) (body : Body capabilities)
      (otherwise : Otherwise capabilities)

end

/-! ### Items -/

def Term.items : Term capabilities → List (Item capabilities)
  | .number numeral => [.number numeral]
  | .text content => [.text content]
  | .boolean value => [.fixed (if value then .yes else .no)]
  | .nothing => [.fixed .nothing]
  | .name word => [.name word]
  | .binary op left right =>
      .fixed .openParen ::
        (left.items ++ .fixed (.binary op) :: (right.items ++ [.fixed .closeParen]))

def listed : List (Name capabilities) → List (Item capabilities)
  | [] => []
  | [name] => [.name name]
  | name :: rest => .name name :: .fixed .comma :: listed rest

def braced (items : List (Item capabilities)) : List (Item capabilities) :=
  .fixed .openBrace :: (items ++ [.fixed .closeBrace])

mutual

def Sentence.items : Sentence capabilities → List (Item capabilities)
  | .declare name value => .fixed .declare :: .name name :: .fixed .gets :: value.items
  | .assign name value => .fixed .assign :: .name name :: .fixed .gets :: value.items
  | .say value => .fixed .say :: .fixed .openParen :: (value.items ++ [.fixed .closeParen])
  | .giveBack value => .fixed .giveBack :: value.items
  | .expression value => .fixed .openParen :: (value.items ++ [.fixed .closeParen])
  | .block body => braced body.items
  | .loop rounds body => .fixed .loop :: (rounds.items ++ braced body.items)
  | .whileLoop guard body => .fixed .whileLoop :: (guard.items ++ braced body.items)
  | .each item list body =>
      .fixed .each :: .name item :: .fixed .within :: (list.items ++ braced body.items)
  | .function name params body =>
      .fixed .function :: .name name :: .fixed .openParen ::
        (listed params ++ .fixed .closeParen :: braced body.items)
  | .conditional guard body otherwise =>
      .fixed .conditional :: (guard.items ++ (braced body.items ++ otherwise.items))

def Body.items : Body capabilities → List (Item capabilities)
  | .nil => []
  | .cons first rest => first.items ++ .fixed .semicolon :: rest.items

def Otherwise.items : Otherwise capabilities → List (Item capabilities)
  | .absent => []
  | .block body => .fixed .otherwise :: braced body.items
  | .conditional guard body otherwise =>
      .fixed .otherwise :: .fixed .conditional ::
        (guard.items ++ (braced body.items ++ otherwise.items))

end

/-! ### Meaning -/

def Term.denote : Term capabilities → Expr
  | .number numeral => .literal (.number numeral.value) .start
  | .text content => .literal (.text content) .start
  | .boolean value => .literal (.boolean value) .start
  | .nothing => .literal .void .start
  | .name word => .ident word.text .start
  | .binary op left right => .binary op left.denote right.denote .start

mutual

def Sentence.denote : Sentence capabilities → Stmt
  | .declare name value => .declare name.text (some value.denote) .start
  | .assign name value => .assign name.text value.denote .start
  | .say value => .output (some (value.denote, none)) .start
  | .giveBack value => .giveBack (some value.denote) .start
  | .expression value => .expression value.denote
  | .block body => .block body.denote .start
  | .loop rounds body => .loop (.count rounds.denote) body.denote .start .start
  | .whileLoop guard body => .loop (.guard guard.denote) body.denote .start .start
  | .each item list body => .loop (.each (some item.text) list.denote) body.denote .start .start
  | .function name params body =>
      .define (some name.text) none (params.map fun param => ⟨param.text, .start⟩) body.denote
        .start .start
  | .conditional guard body otherwise =>
      .conditional guard.denote body.denote .start otherwise.denote .start

def Body.denote : Body capabilities → List Stmt
  | .nil => []
  | .cons first rest => first.denote :: rest.denote

def Otherwise.denote : Otherwise capabilities → Branch
  | .absent => .absent
  | .block body => .block body.denote .start
  | .conditional guard body otherwise =>
      .conditional guard.denote body.denote .start otherwise.denote .start

end

/-! ### Heads of bodies -/

/-- What stands in front of a body, whatever brackets the body has. -/
inductive Header (capabilities : Capabilities) where
  | loop (rounds : Term capabilities)
  | whileLoop (guard : Term capabilities)
  | each (item : Name capabilities) (list : Term capabilities)
  | function (name : Name capabilities) (params : List (Name capabilities))

namespace Header

def items : Header capabilities → List (Item capabilities)
  | .loop rounds => .fixed .loop :: rounds.items
  | .whileLoop guard => .fixed .whileLoop :: guard.items
  | .each item list => .fixed .each :: .name item :: .fixed .within :: list.items
  | .function name params =>
      .fixed .function :: .name name :: .fixed .openParen ::
        (listed params ++ [.fixed .closeParen])

def denote (body : List Stmt) : Header capabilities → Stmt
  | .loop rounds => .loop (.count rounds.denote) body .start .start
  | .whileLoop guard => .loop (.guard guard.denote) body .start .start
  | .each item list => .loop (.each (some item.text) list.denote) body .start .start
  | .function name params =>
      .define (some name.text) none (params.map fun param => ⟨param.text, .start⟩) body .start
        .start

theorem denote_inj {header : Header capabilities} {body body' : List Stmt} :
    header.denote body = header.denote body' ↔ body = body' := by
  cases header <;> simp [denote]

end Header

/-! ### Where words for "else" stand -/

/-- The sentence is a conditional that goes on with a word for "else". -/
def Sentence.hasElse : Sentence capabilities → Bool
  | .conditional _ _ .absent => false
  | .conditional .. => true
  | _ => false

/-- One of the sentences is such a conditional; what is inside further braces does not count. -/
def Body.hasElse : Body capabilities → Bool
  | .nil => false
  | .cons first rest => first.hasElse || rest.hasElse

mutual

/-- No word for "else" stands directly in the body of a conditional. -/
def Sentence.shielded : Sentence capabilities → Bool
  | .declare .. | .assign .. | .say _ | .giveBack _ | .expression _ => true
  | .block body | .loop _ body | .whileLoop _ body | .each _ _ body | .function _ _ body =>
      body.shielded
  | .conditional _ body otherwise => !body.hasElse && body.shielded && otherwise.shielded

def Body.shielded : Body capabilities → Bool
  | .nil => true
  | .cons first rest => first.shielded && rest.shielded

def Otherwise.shielded : Otherwise capabilities → Bool
  | .absent => true
  | .block body => body.shielded
  | .conditional _ body otherwise => !body.hasElse && body.shielded && otherwise.shielded

end

end Printing

end Parlance
