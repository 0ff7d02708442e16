import Parlance.Proofs.Drawing.Statement

/-!
The schema of nodes. What a node may hold goes by its kind: which scalar, and how many children of
which kinds. Whatever reads a tree may count on it, since every tree that is read obeys the schema,
and each of its nodes stands where a token does.
-/

namespace Parlance

namespace Node

/-- The kinds that are executed rather than evaluated. -/
def Kind.isStatement : Kind → Bool
  | .program | .block | .declaration | .functionDefinition | .conditional | .loop | .giveBack
  | .output | .assignment => true
  | .call | .binaryOp | .unaryOp | .identifier | .literal | .listLiteral | .mapLiteral
  | .index => false

def IsExpression (node : Node) : Prop := node.kind.isStatement = false

/-- The scalar is a text: a name, or the word for an operator or a form of loop. -/
def IsNamed (node : Node) : Prop := ∃ name, node.scalar = .text name

def IsKey (node : Node) : Prop := node.kind = .literal ∧ node.IsNamed

def IsBinary (node : Node) : Prop :=
  ∃ keyword, (Keyword.binaryOp? keyword).isSome = true ∧ node.scalar = .text keyword.name

def IsPrefix (node : Node) : Prop :=
  node.scalar = .text Keyword.not.name ∨ node.scalar = .text Keyword.sub.name

def IsLoopForm (node : Node) : Prop :=
  node.scalar = .text "count" ∨ node.scalar = .text "while" ∨ node.scalar = .text "each"

def Obeys (node : Node) : Prop :=
  match node.kind with
  | .program | .block => ∀ child ∈ node.children, child.kind ≠ .program
  | .declaration =>
      node.IsNamed ∧ node.children.length ≤ 1 ∧ ∀ child ∈ node.children, child.IsExpression
  | .assignment => node.IsNamed ∧ ∃ value, node.children = [value] ∧ value.IsExpression
  | .functionDefinition => node.IsNamed ∧
      ∃ params body, node.children = params ++ [body] ∧ body.kind = .block ∧
        ∀ param ∈ params, param.kind = .identifier
  | .conditional => ∃ guard body otherwise, node.children = guard :: body :: otherwise ∧
      guard.IsExpression ∧ body.kind = .block ∧ otherwise.length ≤ 1 ∧
        ∀ branch ∈ otherwise, branch.kind = .block ∨ branch.kind = .conditional
  | .loop => node.IsLoopForm ∧
      ∃ head body, node.children = [head, body] ∧ head.IsExpression ∧ body.kind = .block
  | .giveBack => node.children.length ≤ 1 ∧ ∀ child ∈ node.children, child.IsExpression
  | .output => node.children.length ≤ 2 ∧ ∀ child ∈ node.children, child.IsExpression
  | .call => node.IsNamed ∧ ∀ child ∈ node.children, child.IsExpression
  | .binaryOp => node.IsBinary ∧
      ∃ left right, node.children = [left, right] ∧ left.IsExpression ∧ right.IsExpression
  | .unaryOp => node.IsPrefix ∧ ∃ operand, node.children = [operand] ∧ operand.IsExpression
  | .identifier => node.IsNamed ∧ node.children = []
  | .literal => node.children = []
  | .listLiteral => ∀ child ∈ node.children, child.IsExpression
  | .mapLiteral => ∃ entries : List (Node × Node),
      node.children = entries.flatMap (fun entry => [entry.1, entry.2]) ∧
        ∀ entry ∈ entries, entry.1.IsKey ∧ entry.2.IsExpression
  | .index => ∃ target position, node.children = [target, position] ∧
      target.IsExpression ∧ position.IsExpression

end Node

open Node

theorem Expr.isExpression (expr : Expr) : expr.toNode.IsExpression := by
  cases expr <;> rfl

theorem Expr.all_isExpression (exprs : List Expr) :
    ∀ child ∈ Expr.toNodes exprs, child.IsExpression := by
  rw [Expr.toNodes_eq_map]
  exact List.forall_mem_map.mpr fun expr _ => expr.isExpression

theorem Expr.entryNodes_eq_flatMap (entries : List (MapKey × Expr)) :
    Expr.entryNodes entries =
      (entries.map fun entry =>
        (Node.named .literal entry.1.text entry.1.place [], entry.2.toNode)).flatMap
          fun entry => [entry.1, entry.2] := by
  induction entries with
  | nil => rfl
  | cons entry rest ih => simp [Expr.entryNodes, ih]

theorem Expr.map_obeys (entries : List (MapKey × Expr)) (place : Place) :
    (Expr.map entries place).toNode.Obeys := by
  -- keys and values come in turn
  refine ⟨_, Expr.entryNodes_eq_flatMap entries, List.forall_mem_map.mpr fun entry _ => ?_⟩
  exact ⟨⟨rfl, entry.1.text, rfl⟩, entry.2.isExpression⟩

theorem BinaryOp.isSome_keyword (op : BinaryOp) : (op.keyword.binaryOp?).isSome = true := by
  rw [Keyword.binaryOp?_eq_some_iff.mpr rfl, Option.isSome_some]

theorem UnaryOp.name_eq (op : UnaryOp) :
    op.name = Keyword.not.name ∨ op.name = Keyword.sub.name := by
  cases op
  · exact Or.inl rfl
  · exact Or.inr rfl

theorem Expr.toNode_obeys (expr : Expr) : expr.toNode.Obeys := by
  cases expr with
  | literal => rfl
  | ident name => exact ⟨⟨name, rfl⟩, rfl⟩
  | call callee _ arguments => exact ⟨⟨callee, rfl⟩, Expr.all_isExpression arguments⟩
  | binary op left right =>
      exact ⟨⟨op.keyword, op.isSome_keyword, rfl⟩, _, _, rfl, left.isExpression, right.isExpression⟩
  | unary op operand =>
      exact ⟨op.name_eq.imp (congrArg Literal.text) (congrArg Literal.text), _, rfl,
        operand.isExpression⟩
  | list items => exact Expr.all_isExpression items
  | map entries place => exact Expr.map_obeys entries place
  | index target position => exact ⟨_, _, rfl, target.isExpression, position.isExpression⟩

mutual

theorem Expr.obeys : ∀ expr : Expr, expr.toNode.Throughout Obeys
  | .literal value place => throughout_mk.mpr ⟨rfl, allThroughout_nil⟩
  | .ident name place => throughout_named.mpr ⟨toNode_obeys (.ident name place), allThroughout_nil⟩
  | .call callee method arguments place =>
      throughout_mk.mpr ⟨toNode_obeys (.call callee method arguments place), allObey arguments⟩
  | .binary op left right place => by
      have here := toNode_obeys (.binary op left right place)
      simp only [Expr.toNode, throughout_named, allThroughout_cons, allThroughout_nil] at here ⊢
      exact ⟨here, left.obeys, right.obeys, trivial⟩
  | .unary op operand place => by
      have here := toNode_obeys (.unary op operand place)
      simp only [Expr.toNode, throughout_named, allThroughout_cons, allThroughout_nil] at here ⊢
      exact ⟨here, operand.obeys, trivial⟩
  | .list items place => throughout_plain.mpr ⟨toNode_obeys (.list items place), allObey items⟩
  | .map entries place =>
      throughout_plain.mpr ⟨toNode_obeys (.map entries place), entriesObey entries⟩
  | .index target position place => by
      have here := toNode_obeys (.index target position place)
      simp only [Expr.toNode, throughout_plain, allThroughout_cons, allThroughout_nil] at here ⊢
      exact ⟨here, target.obeys, position.obeys, trivial⟩

theorem Expr.allObey : ∀ exprs : List Expr, AllThroughout Obeys (Expr.toNodes exprs)
  | [] => allThroughout_nil
  | expr :: rest => allThroughout_cons.mpr ⟨expr.obeys, allObey rest⟩

theorem Expr.entriesObey :
    ∀ entries : List (MapKey × Expr), AllThroughout Obeys (Expr.entryNodes entries)
  | [] => allThroughout_nil
  | (_, value) :: rest =>
      allThroughout_cons.mpr ⟨throughout_named.mpr ⟨rfl, allThroughout_nil⟩,
        allThroughout_cons.mpr ⟨value.obeys, entriesObey rest⟩⟩

end

theorem Stmt.kind_ne_program (stmt : Stmt) : stmt.toNode.kind ≠ .program := by
  cases stmt with
  | expression value => cases value <;> exact nofun
  | _ => exact nofun

theorem Stmt.body_obeys (body : List Stmt) (place : Place) :
    (Node.plain .block place (Stmt.toNodes body)).Obeys := by
  have kinds : ∀ child ∈ Stmt.toNodes body, child.kind ≠ .program := by
    rw [Stmt.toNodes_eq_map]
    exact List.forall_mem_map.mpr fun stmt _ => stmt.kind_ne_program
  exact kinds

theorem Branch.kinds (branch : Branch) : branch.toNodes.length ≤ 1 ∧
    ∀ node ∈ branch.toNodes, node.kind = .block ∨ node.kind = .conditional := by
  cases branch with
  | absent => simp [Branch.toNodes]
  | block => simp [Branch.toNodes, Node.plain, Node.kind]
  | conditional => simp [Branch.toNodes, Node.plain, Node.kind]

theorem conditional_obeys (guard : Expr) (body : List Stmt) (bodyPlace : Place) (otherwise : Branch)
    (place : Place) :
    (Node.plain .conditional place (guard.toNode ::
      .plain .block bodyPlace (Stmt.toNodes body) :: otherwise.toNodes)).Obeys :=
  ⟨_, _, _, rfl, guard.isExpression, rfl, otherwise.kinds⟩

theorem length_maybe (value : Option Expr) : (Expr.toNodes value.toList).length ≤ 1 := by
  cases value <;> simp [Expr.toNodes]

theorem Stmt.toNode_obeys (stmt : Stmt) : stmt.toNode.Obeys := by
  cases stmt with
  | expression value => exact value.toNode_obeys
  | block body place => exact Stmt.body_obeys body place
  | declare name initial =>
      exact ⟨⟨name, rfl⟩, length_maybe initial, Expr.all_isExpression _⟩
  | assign name value => exact ⟨⟨name, rfl⟩, _, rfl, value.isExpression⟩
  | define name byname params body =>
      exact ⟨⟨_, rfl⟩, _, _, rfl, rfl, List.forall_mem_map.mpr fun param _ => rfl⟩
  | conditional guard body bodyPlace otherwise place =>
      exact conditional_obeys guard body bodyPlace otherwise place
  | loop head body =>
      refine ⟨?_, _, _, rfl, head.expr.isExpression, rfl⟩
      cases head
      · exact Or.inl rfl
      · exact Or.inr (Or.inl rfl)
      · exact Or.inr (Or.inr rfl)
  | giveBack value => exact ⟨length_maybe value, Expr.all_isExpression _⟩
  | output what =>
      refine ⟨?_, Expr.all_isExpression _⟩
      rcases what with _ | ⟨value, _ | count⟩ <;>
        simp [Stmt.toNode, Stmt.outputArguments, Expr.toNodes, Node.plain, Node.children]

theorem Param.allObey (params : List Param) : AllThroughout Obeys (params.map Param.toNode) := by
  induction params with
  | nil => exact allThroughout_nil
  | cons param rest ih =>
      exact allThroughout_cons.mpr
        ⟨throughout_named.mpr ⟨⟨⟨param.name, rfl⟩, rfl⟩, allThroughout_nil⟩, ih⟩

mutual

theorem Stmt.obeys : ∀ stmt : Stmt, stmt.toNode.Throughout Obeys
  | .expression value => value.obeys
  | .block body place => throughout_plain.mpr ⟨Stmt.body_obeys body place, Stmt.allObey body⟩
  | .declare name initial place =>
      throughout_named.mpr ⟨Stmt.toNode_obeys (.declare name initial place), Expr.allObey _⟩
  | .assign name value place =>
      throughout_named.mpr ⟨Stmt.toNode_obeys (.assign name value place),
        allThroughout_cons.mpr ⟨value.obeys, allThroughout_nil⟩⟩
  | .define name byname params body bodyPlace place => by
      have here := Stmt.toNode_obeys (.define name byname params body bodyPlace place)
      simp only [Stmt.toNode, throughout_mk, allThroughout_append, allThroughout_cons,
        allThroughout_nil, throughout_plain] at here ⊢
      -- the body is a node of its own kind, and what it holds obeys in turn
      have inside := And.intro (Stmt.body_obeys body bodyPlace) (Stmt.allObey body)
      exact ⟨here, Param.allObey params, inside, trivial⟩
  | .conditional guard body bodyPlace otherwise place => by
      simp only [Stmt.toNode, throughout_plain, allThroughout_cons]
      exact ⟨conditional_obeys guard body bodyPlace otherwise place, guard.obeys,
        ⟨Stmt.body_obeys body bodyPlace, Stmt.allObey body⟩, otherwise.allObey⟩
  | .loop head body bodyPlace place => by
      have here := Stmt.toNode_obeys (.loop head body bodyPlace place)
      simp only [Stmt.toNode, throughout_mk, allThroughout_cons, allThroughout_nil,
        throughout_plain] at here ⊢
      exact ⟨here, head.expr.obeys, ⟨Stmt.body_obeys body bodyPlace, Stmt.allObey body⟩, trivial⟩
  | .giveBack value place =>
      throughout_plain.mpr ⟨Stmt.toNode_obeys (.giveBack value place), Expr.allObey _⟩
  | .output what place =>
      throughout_plain.mpr ⟨Stmt.toNode_obeys (.output what place), Expr.allObey _⟩

theorem Stmt.allObey : ∀ stmts : List Stmt, AllThroughout Obeys (Stmt.toNodes stmts)
  | [] => allThroughout_nil
  | stmt :: rest => allThroughout_cons.mpr ⟨stmt.obeys, Stmt.allObey rest⟩

theorem Branch.allObey : ∀ branch : Branch, AllThroughout Obeys branch.toNodes
  | .absent => allThroughout_nil
  | .block body place =>
      allThroughout_cons.mpr ⟨throughout_plain.mpr ⟨Stmt.body_obeys body place, Stmt.allObey body⟩,
        allThroughout_nil⟩
  | .conditional guard body bodyPlace otherwise place => by
      simp only [Branch.toNodes, throughout_plain, allThroughout_cons, allThroughout_nil, and_true]
      exact ⟨conditional_obeys guard body bodyPlace otherwise place, guard.obeys,
        ⟨Stmt.body_obeys body bodyPlace, Stmt.allObey body⟩, otherwise.allObey⟩

end

/-- The tree of a program obeys the schema, whatever the program is. -/
theorem Program.obeys (program : Program) : program.toNode.Throughout Obeys := by
  have kinds : ∀ child ∈ Stmt.toNodes program, child.kind ≠ .program :=
    Stmt.body_obeys program .start
  exact throughout_plain.mpr ⟨kinds, Stmt.allObey program⟩

namespace Token

/-- The token that is added to close others stands where the last of them does. -/
theorem place_of_mem_close {token : Token} {tokens : List Token} (some' : tokens ≠ [])
    (found : token ∈ close tokens) : ∃ other ∈ tokens, token.place = other.place := by
  obtain ⟨last, ends⟩ := Option.ne_none_iff_exists'.mp (mt List.getLast?_eq_none_iff.mp some')
  have member := List.mem_of_getLast? ends
  simp only [close, ends] at found
  split at found
  · exact ⟨token, found, rfl⟩
  · rcases List.mem_append.mp found with inside | added
    · exact ⟨token, inside, rfl⟩
    · rw [List.mem_singleton.mp added]
      exact ⟨last, member, rfl⟩

end Token

open Grammar

theorem Program.ofTokens_nil (mode : Mode) : Program.ofTokens mode [] = .ok ([], []) :=
  ofTokens_of_statements (statements_atEnd rfl mode)

/-- Whatever the tokens are, a lenient reader makes a tree of them that obeys the schema: each node
has the children that those who read the tree take from it, and no statement is among the nodes that
are evaluated. Every node but the root stands where one of the tokens does. -/
theorem Program.ofTokens_obeys (capabilities : Capabilities) (tokens : List Token) :
    ∃ program noted, Program.ofTokens ⟨false, capabilities⟩ tokens = .ok (program, noted) ∧
      (∀ node ∈ program.toNode.nodes, node.Obeys) ∧
      ∀ node ∈ allNodes program.toNode.children, ∃ token ∈ tokens, node.place = token.place := by
  obtain ⟨program, noted, read⟩ := Program.ofTokens_lenient capabilities tokens
  refine ⟨program, noted, read, program.obeys, ?_⟩
  by_cases none : tokens = []
  · subst none
    rw [Program.ofTokens_nil] at read
    obtain ⟨rfl, rfl⟩ := Prod.mk.inj (Except.ok.inj read)
    exact List.forall_mem_nil _
  · intro node found
    obtain ⟨token, member, place⟩ := (Program.draws read).1 node found
    obtain ⟨other, member, place'⟩ := Token.place_of_mem_close none member
    exact ⟨other, member, place.trans place'⟩

end Parlance
