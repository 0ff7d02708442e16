import Mathlib.Algebra.Order.Group.Multiset
import Parlance.Program.Node
import Parlance.Proofs.Fork.Cursor

/-!
What nodes are drawn from. A node stands where a token does. A node that calls is drawn from a name
among the tokens: one that is on the list, or one right behind a word for a call. So the names that
may be called are what pays for the calls of a tree.
-/

namespace Parlance

namespace Node

mutual

def nodes : Node → List Node
  | .mk kind scalar boundName place children =>
      .mk kind scalar boundName place children :: allNodes children

def allNodes : List Node → List Node
  | [] => []
  | node :: rest => node.nodes ++ allNodes rest

end

abbrev Call : Type := Literal × Place

def call? (node : Node) : Option Call :=
  if node.kind = .call then some (node.scalar, node.place) else none

def calls (node : Node) : Multiset Call := (node.nodes.filterMap call? : List Call)

def allCalls (nodes : List Node) : Multiset Call := ((allNodes nodes).filterMap call? : List Call)

def Throughout (holds : Node → Prop) (node : Node) : Prop := ∀ found ∈ node.nodes, holds found

def AllThroughout (holds : Node → Prop) (nodes : List Node) : Prop :=
  ∀ found ∈ allNodes nodes, holds found

/-- Where the node is something stands, and so it is below. -/
abbrev At (stands : Place → Prop) (node : Node) : Prop :=
  node.Throughout fun found => stands found.place

abbrev AllAt (stands : Place → Prop) (nodes : List Node) : Prop :=
  AllThroughout (fun found => stands found.place) nodes

section

variable {holds : Node → Prop} {node : Node} {front rest children : List Node}
  {kind : Kind} {scalar : Literal} {boundName : Option String} {name : String} {place : Place}

theorem allNodes_append (front rest : List Node) :
    allNodes (front ++ rest) = allNodes front ++ allNodes rest := by
  induction front with
  | nil => rfl
  | cons node front ih => simp [allNodes, ih]

@[simp] theorem allCalls_nil : allCalls [] = 0 := rfl

@[simp] theorem allCalls_cons : allCalls (node :: rest) = node.calls + allCalls rest := by
  simp [allCalls, calls, allNodes]

@[simp] theorem allCalls_append : allCalls (front ++ rest) = allCalls front + allCalls rest := by
  simp [allCalls, allNodes_append]

/-- A node of another kind calls what its children do. -/
@[simp] theorem calls_mk (other : kind ≠ .call) :
    (Node.mk kind scalar boundName place children).calls = allCalls children := by
  simp [calls, allCalls, nodes, call?, Node.kind, other]

@[simp] theorem calls_call : (Node.mk .call scalar boundName place children).calls =
    {(scalar, place)} + allCalls children := by
  simp [calls, allCalls, nodes, call?, Node.kind, Node.scalar, Node.place]

@[simp] theorem calls_plain (other : kind ≠ .call) :
    (Node.plain kind place children).calls = allCalls children :=
  calls_mk other

@[simp] theorem calls_named (other : kind ≠ .call) :
    (Node.named kind name place children).calls = allCalls children :=
  calls_mk other

@[simp] theorem place_mk : (Node.mk kind scalar boundName place children).place = place := rfl

@[simp] theorem place_plain : (Node.plain kind place children).place = place := rfl

@[simp] theorem place_named : (Node.named kind name place children).place = place := rfl

@[simp] theorem allThroughout_nil : AllThroughout holds [] := List.forall_mem_nil _

@[simp] theorem allThroughout_cons :
    AllThroughout holds (node :: rest) ↔ node.Throughout holds ∧ AllThroughout holds rest :=
  List.forall_mem_append

@[simp] theorem allThroughout_append :
    AllThroughout holds (front ++ rest) ↔ AllThroughout holds front ∧ AllThroughout holds rest := by
  simp only [AllThroughout, allNodes_append, List.forall_mem_append]

@[simp] theorem throughout_mk : (Node.mk kind scalar boundName place children).Throughout holds ↔
    holds (Node.mk kind scalar boundName place children) ∧ AllThroughout holds children :=
  List.forall_mem_cons

@[simp] theorem throughout_plain : (Node.plain kind place children).Throughout holds ↔
    holds (Node.plain kind place children) ∧ AllThroughout holds children :=
  throughout_mk

@[simp] theorem throughout_named : (Node.named kind name place children).Throughout holds ↔
    holds (Node.named kind name place children) ∧ AllThroughout holds children :=
  throughout_mk

end

end Node

namespace Token

theorem ne_finish_of_mayName {token : Token} (named : token.mayName = true) :
    token.kind ≠ .finish := by
  intro finish
  simp [mayName, keyword?, finish] at named

/-- The names among the tokens that a call may be made of: those on the list, and those right
behind a word for a call. One may stand in front of the tokens. -/
def callees (capabilities : Capabilities) (behindWord : Bool) : List Token → List Token
  | [] => []
  | token :: rest =>
      let later := callees capabilities (token.keyword? = some .call) rest
      if token.mayName && (behindWord || capabilities.allowsImplicitCall token.lexeme) then
        token :: later
      else later

def call (callee : Token) : Node.Call := (.text callee.lexeme, callee.place)

def calls (capabilities : Capabilities) (behindWord : Bool) (tokens : List Token) :
    Multiset Node.Call :=
  ((callees capabilities behindWord tokens).map call : List Node.Call)

section

variable {capabilities : Capabilities} {behindWord : Bool} {token : Token} {front rest : List Token}

theorem callees_sublist (tokens : List Token) :
    (callees capabilities false tokens).Sublist (callees capabilities behindWord tokens) := by
  cases tokens with
  | nil => exact .slnil
  | cons token rest =>
      simp only [callees, Bool.false_or]
      cases named : token.mayName <;>
        cases listed : capabilities.allowsImplicitCall token.lexeme <;> cases behindWord <;> simp

theorem callees_append (front rest : List Token) :
    (callees capabilities behindWord front ++ callees capabilities false rest).Sublist
      (callees capabilities behindWord (front ++ rest)) := by
  induction front generalizing behindWord with
  | nil => exact callees_sublist rest
  | cons token front ih =>
      simp only [callees, List.cons_append]
      split
      · exact ih.cons_cons token
      · exact ih

theorem calls_append (front rest : List Token) :
    calls capabilities behindWord front + calls capabilities false rest ≤
      calls capabilities behindWord (front ++ rest) := by
  simp only [calls, Multiset.coe_add, ← List.map_append]
  exact Multiset.coe_le.mpr ((callees_append front rest).map call).subperm

theorem calls_tail (behindWord : Bool) (token : Token) (rest : List Token) :
    calls capabilities (token.keyword? = some .call) rest ≤
      calls capabilities behindWord (token :: rest) := by
  refine Multiset.coe_le.mpr (List.Sublist.subperm (.map call ?_))
  simp only [callees]
  split
  · exact List.sublist_cons_self _ _
  · exact List.Sublist.refl _

theorem calls_false_le (tokens : List Token) :
    calls capabilities false tokens ≤ calls capabilities behindWord tokens :=
  Multiset.coe_le.mpr ((callees_sublist tokens).map call).subperm

/-- A name that may be called pays for a call of its own. -/
theorem calls_callee (named : token.mayName = true)
    (allowed : behindWord = true ∨ capabilities.allowsImplicitCall token.lexeme = true)
    (rest : List Token) :
    {token.call} + calls capabilities false rest ≤
      calls capabilities behindWord (token :: rest) := by
  have found : (token.mayName && (behindWord || capabilities.allowsImplicitCall token.lexeme)) =
      true := by
    simpa [named] using allowed
  have here : calls capabilities behindWord (token :: rest) =
      {token.call} + calls capabilities (token.keyword? = some .call) rest := by
    simp [calls, callees, found]
  rw [here]
  exact add_le_add le_rfl (calls_false_le rest)

end

end Token

end Parlance
