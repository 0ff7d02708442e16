import Parlance.Proofs.Drawing.Node
import Parlance.Proofs.Running.Idling

/-!
The nodes of an expression in the order of their visits: each once, a node before those below it
and operands from left to right; but a value in a map comes before its key. So the order is that of
the tree where no value in a map is written out. Main statements: `Expr.tour_perm` and
`Expr.tour_eq_preorder_iff`.
-/

namespace Parlance

namespace Node

abbrev Sight : Type := Kind × Place

def sight (node : Node) : Sight := (node.kind, node.place)

def preorder (node : Node) : List Sight := node.nodes.map sight

def allPreorder (nodes : List Node) : List Sight := (allNodes nodes).map sight

@[simp] theorem preorder_mk (kind : Kind) (scalar : Literal) (boundName : Option String)
    (place : Place) (children : List Node) :
    (Node.mk kind scalar boundName place children).preorder =
      (kind, place) :: allPreorder children := rfl

@[simp] theorem preorder_plain (kind : Kind) (place : Place) (children : List Node) :
    (plain kind place children).preorder = (kind, place) :: allPreorder children := rfl

@[simp] theorem preorder_named (kind : Kind) (name : String) (place : Place)
    (children : List Node) :
    (named kind name place children).preorder = (kind, place) :: allPreorder children := rfl

@[simp] theorem allPreorder_nil : allPreorder [] = [] := rfl

@[simp] theorem allPreorder_cons (node : Node) (rest : List Node) :
    allPreorder (node :: rest) = node.preorder ++ allPreorder rest := by
  simp [allPreorder, allNodes, preorder]

end Node

open Node

/-! ### Expressions -/

def Expr.sight (expr : Expr) : Sight := (expr.kind, expr.place)

def MapKey.sight (key : MapKey) : Sight := (.literal, key.place)

mutual

def Expr.tour : Expr → List Sight
  | .literal _ place => [(.literal, place)]
  | .ident _ place => [(.identifier, place)]
  | .call _ _ arguments place => (.call, place) :: Expr.allTours arguments
  | .binary _ left right place => (.binaryOp, place) :: (left.tour ++ right.tour)
  | .unary _ operand place => (.unaryOp, place) :: operand.tour
  | .list items place => (.listLiteral, place) :: Expr.allTours items
  | .map entries place => (.mapLiteral, place) :: Expr.entryTours entries
  | .index target position place => (.index, place) :: (target.tour ++ position.tour)

def Expr.allTours : List Expr → List Sight
  | [] => []
  | expr :: rest => expr.tour ++ Expr.allTours rest

/-- A value is visited before its key. -/
def Expr.entryTours : List (MapKey × Expr) → List Sight
  | [] => []
  | (key, value) :: rest => value.tour ++ key.sight :: Expr.entryTours rest

end

mutual

def Expr.entries : Expr → List (MapKey × Expr)
  | .literal .. | .ident .. => []
  | .call _ _ arguments _ => Expr.allEntries arguments
  | .binary _ left right _ => left.entries ++ right.entries
  | .unary _ operand _ => operand.entries
  | .list items _ => Expr.allEntries items
  | .map entries _ => Expr.innerEntries entries
  | .index target position _ => target.entries ++ position.entries

def Expr.allEntries : List Expr → List (MapKey × Expr)
  | [] => []
  | expr :: rest => expr.entries ++ Expr.allEntries rest

def Expr.innerEntries : List (MapKey × Expr) → List (MapKey × Expr)
  | [] => []
  | (key, value) :: rest => (key, value) :: (value.entries ++ Expr.innerEntries rest)

end

/-- The value is a literal where its key is, as one is that is left out. -/
def LeftOut (entry : MapKey × Expr) : Prop := entry.2.sight = entry.1.sight

theorem Expr.tour_eq_cons (expr : Expr) : ∃ below, expr.tour = expr.sight :: below := by
  cases expr <;> exact ⟨_, rfl⟩

mutual

/-- A tour comes to each node of the tree once. -/
theorem Expr.tour_perm (expr : Expr) : expr.tour.Perm expr.toNode.preorder := by
  cases expr with
  | literal value place => exact .refl _
  | ident name place => exact .refl _
  | call callee method arguments place => exact .cons _ (Expr.allTours_perm arguments)
  | binary op left right place =>
      simpa [Expr.tour, Expr.toNode] using left.tour_perm.append right.tour_perm
  | unary op operand place => simpa [Expr.tour, Expr.toNode] using operand.tour_perm
  | list items place => exact .cons _ (Expr.allTours_perm items)
  | map entries place => exact .cons _ (Expr.entryTours_perm entries)
  | index target position place =>
      simpa [Expr.tour, Expr.toNode] using target.tour_perm.append position.tour_perm

theorem Expr.allTours_perm (exprs : List Expr) :
    (Expr.allTours exprs).Perm (allPreorder (Expr.toNodes exprs)) := by
  cases exprs with
  | nil => exact .refl _
  | cons expr rest =>
      simpa [Expr.allTours, Expr.toNodes] using expr.tour_perm.append (Expr.allTours_perm rest)

theorem Expr.entryTours_perm (entries : List (MapKey × Expr)) :
    (Expr.entryTours entries).Perm (allPreorder (Expr.entryNodes entries)) := by
  match entries with
  | [] => exact .refl _
  | (key, value) :: rest =>
      have turned : (Expr.entryTours ((key, value) :: rest)).Perm
          (key.sight :: (value.tour ++ Expr.entryTours rest)) := List.perm_middle
      have later := value.tour_perm.append (Expr.entryTours_perm rest)
      exact turned.trans (by simpa [Expr.entryNodes, MapKey.sight] using later)

end

/-- Nothing comes between a value and its key only if the value is all that is seen of them. -/
theorem Expr.turned_eq_iff (value : Expr) (key : MapKey) (behind behind' : List Sight) :
    value.tour ++ key.sight :: behind = key.sight :: (value.toNode.preorder ++ behind') ↔
      value.sight = key.sight ∧ behind = behind' := by
  have same := value.tour_perm.length_eq
  obtain ⟨below, tour⟩ := value.tour_eq_cons
  constructor
  · intro equal
    refine ⟨?_, ?_⟩
    · rw [tour, List.cons_append] at equal
      exact (List.cons.inj equal).1
    · rw [← List.singleton_append, ← List.append_assoc, ← List.cons_append] at equal
      exact (List.append_inj equal (by simp [same])).2
  · rintro ⟨seen, rfl⟩
    -- only a literal is seen like a key, and nothing is below it
    cases value with
    | literal value place =>
        obtain ⟨_, place_eq⟩ := Prod.mk.inj seen
        simp [Expr.tour, Expr.toNode, MapKey.sight, show place = key.place from place_eq]
    | ident | call | binary | unary | list | map | index =>
        cases (Prod.mk.inj seen).1

/-- Two orders of visits of equal length in front can be told from what follows them. -/
theorem Expr.tour_append_eq_iff (expr : Expr) (behind behind' : List Sight) :
    expr.tour ++ behind = expr.toNode.preorder ++ behind' ↔
      expr.tour = expr.toNode.preorder ∧ behind = behind' :=
  ⟨fun equal => List.append_inj equal expr.tour_perm.length_eq,
    fun ⟨front, back⟩ => by rw [front, back]⟩

/-- Below a value that is left out there is nothing. -/
theorem LeftOut.entries_eq_nil {key : MapKey} {value : Expr} (leftOut : LeftOut (key, value)) :
    value.entries = [] := by
  cases value with
  | literal => rfl
  | ident | call | binary | unary | list | map | index => cases (Prod.mk.inj leftOut).1

mutual

/-- The order is that of the tree exactly if all values in maps are left out. -/
theorem Expr.tour_eq_preorder_iff (expr : Expr) :
    expr.tour = expr.toNode.preorder ↔ ∀ entry ∈ expr.entries, LeftOut entry := by
  cases expr with
  | literal value place => simp [Expr.tour, Expr.toNode, Expr.entries]
  | ident name place => simp [Expr.tour, Expr.toNode, Expr.entries]
  | call callee method arguments place =>
      simpa [Expr.tour, Expr.toNode, Expr.entries] using Expr.allTours_eq_preorder_iff arguments
  | binary op left right place =>
      simp only [Expr.tour, Expr.toNode, Expr.entries, preorder_named, allPreorder_cons,
        allPreorder_nil, List.append_nil, List.cons.injEq, true_and, List.forall_mem_append,
        Expr.tour_append_eq_iff, left.tour_eq_preorder_iff, right.tour_eq_preorder_iff]
  | unary op operand place =>
      simpa [Expr.tour, Expr.toNode, Expr.entries] using operand.tour_eq_preorder_iff
  | list items place =>
      simpa [Expr.tour, Expr.toNode, Expr.entries] using Expr.allTours_eq_preorder_iff items
  | map entries place =>
      simpa [Expr.tour, Expr.toNode, Expr.entries] using Expr.entryTours_eq_preorder_iff entries
  | index target position place =>
      simp only [Expr.tour, Expr.toNode, Expr.entries, preorder_plain, allPreorder_cons,
        allPreorder_nil, List.append_nil, List.cons.injEq, true_and, List.forall_mem_append,
        Expr.tour_append_eq_iff, target.tour_eq_preorder_iff, position.tour_eq_preorder_iff]

theorem Expr.allTours_eq_preorder_iff (exprs : List Expr) :
    Expr.allTours exprs = allPreorder (Expr.toNodes exprs) ↔
      ∀ entry ∈ Expr.allEntries exprs, LeftOut entry := by
  cases exprs with
  | nil => simp [Expr.allTours, Expr.toNodes, Expr.allEntries]
  | cons expr rest =>
      simp only [Expr.allTours, Expr.toNodes, Expr.allEntries, allPreorder_cons,
        List.forall_mem_append, Expr.tour_append_eq_iff, expr.tour_eq_preorder_iff,
        Expr.allTours_eq_preorder_iff rest]

theorem Expr.entryTours_eq_preorder_iff (entries : List (MapKey × Expr)) :
    Expr.entryTours entries = allPreorder (Expr.entryNodes entries) ↔
      ∀ entry ∈ Expr.innerEntries entries, LeftOut entry := by
  match entries with
  | [] => simp [Expr.entryTours, Expr.entryNodes, Expr.innerEntries]
  | (key, value) :: rest =>
      have turned := value.turned_eq_iff key (Expr.entryTours rest)
        (allPreorder (Expr.entryNodes rest))
      have shown : allPreorder (Expr.entryNodes ((key, value) :: rest)) =
          key.sight :: (value.toNode.preorder ++ allPreorder (Expr.entryNodes rest)) := by
        simp [Expr.entryNodes, MapKey.sight]
      rw [Expr.entryTours, shown, turned, Expr.entryTours_eq_preorder_iff rest, Expr.innerEntries]
      simp only [List.forall_mem_cons, List.forall_mem_append]
      constructor
      · rintro ⟨leftOut, later⟩
        have leftOut : LeftOut (key, value) := leftOut
        exact ⟨leftOut, by simp [leftOut.entries_eq_nil], later⟩
      · rintro ⟨leftOut, -, later⟩
        exact ⟨leftOut, later⟩

end

end Parlance
