import Mathlib.Data.List.Forall2
import Parlance.Keyword
import Parlance.Program

/-!
Canonical programs. Only the methods of calls and the keys of maps keep the spelling that a keyword
had in the source; a program is canonical when these are canonical names too.
-/

namespace Parlance

def Keyword.canonical (word : String) : String :=
  ((Keyword.ofSpelling? word).map Keyword.name).getD word

def MapKey.canonical (key : MapKey) : MapKey := { key with text := Keyword.canonical key.text }

mutual

def Expr.canonical : Expr → Expr
  | .literal value place => .literal value place
  | .ident name place => .ident name place
  | .call callee method arguments place =>
      .call callee (method.map Keyword.canonical) (Expr.canonicals arguments) place
  | .binary op left right place => .binary op left.canonical right.canonical place
  | .unary op operand place => .unary op operand.canonical place
  | .list items place => .list (Expr.canonicals items) place
  | .map entries place => .map (Expr.canonicalEntries entries) place
  | .index target position place => .index target.canonical position.canonical place

def Expr.canonicals : List Expr → List Expr
  | [] => []
  | expr :: rest => expr.canonical :: Expr.canonicals rest

def Expr.canonicalEntries : List (MapKey × Expr) → List (MapKey × Expr)
  | [] => []
  | (key, value) :: rest => (key.canonical, value.canonical) :: Expr.canonicalEntries rest

end

def LoopHead.canonical : LoopHead → LoopHead
  | .count rounds => .count rounds.canonical
  | .guard condition => .guard condition.canonical
  | .each item items => .each item items.canonical

mutual

def Stmt.canonical : Stmt → Stmt
  | .expression value => .expression value.canonical
  | .block body place => .block (Stmt.canonicals body) place
  | .declare name initial place => .declare name (initial.map Expr.canonical) place
  | .assign name value place => .assign name value.canonical place
  | .define name byname params body bodyPlace place =>
      .define name byname params (Stmt.canonicals body) bodyPlace place
  | .conditional guard body bodyPlace otherwise place =>
      .conditional guard.canonical (Stmt.canonicals body) bodyPlace otherwise.canonical place
  | .loop head body bodyPlace place =>
      .loop head.canonical (Stmt.canonicals body) bodyPlace place
  | .giveBack value place => .giveBack (value.map Expr.canonical) place
  | .output what place =>
      .output (what.map fun (value, count) => (value.canonical, count.map Expr.canonical)) place

def Stmt.canonicals : List Stmt → List Stmt
  | [] => []
  | stmt :: rest => stmt.canonical :: Stmt.canonicals rest

def Branch.canonical : Branch → Branch
  | .absent => .absent
  | .block body place => .block (Stmt.canonicals body) place
  | .conditional guard body bodyPlace otherwise place =>
      .conditional guard.canonical (Stmt.canonicals body) bodyPlace otherwise.canonical place

end

theorem Expr.canonicals_eq_map (exprs : List Expr) :
    Expr.canonicals exprs = exprs.map Expr.canonical := by
  induction exprs with
  | nil => rfl
  | cons expr rest ih => simp [Expr.canonicals, ih]

theorem Expr.canonicalEntries_eq_map (entries : List (MapKey × Expr)) :
    Expr.canonicalEntries entries =
      entries.map fun (key, value) => (key.canonical, value.canonical) := by
  induction entries with
  | nil => rfl
  | cons entry rest ih => simp [Expr.canonicalEntries, ih]

theorem Stmt.canonicals_eq_map (stmts : List Stmt) :
    Stmt.canonicals stmts = stmts.map Stmt.canonical := by
  induction stmts with
  | nil => rfl
  | cons stmt rest ih => simp [Stmt.canonicals, ih]

/-! ### Values that are the same up to spelling -/

class Canonical (α : Type) where
  canonical : α → α

instance : Canonical String := ⟨Keyword.canonical⟩

instance : Canonical MapKey := ⟨MapKey.canonical⟩

instance : Canonical Expr := ⟨Expr.canonical⟩

instance : Canonical LoopHead := ⟨LoopHead.canonical⟩

instance : Canonical Stmt := ⟨Stmt.canonical⟩

instance : Canonical Branch := ⟨Branch.canonical⟩

section

variable {α β : Type} [Canonical α] [Canonical β]

instance : Canonical (Option α) := ⟨Option.map Canonical.canonical⟩

instance : Canonical (List α) := ⟨List.map Canonical.canonical⟩

instance : Canonical (α × β) := ⟨Prod.map Canonical.canonical Canonical.canonical⟩

def Same (left right : α) : Prop := Canonical.canonical right = Canonical.canonical left

theorem Same.refl (a : α) : Same a a := rfl

theorem Same.of_eq {a a' : α} (eq : a' = a) : Same a a' := congrArg Canonical.canonical eq

theorem Same.some {a a' : α} (same : Same a a') : Same (some a) (some a') :=
  congrArg Option.some same

theorem Same.eq_none {a : Option α} (same : Same none a) : a = none :=
  Option.map_eq_none_iff.mp same

theorem Same.of_some {a : α} {a' : Option α} (same : Same (Option.some a) a') :
    ∃ b, a' = Option.some b ∧ Same a b :=
  Option.map_eq_some_iff.mp same

theorem Same.cons {a a' : α} {rest rest' : List α} (head : Same a a') (tail : Same rest rest') :
    Same (a :: rest) (a' :: rest') :=
  congrArg₂ List.cons head tail

theorem Same.toList {a a' : Option α} (same : Same a a') : Same a.toList a'.toList := by
  cases a with
  | none =>
      obtain rfl := same.eq_none
      exact Same.refl _
  | some a =>
      obtain ⟨b, rfl, first⟩ := same.of_some
      exact first.cons (Same.refl [])

theorem Same.append {front front' back back' : List α} (first : Same front front')
    (last : Same back back') : Same (front ++ back) (front' ++ back') := by
  have mapped := congrArg₂ (· ++ ·) first last
  simpa [Same, Canonical.canonical] using mapped

theorem Same.pair {a a' : α} {b b' : β} (left : Same a a') (right : Same b b') :
    Same (a, b) (a', b') :=
  congrArg₂ Prod.mk left right

theorem Same.forall₂ {left right : List α} (same : Same left right) :
    List.Forall₂ Same left right := by
  have mapped : left.map Canonical.canonical = right.map Canonical.canonical := same.symm
  rw [← List.forall₂_eq_eq_eq, List.forall₂_map_left_iff, List.forall₂_map_right_iff] at mapped
  exact mapped.imp fun _ _ eq => eq.symm

end

namespace Expr

theorem same_call {callee : String} {method method' : Option String}
    {arguments arguments' : List Expr} {place : Place} (methods : Same method method')
    (args : Same arguments arguments') :
    Same (call callee method arguments place) (call callee method' arguments' place) := by
  have args' : Expr.canonicals arguments' = Expr.canonicals arguments := by
    rw [canonicals_eq_map, canonicals_eq_map]
    exact args
  have methods' : method'.map Keyword.canonical = method.map Keyword.canonical := methods
  simp only [Same, Canonical.canonical, canonical, args', methods']

theorem same_binary (op : BinaryOp) {left left' right right' : Expr} {place : Place}
    (lefts : Same left left') (rights : Same right right') :
    Same (binary op left right place) (binary op left' right' place) :=
  congrArg₂ (binary op · · place) lefts rights

theorem same_unary (op : UnaryOp) {operand operand' : Expr} {place : Place}
    (same : Same operand operand') : Same (unary op operand place) (unary op operand' place) :=
  congrArg (unary op · place) same

theorem same_index {target target' position position' : Expr} {place : Place}
    (targets : Same target target') (positions : Same position position') :
    Same (index target position place) (index target' position' place) :=
  congrArg₂ (index · · place) targets positions

theorem same_list {items items' : List Expr} {place : Place} (same : Same items items') :
    Same (list items place) (list items' place) := by
  have same' : Expr.canonicals items' = Expr.canonicals items := by
    rw [canonicals_eq_map, canonicals_eq_map]
    exact same
  simp only [Same, Canonical.canonical, canonical, same']

theorem same_map {entries entries' : List (MapKey × Expr)} {place : Place}
    (same : Same entries entries') : Same (map entries place) (map entries' place) := by
  have same' : Expr.canonicalEntries entries' = Expr.canonicalEntries entries := by
    rw [canonicalEntries_eq_map, canonicalEntries_eq_map]
    exact same
  simp only [Same, Canonical.canonical, canonical, same']

theorem canonical_eq_ident_iff (expr : Expr) (name : String) (place : Place) :
    expr.canonical = ident name place ↔ expr = ident name place := by
  cases expr <;> simp [canonical]

theorem isNumber_canonical (expr : Expr) : expr.canonical.isNumber = expr.isNumber := by
  cases expr <;> simp [canonical, isNumber]

theorem isNumber_eq {expr expr' : Expr} (same : Same expr expr') :
    expr'.isNumber = expr.isNumber := by
  have canonicals : expr'.canonical = expr.canonical := same
  rw [← isNumber_canonical expr', canonicals, isNumber_canonical]

end Expr

/-! ### Statements -/

theorem Stmt.canonicals_eq {body body' : List Stmt} (same : Same body body') :
    Stmt.canonicals body' = Stmt.canonicals body := by
  rw [canonicals_eq_map, canonicals_eq_map]
  exact same

namespace Branch

theorem same_block {body body' : List Stmt} {place : Place} (same : Same body body') :
    Same (block body place) (block body' place) :=
  congrArg (block · place) (Stmt.canonicals_eq same)

theorem same_conditional {guard guard' : Expr} {body body' : List Stmt}
    {otherwise otherwise' : Branch} {bodyPlace place : Place} (guards : Same guard guard')
    (bodies : Same body body') (branches : Same otherwise otherwise') :
    Same (conditional guard body bodyPlace otherwise place)
      (conditional guard' body' bodyPlace otherwise' place) := by
  have guards' : guard'.canonical = guard.canonical := guards
  have branches' : otherwise'.canonical = otherwise.canonical := branches
  simp only [Same, Canonical.canonical, canonical, guards', Stmt.canonicals_eq bodies, branches']

end Branch

namespace Stmt

theorem same_block {body body' : List Stmt} {place : Place} (same : Same body body') :
    Same (block body place) (block body' place) :=
  congrArg (block · place) (canonicals_eq same)

theorem same_declare (name : String) {initial initial' : Option Expr} {place : Place}
    (same : Same initial initial') :
    Same (declare name initial place) (declare name initial' place) :=
  congrArg (declare name · place) same

theorem same_assign (name : String) {value value' : Expr} {place : Place}
    (same : Same value value') : Same (assign name value place) (assign name value' place) :=
  congrArg (assign name · place) same

theorem same_define (name byname : Option String) (params : List Param) {body body' : List Stmt}
    {bodyPlace place : Place} (same : Same body body') :
    Same (define name byname params body bodyPlace place)
      (define name byname params body' bodyPlace place) :=
  congrArg (define name byname params · bodyPlace place) (canonicals_eq same)

theorem same_conditional {guard guard' : Expr} {body body' : List Stmt}
    {otherwise otherwise' : Branch} {bodyPlace place : Place} (guards : Same guard guard')
    (bodies : Same body body') (branches : Same otherwise otherwise') :
    Same (conditional guard body bodyPlace otherwise place)
      (conditional guard' body' bodyPlace otherwise' place) := by
  have guards' : guard'.canonical = guard.canonical := guards
  have branches' : otherwise'.canonical = otherwise.canonical := branches
  simp only [Same, Canonical.canonical, canonical, guards', canonicals_eq bodies, branches']

theorem same_loop {head head' : LoopHead} {body body' : List Stmt} {bodyPlace place : Place}
    (heads : Same head head') (bodies : Same body body') :
    Same (loop head body bodyPlace place) (loop head' body' bodyPlace place) :=
  congrArg₂ (loop · · bodyPlace place) heads (canonicals_eq bodies)

theorem same_giveBack {value value' : Option Expr} {place : Place} (same : Same value value') :
    Same (giveBack value place) (giveBack value' place) :=
  congrArg (giveBack · place) same

theorem same_output {what what' : Option (Expr × Option Expr)} {place : Place}
    (same : Same what what') : Same (output what place) (output what' place) :=
  congrArg (output · place) same

theorem same_expression {value value' : Expr} (same : Same value value') :
    Same (expression value) (expression value') :=
  congrArg expression same

end Stmt

namespace LoopHead

theorem same_count {rounds rounds' : Expr} (same : Same rounds rounds') :
    Same (count rounds) (count rounds') :=
  congrArg count same

theorem same_guard {condition condition' : Expr} (same : Same condition condition') :
    Same (guard condition) (guard condition') :=
  congrArg guard same

theorem same_each (item : Option String) {items items' : Expr} (same : Same items items') :
    Same (each item items) (each item items') :=
  congrArg (each item) same

end LoopHead

end Parlance
