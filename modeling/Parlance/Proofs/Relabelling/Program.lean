import Parlance.Program.Node

/-!
Programs whose nodes are moved to other places. Nothing else about them changes: a moved program is
made of the same statements and expressions. A move that fixes the places of a program's nodes
leaves the program as it is.
-/

namespace Parlance

def MapKey.moved (move : Place → Place) (key : MapKey) : MapKey :=
  { key with place := move key.place }

def Param.moved (move : Place → Place) (param : Param) : Param :=
  { param with place := move param.place }

mutual

def Expr.moved (move : Place → Place) : Expr → Expr
  | .literal value place => .literal value (move place)
  | .ident name place => .ident name (move place)
  | .call callee method arguments place =>
      .call callee method (Expr.movedAll move arguments) (move place)
  | .binary op left right place => .binary op (left.moved move) (right.moved move) (move place)
  | .unary op operand place => .unary op (operand.moved move) (move place)
  | .list items place => .list (Expr.movedAll move items) (move place)
  | .map entries place => .map (Expr.movedEntries move entries) (move place)
  | .index target position place => .index (target.moved move) (position.moved move) (move place)

def Expr.movedAll (move : Place → Place) : List Expr → List Expr
  | [] => []
  | expr :: rest => expr.moved move :: Expr.movedAll move rest

def Expr.movedEntries (move : Place → Place) : List (MapKey × Expr) → List (MapKey × Expr)
  | [] => []
  | (key, value) :: rest => (key.moved move, value.moved move) :: Expr.movedEntries move rest

end

def LoopHead.moved (move : Place → Place) : LoopHead → LoopHead
  | .count rounds => .count (rounds.moved move)
  | .guard condition => .guard (condition.moved move)
  | .each item items => .each item (items.moved move)

mutual

def Stmt.moved (move : Place → Place) : Stmt → Stmt
  | .expression value => .expression (value.moved move)
  | .block body place => .block (Stmt.movedAll move body) (move place)
  | .declare name initial place =>
      .declare name (initial.map (Expr.moved move)) (move place)
  | .assign name value place => .assign name (value.moved move) (move place)
  | .define name byname params body bodyPlace place =>
      .define name byname (params.map (Param.moved move)) (Stmt.movedAll move body)
        (move bodyPlace) (move place)
  | .conditional guard body bodyPlace otherwise place =>
      .conditional (guard.moved move) (Stmt.movedAll move body) (move bodyPlace)
        (otherwise.moved move) (move place)
  | .loop head body bodyPlace place =>
      .loop (head.moved move) (Stmt.movedAll move body) (move bodyPlace) (move place)
  | .giveBack value place => .giveBack (value.map (Expr.moved move)) (move place)
  | .output what place =>
      .output (what.map fun (value, count) => (value.moved move, count.map (Expr.moved move)))
        (move place)

def Stmt.movedAll (move : Place → Place) : List Stmt → List Stmt
  | [] => []
  | stmt :: rest => stmt.moved move :: Stmt.movedAll move rest

def Branch.moved (move : Place → Place) : Branch → Branch
  | .absent => .absent
  | .block body place => .block (Stmt.movedAll move body) (move place)
  | .conditional guard body bodyPlace otherwise place =>
      .conditional (guard.moved move) (Stmt.movedAll move body) (move bodyPlace)
        (otherwise.moved move) (move place)

end

def Program.moved (move : Place → Place) (program : Program) : Program :=
  Stmt.movedAll move program

section

variable (move : Place → Place)

theorem Expr.kind_moved (expr : Expr) : (expr.moved move).kind = expr.kind := by
  cases expr <;> rfl

theorem Expr.place_moved (expr : Expr) : (expr.moved move).place = move expr.place := by
  cases expr <;> rfl

theorem Stmt.head?_moved (stmt : Stmt) :
    (stmt.moved move).head? = stmt.head?.map (Prod.map id move) := by
  cases stmt <;> rfl

theorem Branch.stmt?_moved (branch : Branch) :
    (branch.moved move).stmt? = branch.stmt?.map (Stmt.moved move) := by
  cases branch <;> rfl

theorem Param.names_moved (params : List Param) :
    (params.map (Param.moved move)).map (·.name) = params.map (·.name) := by
  rw [List.map_map]
  rfl

end

/-! ### Moving twice, and not at all -/

section

variable (first second : Place → Place)

mutual

theorem Expr.moved_moved (expr : Expr) :
    (expr.moved first).moved second = expr.moved (second ∘ first) := by
  cases expr with
  | literal value place | ident name place => rfl
  | call callee method arguments place =>
      simp only [Expr.moved, Expr.movedAll_movedAll arguments, Function.comp]
  | binary op left right place =>
      simp only [Expr.moved, left.moved_moved, right.moved_moved, Function.comp]
  | unary op operand place => simp only [Expr.moved, operand.moved_moved, Function.comp]
  | list items place => simp only [Expr.moved, Expr.movedAll_movedAll items, Function.comp]
  | map entries place =>
      simp only [Expr.moved, Expr.movedEntries_movedEntries entries, Function.comp]
  | index target position place =>
      simp only [Expr.moved, target.moved_moved, position.moved_moved, Function.comp]

theorem Expr.movedAll_movedAll (exprs : List Expr) :
    Expr.movedAll second (Expr.movedAll first exprs) = Expr.movedAll (second ∘ first) exprs := by
  cases exprs with
  | nil => rfl
  | cons expr rest => simp only [Expr.movedAll, expr.moved_moved, Expr.movedAll_movedAll rest]

theorem Expr.movedEntries_movedEntries (entries : List (MapKey × Expr)) :
    Expr.movedEntries second (Expr.movedEntries first entries) =
      Expr.movedEntries (second ∘ first) entries := by
  match entries with
  | [] => rfl
  | (key, value) :: rest =>
      simp only [Expr.movedEntries, value.moved_moved, Expr.movedEntries_movedEntries rest]
      rfl

end

theorem LoopHead.moved_moved (head : LoopHead) :
    (head.moved first).moved second = head.moved (second ∘ first) := by
  cases head <;> simp only [LoopHead.moved, Expr.moved_moved]

mutual

theorem Stmt.moved_moved (stmt : Stmt) :
    (stmt.moved first).moved second = stmt.moved (second ∘ first) := by
  cases stmt with
  | expression value => simp only [Stmt.moved, Expr.moved_moved]
  | block body place => simp only [Stmt.moved, Stmt.movedAll_movedAll body, Function.comp]
  | declare name initial place =>
      cases initial <;> simp [Stmt.moved, Expr.moved_moved]
  | assign name value place => simp only [Stmt.moved, Expr.moved_moved, Function.comp]
  | define name byname params body bodyPlace place =>
      simp only [Stmt.moved, Stmt.movedAll_movedAll body, List.map_map, Function.comp]
      rfl
  | conditional guard body bodyPlace otherwise place =>
      simp only [Stmt.moved, Expr.moved_moved, Stmt.movedAll_movedAll body, otherwise.moved_moved,
        Function.comp]
  | loop head body bodyPlace place =>
      simp only [Stmt.moved, LoopHead.moved_moved, Stmt.movedAll_movedAll body, Function.comp]
  | giveBack value place => cases value <;> simp [Stmt.moved, Expr.moved_moved]
  | output what place =>
      match what with
      | none => rfl
      | some (value, none) | some (value, some count) => simp [Stmt.moved, Expr.moved_moved]

theorem Stmt.movedAll_movedAll (stmts : List Stmt) :
    Stmt.movedAll second (Stmt.movedAll first stmts) = Stmt.movedAll (second ∘ first) stmts := by
  cases stmts with
  | nil => rfl
  | cons stmt rest => simp only [Stmt.movedAll, stmt.moved_moved, Stmt.movedAll_movedAll rest]

theorem Branch.moved_moved (branch : Branch) :
    (branch.moved first).moved second = branch.moved (second ∘ first) := by
  cases branch with
  | absent => rfl
  | block body place => simp only [Branch.moved, Stmt.movedAll_movedAll body, Function.comp]
  | conditional guard body bodyPlace otherwise place =>
      simp only [Branch.moved, Expr.moved_moved, Stmt.movedAll_movedAll body,
        otherwise.moved_moved, Function.comp]

end

end

theorem Program.moved_moved (first second : Place → Place) (program : Program) :
    (program.moved first).moved second = program.moved (second ∘ first) :=
  Stmt.movedAll_movedAll first second program

/-! ### The places of a program -/

mutual

def Expr.places : Expr → List Place
  | .literal _ place | .ident _ place => [place]
  | .call _ _ arguments place => place :: Expr.allPlaces arguments
  | .binary _ left right place => place :: (left.places ++ right.places)
  | .unary _ operand place => place :: operand.places
  | .list items place => place :: Expr.allPlaces items
  | .map entries place => place :: Expr.entryPlaces entries
  | .index target position place => place :: (target.places ++ position.places)

def Expr.allPlaces : List Expr → List Place
  | [] => []
  | expr :: rest => expr.places ++ Expr.allPlaces rest

def Expr.entryPlaces : List (MapKey × Expr) → List Place
  | [] => []
  | (key, value) :: rest => key.place :: (value.places ++ Expr.entryPlaces rest)

end

def LoopHead.places (head : LoopHead) : List Place := head.expr.places

mutual

def Stmt.places : Stmt → List Place
  | .expression value => value.places
  | .block body place => place :: Stmt.allPlaces body
  | .declare _ initial place => place :: Expr.allPlaces initial.toList
  | .assign _ value place => place :: value.places
  | .define _ _ params body bodyPlace place =>
      place :: bodyPlace :: (params.map (·.place) ++ Stmt.allPlaces body)
  | .conditional guard body bodyPlace otherwise place =>
      place :: bodyPlace :: (guard.places ++ Stmt.allPlaces body ++ otherwise.places)
  | .loop head body bodyPlace place =>
      place :: bodyPlace :: (head.places ++ Stmt.allPlaces body)
  | .giveBack value place => place :: Expr.allPlaces value.toList
  | .output what place => place :: Expr.allPlaces (Stmt.outputArguments what)

def Stmt.allPlaces : List Stmt → List Place
  | [] => []
  | stmt :: rest => stmt.places ++ Stmt.allPlaces rest

def Branch.places : Branch → List Place
  | .absent => []
  | .block body place => place :: Stmt.allPlaces body
  | .conditional guard body bodyPlace otherwise place =>
      place :: bodyPlace :: (guard.places ++ Stmt.allPlaces body ++ otherwise.places)

end

def Program.places (program : Program) : List Place := Stmt.allPlaces program

section

variable (move : Place → Place)

mutual

theorem Expr.places_moved (expr : Expr) : (expr.moved move).places = expr.places.map move := by
  cases expr with
  | literal value place | ident name place => rfl
  | call callee method arguments place =>
      simp only [Expr.moved, Expr.places, Expr.allPlaces_moved arguments, List.map_cons]
  | binary op left right place =>
      simp only [Expr.moved, Expr.places, left.places_moved, right.places_moved, List.map_cons,
        List.map_append]
  | unary op operand place =>
      simp only [Expr.moved, Expr.places, operand.places_moved, List.map_cons]
  | list items place =>
      simp only [Expr.moved, Expr.places, Expr.allPlaces_moved items, List.map_cons]
  | map entries place =>
      simp only [Expr.moved, Expr.places, Expr.entryPlaces_moved entries, List.map_cons]
  | index target position place =>
      simp only [Expr.moved, Expr.places, target.places_moved, position.places_moved, List.map_cons,
        List.map_append]

theorem Expr.allPlaces_moved (exprs : List Expr) :
    Expr.allPlaces (Expr.movedAll move exprs) = (Expr.allPlaces exprs).map move := by
  cases exprs with
  | nil => rfl
  | cons expr rest =>
      simp only [Expr.movedAll, Expr.allPlaces, expr.places_moved, Expr.allPlaces_moved rest,
        List.map_append]

theorem Expr.entryPlaces_moved (entries : List (MapKey × Expr)) :
    Expr.entryPlaces (Expr.movedEntries move entries) = (Expr.entryPlaces entries).map move := by
  match entries with
  | [] => rfl
  | (key, value) :: rest =>
      simp only [Expr.movedEntries, Expr.entryPlaces, value.places_moved,
        Expr.entryPlaces_moved rest, List.map_append, List.map_cons, MapKey.moved]

end

theorem LoopHead.places_moved (head : LoopHead) :
    (head.moved move).places = head.places.map move := by
  cases head <;> exact Expr.places_moved move _

mutual

theorem Stmt.places_moved (stmt : Stmt) : (stmt.moved move).places = stmt.places.map move := by
  cases stmt with
  | expression value => exact value.places_moved move
  | block body place =>
      simp only [Stmt.moved, Stmt.places, Stmt.allPlaces_moved body, List.map_cons]
  | declare name initial place =>
      cases initial <;> simp [Stmt.moved, Stmt.places, Expr.allPlaces, Expr.places_moved]
  | assign name value place => simp only [Stmt.moved, Stmt.places, Expr.places_moved, List.map_cons]
  | define name byname params body bodyPlace place =>
      simp only [Stmt.moved, Stmt.places, Stmt.allPlaces_moved body, List.map_cons, List.map_append,
        List.map_map]
      rfl
  | conditional guard body bodyPlace otherwise place =>
      simp only [Stmt.moved, Stmt.places, Expr.places_moved, Stmt.allPlaces_moved body,
        otherwise.places_moved, List.map_cons, List.map_append]
  | loop head body bodyPlace place =>
      simp only [Stmt.moved, Stmt.places, LoopHead.places_moved, Stmt.allPlaces_moved body,
        List.map_cons, List.map_append]
  | giveBack value place =>
      cases value <;> simp [Stmt.moved, Stmt.places, Expr.allPlaces, Expr.places_moved]
  | output what place =>
      match what with
      | none => rfl
      | some (value, none) | some (value, some count) =>
          simp [Stmt.moved, Stmt.places, Stmt.outputArguments, Expr.allPlaces, Expr.places_moved]

theorem Stmt.allPlaces_moved (stmts : List Stmt) :
    Stmt.allPlaces (Stmt.movedAll move stmts) = (Stmt.allPlaces stmts).map move := by
  cases stmts with
  | nil => rfl
  | cons stmt rest =>
      simp only [Stmt.movedAll, Stmt.allPlaces, stmt.places_moved, Stmt.allPlaces_moved rest,
        List.map_append]

theorem Branch.places_moved (branch : Branch) :
    (branch.moved move).places = branch.places.map move := by
  cases branch with
  | absent => rfl
  | block body place =>
      simp only [Branch.moved, Branch.places, Stmt.allPlaces_moved body, List.map_cons]
  | conditional guard body bodyPlace otherwise place =>
      simp only [Branch.moved, Branch.places, Expr.places_moved, Stmt.allPlaces_moved body,
        otherwise.places_moved, List.map_cons, List.map_append]

end

theorem Program.places_moved (program : Program) :
    (program.moved move).places = program.places.map move :=
  Stmt.allPlaces_moved move program

end

/-! ### Moves that leave a program as it is -/

section

variable {move : Place → Place}

mutual

theorem Expr.moved_of_fixed (expr : Expr) (fixed : ∀ place ∈ expr.places, move place = place) :
    expr.moved move = expr := by
  cases expr with
  | literal value place | ident name place =>
      simp only [Expr.places, List.forall_mem_singleton] at fixed
      simp only [Expr.moved, fixed]
  | call callee method arguments place =>
      simp only [Expr.places, List.forall_mem_cons] at fixed
      simp only [Expr.moved, fixed.1, Expr.movedAll_of_fixed arguments fixed.2]
  | binary op left right place =>
      simp only [Expr.places, List.forall_mem_cons, List.forall_mem_append] at fixed
      simp only [Expr.moved, fixed.1, left.moved_of_fixed fixed.2.1,
        right.moved_of_fixed fixed.2.2]
  | unary op operand place =>
      simp only [Expr.places, List.forall_mem_cons] at fixed
      simp only [Expr.moved, fixed.1, operand.moved_of_fixed fixed.2]
  | list items place =>
      simp only [Expr.places, List.forall_mem_cons] at fixed
      simp only [Expr.moved, fixed.1, Expr.movedAll_of_fixed items fixed.2]
  | map entries place =>
      simp only [Expr.places, List.forall_mem_cons] at fixed
      simp only [Expr.moved, fixed.1, Expr.movedEntries_of_fixed entries fixed.2]
  | index target position place =>
      simp only [Expr.places, List.forall_mem_cons, List.forall_mem_append] at fixed
      simp only [Expr.moved, fixed.1, target.moved_of_fixed fixed.2.1,
        position.moved_of_fixed fixed.2.2]

theorem Expr.movedAll_of_fixed (exprs : List Expr)
    (fixed : ∀ place ∈ Expr.allPlaces exprs, move place = place) :
    Expr.movedAll move exprs = exprs := by
  cases exprs with
  | nil => rfl
  | cons expr rest =>
      simp only [Expr.allPlaces, List.forall_mem_append] at fixed
      simp only [Expr.movedAll, expr.moved_of_fixed fixed.1, Expr.movedAll_of_fixed rest fixed.2]

theorem Expr.movedEntries_of_fixed (entries : List (MapKey × Expr))
    (fixed : ∀ place ∈ Expr.entryPlaces entries, move place = place) :
    Expr.movedEntries move entries = entries := by
  match entries with
  | [] => rfl
  | (key, value) :: rest =>
      simp only [Expr.entryPlaces, List.forall_mem_cons, List.forall_mem_append] at fixed
      simp only [Expr.movedEntries, MapKey.moved, fixed.1, value.moved_of_fixed fixed.2.1,
        Expr.movedEntries_of_fixed rest fixed.2.2]

end

theorem LoopHead.moved_of_fixed (head : LoopHead)
    (fixed : ∀ place ∈ head.places, move place = place) : head.moved move = head := by
  cases head <;> exact congrArg _ (Expr.moved_of_fixed _ fixed)

theorem Param.moved_of_fixed (params : List Param)
    (fixed : ∀ place ∈ params.map (·.place), move place = place) :
    params.map (Param.moved move) = params := by
  induction params with
  | nil => rfl
  | cons param rest ih =>
      simp only [List.map_cons, List.forall_mem_cons] at fixed
      simp only [List.map_cons, Param.moved, fixed.1]
      exact congrArg _ (ih fixed.2)

mutual

theorem Stmt.moved_of_fixed (stmt : Stmt) (fixed : ∀ place ∈ stmt.places, move place = place) :
    stmt.moved move = stmt := by
  -- the places of a statement are its own and, behind it, those of its parts
  cases stmt with
  | expression value => exact congrArg _ (value.moved_of_fixed fixed)
  | block body place =>
      simp only [Stmt.places, List.forall_mem_cons] at fixed
      simp only [Stmt.moved, fixed.1, Stmt.movedAll_of_fixed body fixed.2]
  | declare name initial place =>
      cases initial with
      | none => simpa [Stmt.moved, Stmt.places, Expr.allPlaces] using fixed
      | some value =>
          simp only [Stmt.places, Option.toList, Expr.allPlaces, List.append_nil,
            List.forall_mem_cons] at fixed
          simp only [Stmt.moved, Option.map_some, fixed.1, value.moved_of_fixed fixed.2]
  | assign name value place =>
      simp only [Stmt.places, List.forall_mem_cons] at fixed
      simp only [Stmt.moved, fixed.1, value.moved_of_fixed fixed.2]
  | define name byname params body bodyPlace place =>
      simp only [Stmt.places, List.forall_mem_cons, List.forall_mem_append] at fixed
      simp only [Stmt.moved, fixed.1, fixed.2.1, Param.moved_of_fixed params fixed.2.2.1,
        Stmt.movedAll_of_fixed body fixed.2.2.2]
  | conditional guard body bodyPlace otherwise place =>
      simp only [Stmt.places, List.forall_mem_cons, List.forall_mem_append] at fixed
      simp only [Stmt.moved, fixed.1, fixed.2.1, guard.moved_of_fixed fixed.2.2.1.1,
        Stmt.movedAll_of_fixed body fixed.2.2.1.2, otherwise.moved_of_fixed fixed.2.2.2]
  | loop head body bodyPlace place =>
      simp only [Stmt.places, List.forall_mem_cons, List.forall_mem_append] at fixed
      simp only [Stmt.moved, fixed.1, fixed.2.1, head.moved_of_fixed fixed.2.2.1,
        Stmt.movedAll_of_fixed body fixed.2.2.2]
  | giveBack value place =>
      cases value with
      | none => simpa [Stmt.moved, Stmt.places, Expr.allPlaces] using fixed
      | some value =>
          simp only [Stmt.places, Option.toList, Expr.allPlaces, List.append_nil,
            List.forall_mem_cons] at fixed
          simp only [Stmt.moved, Option.map_some, fixed.1, value.moved_of_fixed fixed.2]
  | output what place =>
      match what with
      | none => simpa [Stmt.moved, Stmt.places, Stmt.outputArguments, Expr.allPlaces] using fixed
      | some (value, none) =>
          simp only [Stmt.places, Stmt.outputArguments, Option.toList, Expr.allPlaces,
            List.append_nil, List.forall_mem_cons] at fixed
          simp only [Stmt.moved, Option.map_some, Option.map_none, fixed.1,
            value.moved_of_fixed fixed.2]
      | some (value, some count) =>
          simp only [Stmt.places, Stmt.outputArguments, Option.toList, Expr.allPlaces,
            List.append_nil, List.forall_mem_cons, List.forall_mem_append] at fixed
          simp only [Stmt.moved, Option.map_some, fixed.1, value.moved_of_fixed fixed.2.1,
            count.moved_of_fixed fixed.2.2]

theorem Stmt.movedAll_of_fixed (stmts : List Stmt)
    (fixed : ∀ place ∈ Stmt.allPlaces stmts, move place = place) :
    Stmt.movedAll move stmts = stmts := by
  cases stmts with
  | nil => rfl
  | cons stmt rest =>
      simp only [Stmt.allPlaces, List.forall_mem_append] at fixed
      simp only [Stmt.movedAll, stmt.moved_of_fixed fixed.1, Stmt.movedAll_of_fixed rest fixed.2]

theorem Branch.moved_of_fixed (branch : Branch)
    (fixed : ∀ place ∈ branch.places, move place = place) : branch.moved move = branch := by
  cases branch with
  | absent => rfl
  | block body place =>
      simp only [Branch.places, List.forall_mem_cons] at fixed
      simp only [Branch.moved, fixed.1, Stmt.movedAll_of_fixed body fixed.2]
  | conditional guard body bodyPlace otherwise place =>
      simp only [Branch.places, List.forall_mem_cons, List.forall_mem_append] at fixed
      simp only [Branch.moved, fixed.1, fixed.2.1, guard.moved_of_fixed fixed.2.2.1.1,
        Stmt.movedAll_of_fixed body fixed.2.2.1.2, otherwise.moved_of_fixed fixed.2.2.2]

end

theorem Program.moved_of_fixed (program : Program)
    (fixed : ∀ place ∈ program.places, move place = place) : program.moved move = program :=
  Stmt.movedAll_of_fixed program fixed

end

@[simp] theorem Expr.moved_id (expr : Expr) : expr.moved id = expr :=
  expr.moved_of_fixed fun _ _ => rfl

@[simp] theorem Stmt.moved_id (stmt : Stmt) : stmt.moved id = stmt :=
  stmt.moved_of_fixed fun _ _ => rfl

@[simp] theorem Stmt.movedAll_id (stmts : List Stmt) : Stmt.movedAll id stmts = stmts :=
  Stmt.movedAll_of_fixed stmts fun _ _ => rfl

theorem Stmt.outputs_id (what : Option (Expr × Option Expr)) :
    (what.map fun (value, count) => (value.moved id, count.map (Expr.moved id))) = what := by
  match what with
  | none => rfl
  | some (value, none) | some (value, some count) => simp

@[simp] theorem Program.moved_id (program : Program) : program.moved id = program :=
  Stmt.movedAll_id program

end Parlance
