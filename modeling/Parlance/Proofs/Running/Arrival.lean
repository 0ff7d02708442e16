import Parlance.Proofs.Arena.Lookup
import Parlance.Proofs.Running.Anchoring
import Parlance.Proofs.Running.Numbering
import Parlance.Proofs.Running.Restriction

/-!
Where runs come to. A run comes to a statement behind others, in blocks and branches, in rounds of
loops and in functions that are called; what it does there is part of what the whole run does. If
nothing on the way binds a name or assigns to it, the name still resolves to the value that it
resolved to at the start.
-/

namespace Parlance

/-- What is left to do somewhere in a run. -/
inductive Task where
  | statements (last : Outcome) (body : List Stmt)
  | performing (stmt : Stmt)
  | rounds (items : Evaluation.Items) (item : Option String) (body : List Stmt) (bodyPlace : Place)
      (left index : Nat)
  | guarded (guard : Expr) (body : List Stmt) (left index : Nat)

namespace Evaluation

variable (around : Surroundings) (inner : Runner)

def announce (stmt : Stmt) : Run Unit :=
  match stmt.head? with
  | some (kind, place) => visit around kind place
  | none => pure ()

theorem exec_eq (stmt : Stmt) :
    exec around inner stmt = announce around stmt >>= fun _ => perform around inner stmt := by
  simp only [exec, announce]
  cases stmt.head? <;> rfl

def bindRound (index : Nat) (item : Option (String × Value)) : Run Unit := do
  declareAll (.number (Float.ofNat index)) around.settings.loopIndex
  match item with
  | some (name, value) => declare name value
  | none => pure ()

theorem round_eq (index : Nat) (item : Option (String × Value)) (body : List Stmt) :
    round around inner index item body =
      inFresh around (bindRound around index item >>= fun _ => execBody inner body) := by
  simp only [round, bindRound, bind_assoc]
  cases item <;> rfl

end Evaluation

open Evaluation

def Task.run (around : Surroundings) (inner : Runner) : Task → Run Outcome
  | .statements last body => execAll inner last body
  | .performing stmt => perform around inner stmt
  | .rounds items item body bodyPlace left index =>
      execRounds around inner items item body bodyPlace left index
  | .guarded guard body left index => execGuarded around inner guard body left index

namespace Machine

def fresh (machine : Machine) : Machine := { machine with arena := machine.arena.pushFresh }

/-- In the scope that a function captured, if that is still there. -/
def entering (closure : Closure) (machine : Machine) : Machine :=
  match closure.scope with
  | none => machine
  | some id =>
      if machine.arena.isLive id then
        { machine with arena := (machine.arena.push id).carry (.function closure) }
      else { machine with strays := closure.name :: machine.strays }

end Machine

/-- The run of a task comes to a statement, at some depth, and on the way there nothing binds a name
and nothing assigns to it, but in scopes that were left again. -/
inductive Arrives (around : Surroundings) (name : String) (target : Stmt) :
    Nat → Task → Machine → Nat → Machine → Prop
  | here {depth : Nat} {last : Outcome} {rest : List Stmt} {machine : Machine} :
      Arrives around name target depth (.statements last (target :: rest)) machine depth machine
  | behind {depth depth' : Nat} {last outcome : Outcome} {stmt : Stmt} {rest : List Stmt}
      {machine between after : Machine} (unbound : name ∉ stmt.binds) (spared : name ∉ stmt.targets)
      (ran : (Runner.ofDepth around depth).exec stmt machine = .ok outcome between)
      (goes : outcome.returned = false)
      (arrives : Arrives around name target depth (.statements outcome rest) between depth' after) :
      Arrives around name target depth (.statements last (stmt :: rest)) machine depth' after
  | into {depth depth' : Nat} {last : Outcome} {stmt : Stmt} {rest : List Stmt}
      {machine between after : Machine} (announced : announce around stmt machine = .ok () between)
      (arrives : Arrives around name target depth (.performing stmt) between depth' after) :
      Arrives around name target (depth + 1) (.statements last (stmt :: rest)) machine depth' after
  | block {depth depth' : Nat} {body : List Stmt} {place : Place} {machine after : Machine}
      (arrives : Arrives around name target depth (.statements .normal body) machine.fresh depth'
        after) :
      Arrives around name target depth (.performing (.block body place)) machine depth' after
  | branch {depth depth' : Nat} {guard : Expr} {body : List Stmt} {bodyPlace place : Place}
      {otherwise : Branch} {value : Value} {stmt : Stmt} {machine between after : Machine}
      (ran : (Runner.ofDepth around depth).eval guard machine = .ok value between)
      (taken : (if value.toBool then some (.block body bodyPlace) else otherwise.stmt?) = some stmt)
      (arrives : Arrives around name target depth (.statements .normal [stmt]) between depth'
        after) :
      Arrives around name target depth (.performing (.conditional guard body bodyPlace otherwise
        place)) machine depth' after
  | count {depth depth' : Nat} {rounds : Expr} {body : List Stmt} {bodyPlace place : Place}
      {value : Value} {machine between after : Machine}
      (ran : (Runner.ofDepth around depth).eval rounds machine = .ok value between)
      (arrives : Arrives around name target depth (.rounds (.upTo (Value.countOf value.toNumber))
        none body bodyPlace (Value.countOf value.toNumber) 0) between depth' after) :
      Arrives around name target depth (.performing (.loop (.count rounds) body bodyPlace place))
        machine depth' after
  | each {depth depth' : Nat} {item : Option String} {list : Expr} {body : List Stmt}
      {bodyPlace place : Place} {value : Value} {machine between after : Machine}
      (ran : (Runner.ofDepth around depth).eval list machine = .ok value between)
      (arrives : Arrives around name target depth (.rounds (.ofValue value) item body bodyPlace
        (Items.ofValue value).count 0) between depth' after) :
      Arrives around name target depth (.performing (.loop (.each item list) body bodyPlace place))
        machine depth' after
  | while {depth depth' : Nat} {guard : Expr} {body : List Stmt} {bodyPlace place : Place}
      {machine after : Machine}
      (arrives : Arrives around name target depth (.guarded guard body around.rounds 0) machine
        depth' after) :
      Arrives around name target depth (.performing (.loop (.guard guard) body bodyPlace place))
        machine depth' after
  | round {depth depth' left index : Nat} {items : Items} {item : Option String}
      {body : List Stmt} {bodyPlace : Place} {machine visited inside after : Machine}
      (announced : visit around .block bodyPlace machine = .ok () visited)
      (unbound : name ∉ around.settings.loopIndex) (unbound' : item ≠ some name)
      (bound : bindRound around index (item.map fun item => (item, items.item index))
        visited.fresh = .ok () inside)
      (arrives : Arrives around name target depth (.statements .normal body) inside depth' after) :
      Arrives around name target depth (.rounds items item body bodyPlace (left + 1) index) machine
        depth' after
  | rounds {depth depth' left index : Nat} {items : Items} {item : Option String}
      {body : List Stmt} {bodyPlace : Place} {outcome : Outcome}
      {machine visited between after : Machine}
      (announced : visit around .block bodyPlace machine = .ok () visited)
      (spared : name ∉ Stmt.allTargets body)
      (ran : Evaluation.round around (.ofDepth around depth) index
        (item.map fun item => (item, items.item index)) body visited = .ok outcome between)
      (goes : outcome.returned = false)
      (arrives : Arrives around name target depth (.rounds items item body bodyPlace left
        (index + 1)) between depth' after) :
      Arrives around name target depth (.rounds items item body bodyPlace (left + 1) index) machine
        depth' after
  | pass {depth depth' left index : Nat} {guard : Expr} {body : List Stmt} {value : Value}
      {machine between inside after : Machine}
      (ran : (Runner.ofDepth around depth).eval guard machine = .ok value between)
      (holds : value.toBool = true) (unbound : name ∉ around.settings.loopIndex)
      (bound : bindRound around index none between.fresh = .ok () inside)
      (arrives : Arrives around name target depth (.statements .normal body) inside depth' after) :
      Arrives around name target depth (.guarded guard body (left + 1) index) machine depth' after
  | passes {depth depth' left index : Nat} {guard : Expr} {body : List Stmt} {value : Value}
      {outcome : Outcome} {machine between next after : Machine}
      (ran : (Runner.ofDepth around depth).eval guard machine = .ok value between)
      (holds : value.toBool = true) (spared : name ∉ Stmt.allTargets body)
      (ran' : Evaluation.round around (.ofDepth around depth) index none body between =
        .ok outcome next)
      (goes : outcome.returned = false)
      (arrives : Arrives around name target depth (.guarded guard body left (index + 1)) next depth'
        after) :
      Arrives around name target depth (.guarded guard body (left + 1) index) machine depth' after
  | call {depth depth' : Nat} {callee : String} {method : Option String} {arguments : List Expr}
      {place : Place} {values : List Value} {closure : Closure}
      {machine visited between inside after : Machine}
      (announced : visit around .call place machine = .ok () visited)
      (ran : evalAll (.ofDepth around (depth + 1)) arguments visited = .ok values between)
      (unhosted : method = none ∨ around.modules.has callee = false)
      (found : between.arena.resolve callee = .ok (some (.function closure)))
      (unbound : name ∉ closure.params)
      (clear : ∀ id, closure.scope = some id → between.arena.boundIn name id = none ∨
        between.arena.firstHolder name (Arena.scopeOrder between.arena.stack) = some id)
      (bound : bindParams closure.params values (between.entering closure).fresh = .ok () inside)
      (arrives : Arrives around name target depth (.statements .normal closure.body) inside depth'
        after) :
      Arrives around name target (depth + 2) (.performing (.expression (.call callee method
        arguments place))) machine depth' after

/-! ### What the parts of a run keep -/

namespace Frame.Primitives

variable {frame : Frame} {around : Surroundings} {depth : Nat}
  (primitives : frame.Primitives around)

include primitives

theorem keeps_eval (depth : Nat) (expr : Expr) :
    frame.Keeps ((Runner.ofDepth around depth).eval expr) :=
  (primitives.keeps_parts depth).eval Set.univ [] expr

theorem keeps_exec (depth : Nat) (stmt : Stmt) :
    frame.Keeps ((Runner.ofDepth around depth).exec stmt) :=
  (primitives.keeps_parts depth).exec Set.univ [] stmt

theorem keeps_announce (stmt : Stmt) : frame.Keeps (announce around stmt) := by
  rw [announce]
  cases stmt.head? with
  | none => exact keeps_pure ()
  | some head => exact primitives.visit head.1 head.2

theorem keeps_evalAll (depth : Nat) (exprs : List Expr) :
    frame.Keeps (evalAll (.ofDepth around depth) exprs) := by
  induction exprs with
  | nil => exact keeps_pure []
  | cons expr rest ih =>
      exact keeps_bind (primitives.keeps_eval depth expr) fun _ =>
        keeps_bind ih fun _ => keeps_pure _

theorem keeps_declareAll (value : Value) (names : List String) :
    frame.Keeps (declareAll value names) := by
  induction names with
  | nil => exact keeps_pure ()
  | cons name rest ih => exact keeps_bind (primitives.declare name value) fun _ => ih

theorem keeps_bindRound (index : Nat) (item : Option (String × Value)) :
    frame.Keeps (bindRound around index item) := by
  refine keeps_bind (primitives.keeps_declareAll _ _) fun _ => ?_
  cases item with
  | none => exact keeps_pure ()
  | some entry => exact primitives.declare entry.1 entry.2

theorem keeps_bindParams (params : List String) (arguments : List Value) :
    frame.Keeps (bindParams params arguments) := by
  induction params generalizing arguments with
  | nil => exact keeps_pure ()
  | cons param params ih =>
      cases arguments with
      | nil => exact keeps_bind (primitives.declare param .void) fun _ => ih []
      | cons value values => exact keeps_bind (primitives.declare param value) fun _ => ih values

theorem keeps_execAll (depth : Nat) (last : Outcome) (body : List Stmt) :
    frame.Keeps (execAll (.ofDepth around depth) last body) := by
  induction body generalizing last with
  | nil => exact keeps_pure last
  | cons stmt rest ih =>
      refine keeps_bind (primitives.keeps_exec depth stmt) fun outcome => ?_
      split
      · exact keeps_pure outcome
      · exact ih outcome

theorem keeps_round (depth index : Nat) (item : Option (String × Value)) (body : List Stmt) :
    frame.Keeps (round around (.ofDepth around depth) index item body) := by
  rw [round_eq]
  refine primitives.keeps_inFresh (keeps_bind (primitives.keeps_bindRound index item) fun _ => ?_)
  exact primitives.keeps_execAll depth .normal body

theorem keeps_execRounds (depth : Nat) (items : Items) (item : Option String) (body : List Stmt)
    (bodyPlace : Place) (left index : Nat) :
    frame.Keeps
      (execRounds around (.ofDepth around depth) items item body bodyPlace left index) := by
  induction left generalizing index with
  | zero => exact keeps_pure Outcome.normal
  | succ left ih =>
      refine keeps_bind (primitives.visit .block bodyPlace) fun _ => ?_
      refine keeps_bind (primitives.keeps_round depth index _ body) fun outcome => ?_
      split
      · exact keeps_pure outcome
      · exact ih (index + 1)

theorem keeps_execGuarded (depth : Nat) (guard : Expr) (body : List Stmt) (left index : Nat) :
    frame.Keeps (execGuarded around (.ofDepth around depth) guard body left index) := by
  induction left generalizing index with
  | zero => exact keeps_still fun _ => rfl
  | succ left ih =>
      refine keeps_bind (primitives.keeps_eval depth guard) fun value => ?_
      split
      · refine keeps_bind (primitives.keeps_round depth index none body) fun outcome => ?_
        split
        · exact keeps_pure outcome
        · exact ih (index + 1)
      · exact keeps_pure Outcome.normal

end Frame.Primitives

/-! ### What the name resolves to -/

/-- An intact arena that holds no function that assigns to a name. -/
structure Arena.Clear (name : String) (stack : List Nat) (arena : Arena) : Prop
    extends arena.Bears (fun closure => name ∉ Stmt.allTargets closure.body) stack where
  numbered : arena.Numbered

/-- A name resolves to a value, and there is nothing in the arena that could change that. -/
structure Arena.Steady (name : String) (value : Value) (stack : List Nat) (arena : Arena) : Prop
    extends arena.Clear name stack where
  resolves : arena.resolve name = .ok (some value)

namespace Arena.Clear

variable {name : String} {stack : List Nat} {arena : Arena} {machine after : Machine}

theorem anchors (clear : arena.Clear name stack) : arena.Anchors name (fun _ => none) stack :=
  ⟨clear.toBears, nofun, nofun⟩

/-- Whether a run binds the name where it stands or not, the arena stays clear. -/
theorem after_secures {α : Type} [Capturing α] [Bearing α] {binds : Prop} {run : Run α} {a : α}
    (clear : machine.arena.Clear name stack) (secures : Run.Secures name binds run)
    (keeps : Frame.numbered.Keeps run) (ran : run machine = .ok a after) :
    Harmless name a ∧ after.arena.Clear name stack := by
  have anchored := secures machine _ stack clear.anchors fun _ => rfl
  have numbered := keeps machine clear.numbered
  rw [ran] at anchored numbered
  exact ⟨anchored.1, anchored.2.toBears, numbered⟩

theorem pushFresh (clear : arena.Clear name stack) :
    arena.pushFresh.Clear name (arena.nextId :: stack) :=
  ⟨clear.toBears.pushFresh, clear.numbered.pushFresh⟩

end Arena.Clear

theorem Arena.empty_clear (name : String) : Arena.empty.Clear name [] where
  intact := Arena.Intact.empty.locals
  numbered id live := by
    by_cases global : globalId = id
    · exact global ▸ Nat.one_pos
    · simp [Arena.empty, isLive, Table.has, Table.get?, global] at live
  kindred := by
    rintro closure ⟨id, bindings, key, value, found, here, _⟩
    by_cases global : globalId = id
    · obtain rfl : [] = bindings := by simpa [Arena.empty, Table.get?, global] using found
      cases here
    · simp [Arena.empty, Table.get?, global] at found

namespace Arena.Steady

variable {name : String} {value : Value} {stack : List Nat} {arena : Arena}
  {machine after : Machine}

def watch (name : String) (stack : List Nat) (arena : Arena) : Watch := fun id =>
  if id ∈ scopeOrder stack then some (arena.boundIn name id) else none

theorem live (steady : arena.Steady name value stack) {id : Nat} (member : id ∈ scopeOrder stack) :
    arena.isLive id = true := by
  rcases List.mem_append.mp member with entered | global
  · exact steady.intact.sound.entered_live id entered
  · exact List.mem_singleton.mp global ▸ steady.intact.sound.global_live

theorem anchors (steady : arena.Steady name value stack) :
    arena.Anchors name (watch name stack arena) stack where
  toBears := steady.toBears
  below id held here := by
    simp only [watch] at here
    split at here
    · rename_i member
      exact steady.numbered id (steady.live member)
    · cases here
  bound id held here bindings found := by
    simp only [watch] at here
    split at here
    · rw [← Option.some.inj here, boundIn, found, Option.bind_some]
    · cases here

/-- A run that leaves the name bound as it is leaves it steady. -/
theorem after_secures {α : Type} [Capturing α] [Bearing α] {run : Run α} {a : α}
    (steady : machine.arena.Steady name value stack) (secures : Run.Secures name False run)
    (keeps : Frame.numbered.Keeps run) (ran : run machine = .ok a after) :
    Harmless name a ∧ after.arena.Steady name value stack := by
  obtain ⟨harmless, clear⟩ := steady.toClear.after_secures secures keeps ran
  have anchored := secures machine _ stack steady.anchors nofun
  rw [ran] at anchored
  obtain ⟨_, anchors⟩ := anchored
  refine ⟨harmless, clear, ?_⟩
  refine (steady.intact.sound.resolve_congr anchors.intact.sound fun id member => ?_).trans
    steady.resolves
  have here : watch name stack machine.arena id = some (machine.arena.boundIn name id) :=
    if_pos member
  have alive : after.arena.isLive id = true := by
    rcases List.mem_append.mp member with entered | global
    · exact anchors.intact.sound.entered_live id entered
    · exact List.mem_singleton.mp global ▸ anchors.intact.sound.global_live
  obtain ⟨bindings, found⟩ := (isLive_iff after.arena id).mp alive
  rw [← anchors.bound id _ here bindings found, boundIn, found, Option.bind_some]

/-- A fresh scope binds nothing yet. -/
theorem pushFresh (steady : arena.Steady name value stack) :
    arena.pushFresh.Steady name value (arena.nextId :: stack) :=
  ⟨steady.toClear.pushFresh,
    (steady.intact.sound.resolve_pushFresh steady.numbered name).trans steady.resolves⟩

/-- A scope that is entered once more hides nothing, if it does not bind the name or is the one
that holds it. -/
theorem push (steady : arena.Steady name value stack) {id : Nat} (live : arena.isLive id = true)
    (here : id ∈ locals) (clear : arena.boundIn name id = none ∨
      arena.firstHolder name (scopeOrder stack) = some id) :
    (arena.push id).Steady name value (id :: stack) := by
  have intact := steady.intact.push live here
  refine ⟨⟨steady.toBears.push live here, steady.numbered⟩, ?_⟩
  have resolves := steady.resolves
  rw [steady.intact.sound.resolve_eq] at resolves
  have found : arena.lookup name (scopeOrder stack) = some value := Except.ok.inj resolves
  have same : (arena.push id).boundIn name = arena.boundIn name := rfl
  rw [intact.sound.resolve_cons, same, lookup_congr fun _ _ => congrFun same _, found]
  rcases clear with unbound | holder
  · rw [unbound, Option.none_or]
  · have bound : arena.boundIn name id = some value := by
      rwa [lookup, holder, Option.bind_some] at found
    rw [bound, Option.some_or]

theorem of_same (steady : arena.Steady name value stack) {other : Arena}
    (scopes : other.scopes = arena.scopes) (entered : other.stack = arena.stack)
    (pinned : other.pinned = arena.pinned) (nextId : other.nextId = arena.nextId) :
    other.Steady name value stack := by
  have intact := steady.intact.of_same scopes entered pinned nextId
  refine ⟨⟨steady.toBears.of_same intact scopes, ?_⟩, ?_⟩
  · exact steady.numbered.of_live (fun id live => isLive_congr scopes id ▸ live) nextId
  · refine (steady.intact.sound.resolve_congr intact.sound fun id _ => ?_).trans steady.resolves
    rw [boundIn, scopes, boundIn]

end Arena.Steady

/-- A function that is entered leaves the name as it is, unless it captured a scope that binds the
name to something else. -/
theorem Arena.Steady.entering {name : String} {value : Value} {stack : List Nat} {machine : Machine}
    (steady : machine.arena.Steady name value stack) {closure : Closure}
    (harmless : Harmless name (Value.function closure))
    (clear : ∀ id, closure.scope = some id → machine.arena.boundIn name id = none ∨
      machine.arena.firstHolder name (scopeOrder machine.arena.stack) = some id) :
    ∃ stack, (machine.entering closure).arena.Steady name value stack := by
  cases scope : closure.scope with
  | none =>
      simp only [Machine.entering, scope]
      exact ⟨stack, steady⟩
  | some id =>
      simp only [Machine.entering, scope]
      split
      · rename_i live
        have here : id ∈ locals := harmless.held id (by
          simp [Capturing.captured, Value.captured, scope])
        have clear' := clear id scope
        rw [steady.intact.sound.stack_eq] at clear'
        exact ⟨id :: stack, (steady.push live here clear').of_same (carry_scopes _ _)
          (carry_stack _ _) (carry_pinned _ _) (carry_nextId _ _)⟩
      · exact ⟨stack, steady⟩

/-! ### What binds another name -/

namespace Evaluation

variable {name : String} {around : Surroundings}

theorem announce_secures (stmt : Stmt) : Run.Secures name False (announce around stmt) := by
  rw [announce]
  cases stmt.head? with
  | none => exact .pure harmless_unit
  | some head => exact visit_secures head.1 head.2

theorem bindRound_secures {index : Nat} {item : Option (String × Value)}
    (unbound : name ∉ around.settings.loopIndex)
    (apart : ∀ entry ∈ item, entry.1 ≠ name ∧ Harmless name entry.2) :
    Run.Secures name False (bindRound around index item) := by
  refine .bind ((declareAll_secures _ (harmless_number _)).mono unbound) fun _ _ => ?_
  cases item with
  | none => exact .pure harmless_unit
  | some entry =>
      obtain ⟨differs, harmless⟩ := apart entry rfl
      exact (Run.Secures.declare harmless).mono differs

end Evaluation

/-! ### One step on the way -/

namespace Arena.Steady

variable {around : Surroundings} {name : String} {value : Value} {stack : List Nat} {depth : Nat}
  {machine between after : Machine}

theorem visit (steady : machine.arena.Steady name value stack) {kind : Node.Kind} {place : Place}
    (visited : Evaluation.visit around kind place machine = .ok () after) :
    after.arena.Steady name value stack := by
  have secures : Run.Secures name False (Evaluation.visit around kind place) := visit_secures _ _
  exact (steady.after_secures secures ((Frame.numbered_primitives around).visit _ _) visited).2

theorem announce (steady : machine.arena.Steady name value stack) {stmt : Stmt}
    (announced : Evaluation.announce around stmt machine = .ok () after) :
    after.arena.Steady name value stack := by
  have secures : Run.Secures name False (Evaluation.announce around stmt) := announce_secures stmt
  have keeps := (Frame.numbered_primitives around).keeps_announce stmt
  exact (steady.after_secures secures keeps announced).2

theorem bindRound (steady : machine.arena.Steady name value stack) {index : Nat}
    {item : Option (String × Value)} (unbound : name ∉ around.settings.loopIndex)
    (apart : ∀ entry ∈ item, entry.1 ≠ name ∧ Harmless name entry.2)
    (bound : Evaluation.bindRound around index item machine.fresh = .ok () after) :
    ∃ stack, after.arena.Steady name value stack := by
  have inside : machine.fresh.arena.Steady name value _ := steady.pushFresh
  have keeps := (Frame.numbered_primitives around).keeps_bindRound index item
  exact ⟨_, (inside.after_secures (bindRound_secures unbound apart) keeps bound).2⟩

section

variable (hosts : around.modules.Spares name)

include hosts

theorem exec (steady : machine.arena.Steady name value stack) {stmt : Stmt} {outcome : Outcome}
    (unbound : name ∉ stmt.binds) (spared : name ∉ stmt.targets)
    (ran : (Runner.ofDepth around depth).exec stmt machine = .ok outcome after) :
    after.arena.Steady name value stack := by
  have secures := ((Runner.ofDepth_secures hosts depth).exec stmt spared).mono unbound
  have keeps := (Frame.numbered_primitives around).keeps_exec depth stmt
  exact (steady.after_secures secures keeps ran).2

theorem eval (steady : machine.arena.Steady name value stack) {expr : Expr} {result : Value}
    (ran : (Runner.ofDepth around depth).eval expr machine = .ok result after) :
    Harmless name result ∧ after.arena.Steady name value stack := by
  have secures := (Runner.ofDepth_secures hosts depth).eval expr
  have keeps := (Frame.numbered_primitives around).keeps_eval depth expr
  exact steady.after_secures secures keeps ran

theorem round (steady : machine.arena.Steady name value stack) {index : Nat}
    {item : Option (String × Value)} {body : List Stmt} {outcome : Outcome}
    (harmless : ∀ entry ∈ item, Harmless name entry.2) (spared : name ∉ Stmt.allTargets body)
    (ran : Evaluation.round around (.ofDepth around depth) index item body machine =
      .ok outcome after) : after.arena.Steady name value stack := by
  have secures : Run.Secures name False
      (Evaluation.round around (.ofDepth around depth) index item body) :=
    round_secures (Runner.ofDepth_secures hosts depth) index item body harmless spared
  have keeps := (Frame.numbered_primitives around).keeps_round depth index item body
  exact (steady.after_secures secures keeps ran).2

/-- A function that the arena holds is entered, and its parameters are other names. -/
theorem call (steady : machine.arena.Steady name value stack) {callee : String}
    {arguments : List Expr} {values : List Value} {closure : Closure}
    (ran : evalAll (.ofDepth around depth) arguments machine = .ok values between)
    (found : between.arena.resolve callee = .ok (some (.function closure)))
    (unbound : name ∉ closure.params)
    (clear : ∀ id, closure.scope = some id → between.arena.boundIn name id = none ∨
      between.arena.firstHolder name (scopeOrder between.arena.stack) = some id)
    (bound : bindParams closure.params values (between.entering closure).fresh = .ok () after) :
    ∃ stack, after.arena.Steady name value stack := by
  have keeps := Frame.numbered_primitives around
  have secures := evalAll_secures (Runner.ofDepth_secures hosts depth) arguments
  obtain ⟨harmless, evaluated⟩ :=
    steady.after_secures secures (keeps.keeps_evalAll depth arguments) ran
  obtain ⟨resolved, answer, called⟩ := evaluated.anchors.resolve_ok callee
  obtain rfl : some (Value.function closure) = resolved :=
    Except.ok.inj (found.symm.trans answer)
  obtain ⟨_, entered⟩ := evaluated.entering (harmless_some.mp called) clear
  have inside : (between.entering closure).fresh.arena.Steady name value _ := entered.pushFresh
  have binds := (bindParams_secures closure.params values harmless).mono unbound
  exact ⟨_, (inside.after_secures binds (keeps.keeps_bindParams _ _) bound).2⟩

end

end Arena.Steady

/-- The items that a task goes over hold no function that assigns to a name. -/
def Task.Harmless (name : String) : Task → Prop
  | .rounds items _ _ _ _ _ => ∀ index, Parlance.Harmless name (items.item index)
  | _ => True

namespace Arrives

variable {around : Surroundings} {name : String} {target : Stmt} {depth depth' : Nat} {task : Task}
  {machine after : Machine}

/-- Where a run comes to the name resolves to the same value as where it started. -/
theorem steady (hosts : around.modules.Spares name)
    (arrives : Arrives around name target depth task machine depth' after)
    (harmless : task.Harmless name) {value : Value} {stack : List Nat}
    (steady : machine.arena.Steady name value stack) :
    ∃ stack, after.arena.Steady name value stack := by
  -- a step on the way leaves the name bound as it is, or enters a scope that does not bind it
  induction arrives generalizing stack with
  | here => exact ⟨stack, steady⟩
  | behind unbound spared ran _ _ ih => exact ih trivial (steady.exec hosts unbound spared ran)
  | into announced _ ih => exact ih trivial (steady.announce announced)
  | block _ ih => exact ih trivial steady.pushFresh
  | branch ran _ _ ih => exact ih trivial (steady.eval hosts ran).2
  | count ran _ ih => exact ih (fun _ => harmless_number _) (steady.eval hosts ran).2
  | each ran _ ih =>
      obtain ⟨listed, steady⟩ := steady.eval hosts ran
      exact ih (harmless_ofValue listed) steady
  | «while» _ ih => exact ih trivial steady
  | @round _ _ _ index _ _ _ _ _ _ _ _ announced unbound unbound' bound _ ih =>
      obtain ⟨_, steady⟩ := (steady.visit announced).bindRound unbound (fun entry member => by
        obtain ⟨word, same, rfl⟩ := Option.map_eq_some_iff.mp member
        exact ⟨fun same' => unbound' (same' ▸ same), harmless index⟩) bound
      exact ih trivial steady
  | @rounds _ _ _ index _ _ _ _ _ _ _ _ _ announced spared ran _ _ ih =>
      refine ih harmless ((steady.visit announced).round hosts (fun entry member => ?_) spared ran)
      obtain ⟨_, _, rfl⟩ := Option.map_eq_some_iff.mp member
      exact harmless index
  | pass ran _ unbound bound _ ih =>
      obtain ⟨_, steady⟩ := (steady.eval hosts ran).2.bindRound unbound (by nofun) bound
      exact ih trivial steady
  | passes ran _ spared ran' _ _ ih =>
      exact ih trivial ((steady.eval hosts ran).2.round hosts (by nofun) spared ran')
  | call announced ran _ found unbound clear bound _ ih =>
      obtain ⟨_, steady⟩ := (steady.visit announced).call hosts ran found unbound clear bound
      exact ih trivial steady

end Arrives

/-! ### What the whole run does -/

namespace Run

variable {α β : Type} {machine after : Machine}

theorem bind_ok {run : Run α} {a : α} (ran : run machine = .ok a after) (rest : α → Run β) :
    (run >>= rest) machine = rest a after := by
  simp only [bind, EStateM.bind, ran]

/-- What a run has done stands, whatever is run behind it. -/
theorem journal_bind (run : Run α) {rest : α → Run β} (keeps : ∀ a, Frame.journal.Keeps (rest a))
    (machine : Machine) :
    (left (run machine)).journal <:+ (left ((run >>= rest) machine)).journal := by
  simp only [bind, EStateM.bind]
  cases run machine with
  | ok a after => exact keeps a after
  | error failure after => exact List.suffix_refl _

theorem journal_inFresh (around : Surroundings) (body : Run Outcome) (machine : Machine) :
    (left (body machine.fresh)).journal <:+ (left (inFresh around body machine)).journal := by
  rw [inFresh, Evaluation.inScope, left_inScope]
  refine journal_bind body (fun outcome => ?_) machine.fresh
  exact Frame.keeps_bind ((Frame.journal_primitives around).carry outcome.value) fun _ =>
    Frame.keeps_pure outcome

theorem journal_round {around : Surroundings} (inner : Runner) {index : Nat}
    {item : Option (String × Value)} (body : List Stmt) {inside : Machine}
    (bound : bindRound around index item machine.fresh = .ok () inside) :
    (left (execBody inner body inside)).journal <:+
      (left (round around inner index item body machine)).journal := by
  rw [round_eq]
  refine List.IsSuffix.trans ?_ (journal_inFresh around _ machine)
  simp only [bind_ok bound, List.suffix_refl]

theorem journal_inCaptured (around : Surroundings) (closure : Closure) (body : Run Value)
    (machine : Machine) :
    (left (body (machine.entering closure))).journal <:+
      (left (inCaptured around closure body machine)).journal := by
  cases scope : closure.scope with
  | none =>
      rw [inCaptured_none scope]
      simp only [Machine.entering, scope, List.suffix_refl]
  | some id =>
      by_cases live : machine.arena.isLive id = true
      · rw [inCaptured_entered scope live, left_inScope]
        simp only [Machine.entering, scope, live, ↓reduceIte, List.suffix_refl]
      · rw [inCaptured_missed scope live]
        simp only [Machine.entering, scope, live, Bool.false_eq_true, ↓reduceIte, List.suffix_refl]

theorem journal_execAll {around : Surroundings} (depth : Nat) (last : Outcome) (stmt : Stmt)
    (rest : List Stmt) (machine : Machine) :
    (left ((Runner.ofDepth around depth).exec stmt machine)).journal <:+
      (left (execAll (.ofDepth around depth) last (stmt :: rest) machine)).journal := by
  refine journal_bind _ (fun outcome => ?_) machine
  split
  · exact Frame.keeps_pure outcome
  · exact (Frame.journal_primitives around).keeps_execAll depth outcome rest

section

variable {around : Surroundings} {depth index : Nat} {body : List Stmt} {between inside : Machine}

/-- What a statement is performed to is done by the statements that start with it. -/
theorem journal_perform {stmt : Stmt} (last : Outcome) (rest : List Stmt)
    (announced : announce around stmt machine = .ok () between) :
    (left (perform around (.ofDepth around depth) stmt between)).journal <:+
      (left (execAll (.ofDepth around (depth + 1)) last (stmt :: rest) machine)).journal := by
  have same : (Runner.ofDepth around (depth + 1)).exec stmt machine =
      perform around (.ofDepth around depth) stmt between :=
    (congrFun (exec_eq around _ stmt) machine).trans (bind_ok announced _)
  rw [← same]
  exact journal_execAll (depth + 1) last stmt rest machine

theorem journal_execRounds {items : Items} {item : Option String} {bodyPlace : Place} (more : Nat)
    (announced : Evaluation.visit around .block bodyPlace machine = .ok () between)
    (bound : bindRound around index (item.map fun item => (item, items.item index))
      between.fresh = .ok () inside) :
    (left (execBody (.ofDepth around depth) body inside)).journal <:+
      (left (execRounds around (.ofDepth around depth) items item body bodyPlace (more + 1) index
        machine)).journal := by
  refine (journal_round (.ofDepth around depth) body bound).trans ?_
  simp only [execRounds, bind_ok announced]
  refine journal_bind _ (fun outcome => ?_) between
  split
  · exact Frame.keeps_pure outcome
  · exact (Frame.journal_primitives around).keeps_execRounds depth items item body bodyPlace more
      (index + 1)

theorem journal_execGuarded {guard : Expr} {value : Value} (more : Nat)
    (ran : (Runner.ofDepth around depth).eval guard machine = .ok value between)
    (holds : value.toBool = true)
    (bound : bindRound around index none between.fresh = .ok () inside) :
    (left (execBody (.ofDepth around depth) body inside)).journal <:+
      (left (execGuarded around (.ofDepth around depth) guard body (more + 1) index
        machine)).journal := by
  refine (journal_round (.ofDepth around depth) body bound).trans ?_
  simp only [execGuarded, bind_ok ran, holds, ↓reduceIte]
  refine journal_bind _ (fun outcome => ?_) between
  split
  · exact Frame.keeps_pure outcome
  · exact (Frame.journal_primitives around).keeps_execGuarded depth guard body more (index + 1)

theorem journal_callBody {closure : Closure} {values : List Value}
    (bound : bindParams closure.params values (machine.entering closure).fresh = .ok () inside) :
    (left (execBody (.ofDepth around depth) closure.body inside)).journal <:+
      (left (inCaptured around closure
        (callBody around (.ofDepth around depth) closure values) machine)).journal := by
  refine List.IsSuffix.trans ?_ (journal_inCaptured around closure _ machine)
  refine List.IsSuffix.trans ?_ (journal_bind _ (fun _ => Frame.keeps_pure _) _)
  refine List.IsSuffix.trans ?_ (journal_inFresh around _ _)
  rw [bind_ok bound]

end

end Run

theorem Evaluation.execAll_single (inner : Runner) (last : Outcome) (stmt : Stmt) :
    execAll inner last [stmt] = inner.exec stmt := by
  simp only [execAll, ite_self, bind_pure]

namespace Evaluation

variable {around : Surroundings} {machine between : Machine}

theorem perform_branch {inner : Runner} {guard : Expr} {body : List Stmt} {bodyPlace : Place}
    {otherwise : Branch} (place : Place) {value : Value} {stmt : Stmt}
    (ran : inner.eval guard machine = .ok value between)
    (taken : (if value.toBool then some (.block body bodyPlace) else otherwise.stmt?) =
      some stmt) :
    perform around inner (.conditional guard body bodyPlace otherwise place) machine =
      inner.exec stmt between := by
  simp only [perform, Run.bind_ok ran]
  split at taken
  · rename_i holds
    obtain rfl := Option.some.inj taken
    simp only [holds, ↓reduceIte]
  · rename_i fails
    simp only [fails, Bool.false_eq_true, ↓reduceIte, taken]

theorem eval_call {depth : Nat} {callee : String} {method : Option String} {arguments : List Expr}
    {place : Place} {values : List Value} {closure : Closure} {visited : Machine}
    (announced : visit around .call place machine = .ok () visited)
    (ran : evalAll (.ofDepth around (depth + 1)) arguments visited = .ok values between)
    (unhosted : method = none ∨ around.modules.has callee = false)
    (found : between.arena.resolve callee = .ok (some (.function closure))) :
    (Runner.ofDepth around (depth + 2)).eval (.call callee method arguments place) machine =
      inCaptured around closure (callBody around (.ofDepth around depth) closure values)
        between := by
  have resolved : Run.resolve callee between = .ok (some (.function closure)) between := by
    simp only [Run.resolve, found]
  have bound : callBound around (.ofDepth around (depth + 1)) callee values place between =
      inCaptured around closure (callBody around (.ofDepth around depth) closure values) between :=
    Run.bind_ok resolved _
  have evaluated : (Runner.ofDepth around (depth + 2)).eval (.call callee method arguments place)
      machine = evalCall around (.ofDepth around (depth + 1)) callee method arguments place
        visited :=
    Run.bind_ok announced _
  rw [evaluated, evalCall, Run.bind_ok ran]
  rcases unhosted with rfl | unhosted
  · exact bound
  · cases method with
    | none => exact bound
    | some method => simpa only [unhosted, Bool.false_eq_true, ↓reduceIte] using bound

end Evaluation

namespace Arrives

variable {around : Surroundings} {name : String} {target : Stmt} {depth depth' : Nat} {task : Task}
  {machine after : Machine}

/-- What is done where a run comes to is done in the whole run. -/
theorem done (arrives : Arrives around name target depth task machine depth' after) :
    (Run.left ((Runner.ofDepth around depth').exec target after)).journal <:+
      (Run.left (task.run around (.ofDepth around depth) machine)).journal := by
  -- what came before a step is in the journal of both, so only what follows it is compared
  induction arrives with
  | @here depth last rest machine => exact Run.journal_execAll depth last target rest machine
  | behind _ _ ran goes _ ih =>
      simp only [Task.run, execAll, Run.bind_ok ran, goes]
      exact ih
  | @into _ _ last _ rest _ _ _ announced _ ih =>
      exact ih.trans (Run.journal_perform last rest announced)
  | block _ ih => exact ih.trans (Run.journal_inFresh around _ _)
  | @branch _ _ _ _ _ place _ _ _ _ _ _ ran taken _ ih =>
      rw [Task.run, execAll_single] at ih
      rwa [Task.run, perform_branch place ran taken]
  | count ran _ ih | each ran _ ih =>
      simp only [Task.run, perform, execLoop, Run.bind_ok ran]
      exact ih
  | «while» _ ih => exact ih
  | @round _ _ more _ _ _ _ _ _ _ _ _ announced _ _ bound _ ih =>
      exact ih.trans (Run.journal_execRounds more announced bound)
  | rounds announced _ ran goes _ ih =>
      simp only [Task.run, execRounds, Run.bind_ok announced, Run.bind_ok ran, goes]
      exact ih
  | @pass _ _ more _ _ _ _ _ _ _ _ ran holds _ bound _ ih =>
      exact ih.trans (Run.journal_execGuarded more ran holds bound)
  | passes ran holds _ ran' goes _ ih =>
      simp only [Task.run, execGuarded, Run.bind_ok ran, holds, ↓reduceIte, Run.bind_ok ran', goes]
      exact ih
  | call announced ran unhosted found _ _ bound _ ih =>
      refine ih.trans ((Run.journal_callBody bound).trans ?_)
      rw [← eval_call announced ran unhosted found]
      exact Run.journal_bind _ (fun _ => Frame.keeps_pure _) _

end Arrives

end Parlance
