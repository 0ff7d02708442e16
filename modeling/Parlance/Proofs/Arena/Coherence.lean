import Parlance.Proofs.Arena.Lifecycle
import Parlance.Proofs.Arena.Lookup

/-!
Bindings that go together. What is assigned or declared is what a name resolves to then, no other
name is concerned, and of all bindings in all scopes just one is new. Fresh scopes that are entered
and left again, and whatever is declared in them, are not seen afterwards. Main statement:
`bindings_coherent`.
-/

namespace Parlance.Arena

/-- The scopes that names are looked up in are live, and each scope that is live has a number that
was given already. A scope may be entered more than once, the global one too. -/
structure Grounded (arena : Arena) : Prop where
  global_live : arena.isLive globalId = true
  entered_live : ∀ id ∈ arena.stack, arena.isLive id = true
  live_below : ∀ id, arena.isLive id = true → id < arena.nextId

theorem Kept.grounded {arena : Arena} (kept : arena.Kept) : arena.Grounded :=
  ⟨kept.sound.global_live, kept.sound.entered_live, kept.live_below⟩

section

variable {arena after : Arena} {name : String} {value : Value} {id : Nat}

def target (arena : Arena) : Nat := arena.innermost?.getD globalId

theorem scopeOrder_eq_cons (arena : Arena) :
    ∃ outer, scopeOrder arena.stack = arena.target :: outer := by
  unfold target innermost? scopeOrder
  cases arena.stack with
  | nil => exact ⟨[], rfl⟩
  | cons id rest => exact ⟨rest ++ [globalId], rfl⟩

theorem target_mem (arena : Arena) : arena.target ∈ scopeOrder arena.stack := by
  obtain ⟨outer, order⟩ := arena.scopeOrder_eq_cons
  exact order ▸ List.mem_cons_self

theorem holder?_of_live (live : ∀ id ∈ scopeOrder arena.stack, arena.isLive id = true)
    (name : String) :
    arena.holder? name arena.stack = .ok (arena.firstHolder name (scopeOrder arena.stack)) :=
  holder?_eq (live _ (List.mem_append_right _ List.mem_cons_self))
    fun id member => live id (List.mem_append_left _ member)

theorem resolve_of_live (live : ∀ id ∈ scopeOrder arena.stack, arena.isLive id = true)
    (name : String) :
    arena.resolve name = .ok (arena.lookup name (scopeOrder arena.stack)) := by
  simp only [resolve, holder?_of_live live name]
  rfl

namespace Grounded

theorem order_live (grounded : arena.Grounded) :
    ∀ id ∈ scopeOrder arena.stack, arena.isLive id = true := by
  intro id member
  rcases List.mem_append.mp member with entered | global
  · exact grounded.entered_live id entered
  · exact List.mem_singleton.mp global ▸ grounded.global_live

theorem holder?_eq (grounded : arena.Grounded) (name : String) :
    arena.holder? name arena.stack = .ok (arena.firstHolder name (scopeOrder arena.stack)) :=
  holder?_of_live grounded.order_live name

theorem resolve_eq (grounded : arena.Grounded) (name : String) :
    arena.resolve name = .ok (arena.lookup name (scopeOrder arena.stack)) :=
  resolve_of_live grounded.order_live name

theorem resolve_congr (grounded : arena.Grounded) (grounded' : after.Grounded)
    (stack : after.stack = arena.stack)
    (same : ∀ id ∈ scopeOrder arena.stack, after.boundIn name id = arena.boundIn name id) :
    after.resolve name = arena.resolve name := by
  rw [grounded.resolve_eq, grounded'.resolve_eq, stack, lookup_congr same]

end Grounded

/-! ### One binding anew -/

/-- The arenas differ in what one scope binds one name to, and in nothing else. -/
structure Rebinds (id : Nat) (name : String) (value : Value) (before after : Arena) : Prop where
  bound : after.boundIn name id = some value
  others : ∀ key other, ¬ (key = name ∧ other = id) →
    after.boundIn key other = before.boundIn key other
  live_eq : ∀ other, after.isLive other = before.isLive other
  stack_eq : after.stack = before.stack
  pinned_eq : after.pinned = before.pinned
  carried_eq : after.carried = before.carried
  nextId_eq : after.nextId = before.nextId

theorem bind_rebinds (live : arena.isLive id = true) (name : String) (value : Value) :
    ∃ after, bind id name value arena = .ok () after ∧ Rebinds id name value arena after := by
  obtain ⟨bindings, found⟩ := (isLive_iff arena id).mp live
  refine ⟨_, bind_eq name value found, ?_, ?_, ?_, rfl, rfl, rfl, rfl⟩
  · rw [boundIn_withScope, if_pos rfl, Table.get?_put_self]
  · intro key other apart
    rw [boundIn_withScope]
    split
    · rename_i here
      have differs : key ≠ name := fun same => apart ⟨same, here⟩
      rw [Table.get?_put_of_ne differs, here, boundIn, found, Option.bind_some]
    · rfl
  · intro other
    by_cases here : other = id
    · simp [withScope, isLive, Table.has, here, found]
    · simp [withScope, isLive, Table.has_put, here]

namespace Rebinds

theorem grounded (rebinds : Rebinds id name value arena after) (grounded : arena.Grounded) :
    after.Grounded where
  global_live := (rebinds.live_eq _).trans grounded.global_live
  entered_live other member :=
    (rebinds.live_eq other).trans (grounded.entered_live other (rebinds.stack_eq ▸ member))
  live_below other live :=
    rebinds.nextId_eq ▸ grounded.live_below other ((rebinds.live_eq other).symm.trans live)

theorem resolve_other (rebinds : Rebinds id name value arena after) (grounded : arena.Grounded)
    {key : String} (other : key ≠ name) : after.resolve key = arena.resolve key :=
  grounded.resolve_congr (rebinds.grounded grounded) rebinds.stack_eq
    fun id _ => rebinds.others key id fun same => other same.1

/-- If no scope that comes first binds the name, the new binding is the one that is found. -/
theorem lookup_self (rebinds : Rebinds id name value arena after) {ids : List Nat}
    (member : id ∈ ids) (first : ∀ holder ∈ arena.firstHolder name ids, holder = id) :
    after.lookup name ids = some value := by
  induction ids with
  | nil => cases member
  | cons other rest ih =>
      rw [lookup_cons]
      by_cases here : other = id
      · rw [here, rebinds.bound, Option.some_or]
      · rw [rebinds.others name other fun same => here same.2]
        cases held : arena.boundIn name other with
        | some old =>
            have holds : arena.firstHolder name (other :: rest) = some other := by
              simp [firstHolder, held]
            exact absurd (first other holds) here
        | none =>
            have further : arena.firstHolder name (other :: rest) =
                arena.firstHolder name rest := by
              simp [firstHolder, held]
            have behind : id ∈ rest := (List.mem_cons.mp member).resolve_left (Ne.symm here)
            rw [Option.none_or, ih behind (further ▸ first)]

theorem resolve_self (rebinds : Rebinds id name value arena after) (grounded : arena.Grounded)
    (member : id ∈ scopeOrder arena.stack)
    (first : ∀ holder ∈ arena.firstHolder name (scopeOrder arena.stack), holder = id) :
    after.resolve name = .ok (some value) := by
  rw [(rebinds.grounded grounded).resolve_eq, rebinds.stack_eq, rebinds.lookup_self member first]

end Rebinds

/-- A name resolves to a value that it is given, and others resolve as before. -/
structure Gives (name : String) (value : Value) (before after : Arena) : Prop where
  given : after.resolve name = .ok (some value)
  others : ∀ other, other ≠ name → after.resolve other = before.resolve other

/-- A declaration binds the name in its target, whether the name is bound there or not. -/
theorem Grounded.declare_gives (grounded : arena.Grounded) (name : String) (value : Value) :
    ∃ after, declare name value arena = .ok () after ∧
      Rebinds arena.target name value arena after ∧ Gives name value arena after := by
  obtain ⟨after, result, rebinds⟩ :=
    bind_rebinds (grounded.order_live _ arena.target_mem) name value
  refine ⟨after, result, rebinds, ?_, fun other differs => rebinds.resolve_other grounded differs⟩
  -- the target is searched first, so that it does not matter which other scopes bind the name
  obtain ⟨outer, order⟩ := arena.scopeOrder_eq_cons
  rw [(rebinds.grounded grounded).resolve_eq, rebinds.stack_eq, order, lookup_cons, rebinds.bound,
    Option.some_or]

/-- The binding of a name that is read, or nothing and the scope that the name is added to. -/
inductive Aims (arena : Arena) (name : String) (id : Nat) : Prop
  | read (old : Value) (resolved : arena.resolve name = .ok (some old))
      (bound : arena.boundIn name id = some old)
      (first : arena.firstHolder name (scopeOrder arena.stack) = some id)
  | added (resolved : arena.resolve name = .ok none)
      (unbound : ∀ other ∈ scopeOrder arena.stack, arena.boundIn name other = none)
      (here : id = arena.target)

theorem Grounded.aims_read (grounded : arena.Grounded)
    (found : arena.firstHolder name (scopeOrder arena.stack) = some id) : Aims arena name id := by
  obtain ⟨old, bound⟩ :=
    Option.isSome_iff_exists.mp (List.find?_eq_some_iff_append.mp found).1
  refine .read old ?_ bound found
  rw [grounded.resolve_eq, lookup, found, Option.bind_some, bound]

theorem Grounded.aims_added (grounded : arena.Grounded)
    (found : arena.firstHolder name (scopeOrder arena.stack) = none) :
    Aims arena name arena.target := by
  refine .added ?_ (fun other member => ?_) rfl
  · rw [grounded.resolve_eq, lookup, found, Option.bind_none]
  · simpa using List.find?_eq_none.mp found other member

/-- An assignment binds the name where it is read, or adds it to the target. -/
theorem Grounded.assign_gives (grounded : arena.Grounded) (name : String) (value : Value) :
    ∃ id after, Aims arena name id ∧ assign name value arena = .ok () after ∧
      Rebinds id name value arena after ∧ Gives name value arena after := by
  cases found : arena.firstHolder name (scopeOrder arena.stack) with
  | some holder =>
      have member : holder ∈ scopeOrder arena.stack := List.mem_of_find?_eq_some found
      obtain ⟨after, result, rebinds⟩ := bind_rebinds (grounded.order_live _ member) name value
      refine ⟨holder, after, grounded.aims_read found, ?_, rebinds, ?_,
        fun _ => rebinds.resolve_other grounded⟩
      · simp only [assign, grounded.holder?_eq, found, result]
      · refine rebinds.resolve_self grounded member fun other first => ?_
        exact (Option.some.inj (found.symm.trans first)).symm
  | none =>
      obtain ⟨after, result, rebinds, gives⟩ := grounded.declare_gives name value
      refine ⟨arena.target, after, grounded.aims_added found, ?_, rebinds, gives⟩
      simp only [assign, grounded.holder?_eq, found, result]

end

/-! ### Fresh scopes that are left again -/

/-- Moves that enter fresh scopes, declare names in them and leave them all, as many as were entered
before them included. -/
inductive Excursion : Nat → List Move → Prop
  | home : Excursion 0 []
  | enter {depth : Nat} {rest : List Move} : Excursion (depth + 1) rest →
      Excursion depth (.push none :: rest)
  | declare {depth : Nat} {rest : List Move} (name : String) (value : Value) :
      Excursion (depth + 1) rest → Excursion (depth + 1) (.declare name value :: rest)
  | leave {depth : Nat} {rest : List Move} : Excursion depth rest →
      Excursion (depth + 1) (.pop :: rest)

/-- An arena with scopes of its own on top of those of another, which are as they were. -/
structure Away (base : Arena) (own : List Nat) (now : Arena) : Prop where
  stack_eq : now.stack = own ++ base.stack
  grows : base.nextId ≤ now.nextId
  own_fresh : ∀ id ∈ own, base.nextId ≤ id ∧ id < now.nextId
  own_live : ∀ id ∈ own, now.isLive id = true
  own_once : own.Nodup
  old_eq : ∀ id < base.nextId, Table.get? id now.scopes = Table.get? id base.scopes

namespace Away

variable {base now : Arena} {own : List Nat} {id : Nat}

theorem refl (base : Arena) : Away base [] base where
  stack_eq := rfl
  grows := Nat.le_refl _
  own_fresh := List.forall_mem_nil _
  own_live := List.forall_mem_nil _
  own_once := List.nodup_nil
  old_eq _ _ := rfl

theorem enter (away : Away base own now) : Away base (now.nextId :: own) now.pushFresh where
  stack_eq := by simp [pushFresh, away.stack_eq]
  grows := Nat.le_succ_of_le away.grows
  own_fresh := by
    refine List.forall_mem_cons.mpr ⟨⟨away.grows, Nat.lt_succ_self _⟩, fun id member => ?_⟩
    exact ⟨(away.own_fresh id member).1, Nat.lt_succ_of_lt (away.own_fresh id member).2⟩
  own_live := by
    intro id member
    rcases List.mem_cons.mp member with rfl | older
    · simp [pushFresh, isLive, Table.has_put]
    · have live := away.own_live id older
      simp only [isLive] at live
      simp [pushFresh, isLive, Table.has_put, live]
  own_once := by
    refine List.nodup_cons.mpr ⟨fun member => ?_, away.own_once⟩
    exact Nat.lt_irrefl _ (away.own_fresh now.nextId member).2
  old_eq id old := by
    have apart : id ≠ now.nextId := Nat.ne_of_lt (Nat.lt_of_lt_of_le old away.grows)
    simp only [pushFresh, Table.get?_put_of_ne apart, away.old_eq id old]

theorem declare (away : Away base (id :: own) now) (name : String) (value : Value) :
    ∃ after, Arena.declare name value now = .ok () after ∧ Away base (id :: own) after := by
  obtain ⟨bindings, found⟩ := (isLive_iff now id).mp (away.own_live id List.mem_cons_self)
  have innermost : now.innermost?.getD globalId = id := by
    rw [innermost?, away.stack_eq, List.cons_append, List.head?_cons, Option.getD_some]
  refine ⟨now.withScope id (Table.put name value bindings), ?_, ?_⟩
  · rw [Arena.declare, innermost, bind_eq name value found]
  · refine ⟨away.stack_eq, away.grows, away.own_fresh, fun other member => ?_, away.own_once,
      fun other old => ?_⟩
    · have live := away.own_live other member
      simp only [isLive] at live
      simp [withScope, isLive, Table.has_put, live]
    · have apart : other ≠ id :=
        Nat.ne_of_lt (Nat.lt_of_lt_of_le old (away.own_fresh id List.mem_cons_self).1)
      simp only [withScope, Table.get?_put_of_ne apart, away.old_eq other old]

end Away

theorem pop_of_live {arena : Arena} {id : Nat} {stack : List Nat}
    (entered : arena.stack = id :: stack) (live : arena.isLive id = true) (upkeep : Upkeep) :
    ∃ after, pop upkeep arena = .ok () after ∧ after.stack = stack ∧
      after.nextId = arena.nextId ∧
      ∀ other, other ≠ id → Table.get? other after.scopes = Table.get? other arena.scopes := by
  have liveLater : ∀ pinned carried,
      isLive { arena with stack, pinned, carried } id = true := fun _ _ => live
  simp only [pop, entered, liveLater, ↓reduceIte]
  split
  · exact ⟨_, rfl, rfl, rfl, fun _ _ => rfl⟩
  · split
    · exact ⟨_, rfl, rfl, rfl, fun _ _ => rfl⟩
    · exact ⟨_, rfl, rfl, rfl, fun _ apart => Table.get?_erase_of_ne apart _⟩

theorem Away.leave {base now : Arena} {id : Nat} {own : List Nat}
    (away : Away base (id :: own) now) (upkeep : Upkeep) :
    ∃ after, pop upkeep now = .ok () after ∧ Away base own after := by
  obtain ⟨after, result, stack, nextId, others⟩ :=
    pop_of_live away.stack_eq (away.own_live id List.mem_cons_self) upkeep
  obtain ⟨apart, once⟩ := List.nodup_cons.mp away.own_once
  refine ⟨after, result, stack, nextId ▸ away.grows, fun other member => ?_, fun other member => ?_,
    once, fun other old => ?_⟩
  · exact nextId ▸ away.own_fresh other (List.mem_cons_of_mem id member)
  · have differs : other ≠ id := fun same => apart (same ▸ member)
    have live := away.own_live other (List.mem_cons_of_mem id member)
    simpa only [isLive, Table.has, others other differs] using live
  · have differs : other ≠ id :=
      Nat.ne_of_lt (Nat.lt_of_lt_of_le old (away.own_fresh id List.mem_cons_self).1)
    rw [others other differs, away.old_eq other old]

/-- An excursion ends, and then the scopes of before are entered and are as they were. -/
theorem Excursion.returns {depth : Nat} {moves : List Move} (excursion : Excursion depth moves)
    (upkeep : Upkeep) {base now : Arena} {own : List Nat} (away : Away base own now)
    (height : own.length = depth) :
    ∃ tickets after, performAll upkeep moves now = .ok tickets after ∧ Away base [] after := by
  -- on the moves: the scopes that were entered on the way are left again in their order
  induction excursion generalizing now own with
  | home =>
      obtain rfl := List.length_eq_zero_iff.mp height
      exact ⟨[], now, rfl, away⟩
  | enter _ ih =>
      obtain ⟨tickets, after, result, home⟩ := ih away.enter (congrArg (· + 1) height)
      refine ⟨⟨now.nextId, true⟩ :: tickets, after, ?_, home⟩
      simp only [performAll, Move.perform, Bind.bind, EStateM.bind, result]
      rfl
  | declare name value _ ih =>
      obtain ⟨id, inner, rfl⟩ := List.exists_cons_of_length_eq_add_one height
      obtain ⟨middle, bound, still⟩ := away.declare name value
      obtain ⟨tickets, after, result, home⟩ := ih still height
      refine ⟨tickets, after, ?_, home⟩
      simp only [performAll, Move.perform, Bind.bind, EStateM.bind, untold_ok bound, result]
      rfl
  | leave _ ih =>
      obtain ⟨id, inner, rfl⟩ := List.exists_cons_of_length_eq_add_one height
      obtain ⟨middle, popped, outer⟩ := away.leave upkeep
      obtain ⟨tickets, after, result, home⟩ := ih outer (Nat.succ.inj height)
      refine ⟨tickets, after, ?_, home⟩
      simp only [performAll, Move.perform, Bind.bind, EStateM.bind, untold_ok popped, result]
      rfl

theorem Away.resolve_eq {base now : Arena} (home : Away base [] now) (grounded : base.Grounded)
    (name : String) : now.resolve name = base.resolve name := by
  have stack : now.stack = base.stack := home.stack_eq
  have same : ∀ id ∈ scopeOrder base.stack,
      Table.get? id now.scopes = Table.get? id base.scopes := fun id member =>
    home.old_eq id (grounded.live_below id (grounded.order_live id member))
  have live : ∀ id ∈ scopeOrder base.stack, now.isLive id = true := fun id member => by
    simpa only [isLive, Table.has, same id member] using grounded.order_live id member
  rw [resolve_of_live (stack.symm ▸ live), grounded.resolve_eq, stack]
  exact congrArg Except.ok (lookup_congr fun id member => by rw [boundIn, same id member, boundIn])

/-- The laws of bindings, whatever scopes are entered, be it more than once. An assignment gives the
name its value: of all bindings it changes the one that is read, or where none is it adds the name
to the innermost scope, which is the global one outside of all. A declaration gives the name its
value in that scope. And after any excursion into fresh scopes every name resolves as before. -/
theorem bindings_coherent (upkeep : Upkeep) {arena : Arena} (grounded : arena.Grounded)
    (name : String) (value : Value) :
    (∃ id after, Aims arena name id ∧ assign name value arena = .ok () after ∧
      Rebinds id name value arena after ∧ Gives name value arena after) ∧
    (∃ after, declare name value arena = .ok () after ∧
      Rebinds arena.target name value arena after ∧ Gives name value arena after) ∧
    ∀ moves, Excursion 0 moves → ∃ tickets after,
      performAll upkeep moves arena = .ok tickets after ∧
        ∀ other, after.resolve other = arena.resolve other := by
  refine ⟨grounded.assign_gives name value, grounded.declare_gives name value, ?_⟩
  intro moves excursion
  obtain ⟨tickets, after, result, home⟩ := excursion.returns upkeep (Away.refl arena) rfl
  exact ⟨tickets, after, result, home.resolve_eq grounded⟩

def reentering : List Move :=
  [.push none, .declare "x" (.text "a"), .push none, .push (some 1)]

def reentered : Arena := ⟨[(globalId, []), (1, [("x", .text "a")]), (2, [])], [], [], 3, [1, 2, 1]⟩

theorem reentered_grounded : reentered.Grounded := by
  have allowed : AllowedAll .reclaim (reentering ++ []) empty :=
    ⟨trivial, trivial, trivial, ⟨rfl, Nat.one_ne_zero⟩, trivial⟩
  have result : performAll .reclaim reentering empty =
      .ok [⟨1, true⟩, ⟨2, true⟩, ⟨1, false⟩] reentered := rfl
  obtain ⟨_, after, result', kept, _⟩ := performAll_ok .reclaim empty_kept reentering [] allowed
  obtain rfl : reentered = after := (EStateM.Result.ok.inj (result.symm.trans result')).2
  exact kept.grounded

/-- Two fresh scopes, the one inside the other, that hide the name for a while. -/
def detour : List Move :=
  [.push none, .declare "x" .void, .push none, .declare "y" .void, .pop, .declare "y" .void, .pop]

/-- The scope is entered twice, and the name that is assigned to is held there. -/
theorem reentered_coherent :
    reentered.Grounded ∧ Excursion 0 detour ∧
      (∃ id after, Aims reentered "x" id ∧ assign "x" (.text "b") reentered = .ok () after ∧
        Rebinds id "x" (.text "b") reentered after ∧ Gives "x" (.text "b") reentered after) ∧
      (∃ after, declare "x" (.text "b") reentered = .ok () after ∧
        Rebinds reentered.target "x" (.text "b") reentered after ∧
        Gives "x" (.text "b") reentered after) ∧
      ∃ tickets after, performAll .reclaim detour reentered = .ok tickets after ∧
        ∀ other, after.resolve other = reentered.resolve other := by
  have excursion : Excursion 0 detour :=
    .enter (.declare "x" .void (.enter (.declare "y" .void (.leave (.declare "y" .void
      (.leave .home))))))
  obtain ⟨assigns, declares, returns⟩ :=
    bindings_coherent .reclaim reentered_grounded "x" (.text "b")
  exact ⟨reentered_grounded, excursion, assigns, declares, returns detour excursion⟩

end Parlance.Arena
