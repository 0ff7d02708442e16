import Parlance.Proofs.Arena.Reachable
import Parlance.Proofs.Running.Completion
import Parlance.Proofs.Running.Genuine
import Parlance.Proofs.Session.Balance

/-!
What is left of the scopes behind a statement. However often functions are defined, returned and
dropped, right behind each statement of a program that completes the live scopes are the global
one and those that chains of captures lead to from the global bindings and the statement's value.
-/

namespace Parlance.Session

open Evaluation

/-- A handler that is registered makes up no function of the global scope. -/
def Deed.Genuine : Deed → Prop
  | .register _ handler => ∀ given ∈ handler, given.Genuine
  | _ => True

/-- The arena is intact outside of every scope, and no handler makes up a function of the global
scope. -/
structure Preserved (session : Session) : Prop where
  genuine : session.modules.Genuine
  intact : ∃ known, session.arena.Intact known []

section

variable {session : Session}

theorem preserved_start (settings : Settings) : Preserved (.ofSettings settings) :=
  ⟨Registry.genuine_empty, ∅, .empty⟩

/-- A run that agrees with itself leaves an intact arena, and fails as it may. -/
theorem runIn_intact {known : Set Nat} (intact : session.arena.Intact known [])
    {shared : Failure → Prop} {around : Surroundings}
    (links : (Bond.intact shared fun _ => False).comparison.Links around around)
    (unbounded : shared (.of .unbounded)) (depth : Nat) (program : Program) :
    let execution := session.runIn around depth program
    (∃ more, execution.session = { session with arena := execution.session.arena } ∧
      execution.session.arena.Intact more []) ∧
      ∀ failure, execution.result = .error failure → shared failure := by
  -- compared with itself, which keeps the arena on both sides intact
  have agree := Comparison.run_agree links (Bond.intact_bounds unbounded _) program depth depth
    (Bond.intact_bounds unbounded depth) known
  have start : (Machine.ofArena session.arena).arena.Intact known [] := intact
  have meets := Bond.intact_meets agree start
  cases result : program.run around depth (.ofArena session.arena) with
  | ok value machine =>
      rw [result] at meets
      obtain ⟨_, more, _, ⟨_, kept⟩, _⟩ := meets
      rw [runIn_ok result kept.sound.stack_eq]
      exact ⟨⟨more, rfl, kept.of_same rfl rfl rfl rfl⟩, nofun⟩
  | error failure machine =>
      rw [result] at meets
      obtain ⟨_, may, more, _, _, kept⟩ := meets
      rw [runIn_error result kept.sound.stack_eq]
      refine ⟨⟨more, rfl, kept.of_same rfl rfl rfl rfl⟩, ?_⟩
      rintro _ ⟨⟩
      exact may

theorem Preserved.runIn (preserved : Preserved session) {around : Surroundings}
    (same : around.modules = session.modules) (depth : Nat) (program : Program) :
    Preserved (session.runIn around depth program).session := by
  obtain ⟨known, intact⟩ := preserved.intact
  obtain ⟨⟨more, left, kept⟩, _⟩ :=
    runIn_intact intact (Bond.kept_links (same ▸ preserved.genuine)) trivial depth program
  exact ⟨left ▸ preserved.genuine, more, kept⟩

theorem Preserved.after (preserved : Preserved session) {deed : Deed} (genuine : deed.Genuine) :
    Preserved (session.after deed) := by
  apply after_keeps preserved
  · intro name handler after same result
    obtain ⟨modules, registered, rfl⟩ := register_ok result
    subst same
    exact ⟨preserved.genuine.register genuine registered, preserved.intact⟩
  · intro name
    exact ⟨preserved.genuine.unregister name, preserved.intact⟩
  · intro recoveries
    exact ⟨preserved.genuine, preserved.intact⟩
  · intro recoveries around depth program same
    have read : Preserved { session with recoveries } := ⟨preserved.genuine, preserved.intact⟩
    exact read.runIn same depth program
  · obtain ⟨known, intact⟩ := preserved.intact
    exact ⟨preserved.genuine, ∅, intact.reset⟩

theorem preserved_afterAll (settings : Settings) {deeds : List Deed}
    (genuine : ∀ deed ∈ deeds, deed.Genuine) : Preserved (afterAll settings deeds) :=
  afterAll_keeps (preserved_start settings) fun _ preserved deed member =>
    preserved.after (genuine deed member)

/-! ### Right behind a statement -/

variable {around : Surroundings} {depth : Nat} {program : Program} {outcome : Outcome}
  {machine : Machine}

/-- Behind a statement nothing is entered, and of the local scopes only those are live that chains
of captures lead to. -/
theorem Outside.chained_of_comes (outside : Outside session) (reclaims : around.upkeep = .reclaim)
    (comes : Program.Comes around (.ofDepth around depth) (.ofArena session.arena) program outcome
      machine) {id : Nat} (here : id ≠ Arena.globalId) (live : machine.arena.isLive id = true) :
    machine.arena.Chained (outcome.value :: machine.arena.globals.values) id := by
  let balanced (machine : Machine) : Prop := machine.arena.Accounted ∧ machine.arena.stack = []
  refine comes.induction (P := balanced) (Q := fun outcome machine =>
    machine.arena.isLive id = true →
      machine.arena.Chained (outcome.value :: machine.arena.globals.values) id)
    ?_ ⟨outside.accounted, outside.stack_eq⟩ live
  intro stmt before outcome after start completed
  obtain ⟨middle, count, done, tidied⟩ := complete_ok completed
  have exec := ((Frame.balance_primitives around).keeps_parts depth).exec Set.univ [] stmt before
  rw [done] at exec
  have accounted : middle.arena.Accounted := exec.accounted start.1
  have left : middle.arena.stack = [] := exec.stack_eq.trans start.2
  have tidy : Arena.Balanced middle.arena
      (Arena.left (Arena.collect around.upkeep [outcome.value] middle.arena)) :=
    Arena.collect_balanced _ _
  rw [tidied] at tidy
  refine ⟨⟨tidy.accounted accounted, tidy.stack_eq.trans left⟩, fun live => ?_⟩
  exact accounted.chained_of_collect left (reclaims ▸ tidied) live here

theorem Preserved.intact_of_comes (preserved : Preserved session)
    (same : around.modules = session.modules)
    (comes : Program.Comes around (.ofDepth around depth) (.ofArena session.arena) program outcome
      machine) : ∃ known, machine.arena.Intact known [] := by
  refine comes.induction (P := fun machine => ∃ known, machine.arena.Intact known [])
    (Q := fun _ machine => ∃ known, machine.arena.Intact known []) ?_ preserved.intact
  intro stmt before outcome after start completed
  obtain ⟨known, intact⟩ := start
  have links : Bond.kept.comparison.Links around around :=
    Bond.kept_links (same ▸ preserved.genuine)
  have parts := Comparison.ofDepth_agree links (Bond.kept_bounds _) depth depth
    (Bond.kept_bounds depth)
  have meets := Bond.kept_meets (Comparison.complete_agree links.toQuiet parts stmt known) intact
  rw [completed] at meets
  obtain ⟨_, more, _, ⟨_, kept⟩, _⟩ := meets
  exact ⟨⟨more, kept⟩, more, kept⟩

/-- There the global scope is live. -/
theorem Preserved.global_live (preserved : Preserved session)
    (same : around.modules = session.modules)
    (comes : Program.Comes around (.ofDepth around depth) (.ofArena session.arena) program outcome
      machine) : machine.arena.isLive Arena.globalId = true := by
  obtain ⟨known, intact⟩ := preserved.intact_of_comes same comes
  exact intact.sound.global_live

end

/-- No captured scope outlives its use. Whatever a session was used for before, right behind every
statement of a program that completes a local scope is live exactly if a chain of captures leads to
it from the global bindings or the statement's value; and the global scope is live, unless a
handler made up a function that captured it. A run that ends with a value ends behind such a
statement. -/
theorem live_iff_chained (settings : Settings) (deeds : List Deed) (depth rounds : Nat)
    (program : Program) (source sourceName : Option String) :
    let session := afterAll settings deeds
    let around := session.surroundings .reclaim rounds source sourceName
    let comes := Program.Comes around (.ofDepth around depth) (.ofArena session.arena) program
    (∀ outcome machine, comes outcome machine →
      (∀ id, id ≠ Arena.globalId → (machine.arena.isLive id = true ↔
        machine.arena.Chained (outcome.value :: machine.arena.globals.values) id)) ∧
      ((∀ deed ∈ deeds, deed.Genuine) → ∀ id, machine.arena.isLive id = true ↔
        id = Arena.globalId ∨
          machine.arena.Chained (outcome.value :: machine.arena.globals.values) id)) ∧
    ∀ value machine, program ≠ [] →
      program.run around depth (.ofArena session.arena) = .ok value machine →
        ∃ outcome, comes outcome machine ∧ outcome.value = value := by
  refine ⟨fun outcome machine comes => ?_, fun value machine => Program.comes_of_runFrom⟩
  have reached : ∀ id, id ≠ Arena.globalId → (machine.arena.isLive id = true ↔
      machine.arena.Chained (outcome.value :: machine.arena.globals.values) id) := by
    intro id here
    constructor
    · exact (outside_afterAll settings deeds).chained_of_comes rfl comes here
    · exact fun chained => chained.live
  refine ⟨reached, fun genuine id => ?_⟩
  have global := (preserved_afterAll settings genuine).global_live rfl comes
  by_cases here : id = Arena.globalId
  · simp [here, global]
  · simp [here, reached id here]

/-- A block that gives back a function defined in it. -/
def maker : Stmt :=
  .block [.define (some "f") none [] [] .start .start, .giveBack (some (.ident "f" .start)) .start]
    .start

def made : Value := .function ⟨"f", [], [], .start, some 1⟩

def making : Machine where
  arena := ⟨[(Arena.globalId, []), (1, [("f", made)])], [1], [], 2, []⟩
  steps := 4
  journal := [.visited .identifier .start, .visited .giveBack .start,
    .visited .functionDefinition .start, .visited .block .start]
  strays := []

/-- The scope that the function captured stays while the function is the value of the statement. -/
theorem maker_keeps_scope :
    let session := afterAll .standard [.register "m" (some .echo)]
    let around := session.surroundings .reclaim 0 none none
    Program.Comes around (.ofDepth around 4) (.ofArena session.arena) [maker] ⟨made, true⟩ making ∧
    making.arena.isLive 1 = true ∧
    ∀ id, making.arena.isLive id = true ↔ id = Arena.globalId ∨
      making.arena.Chained (made :: making.arena.globals.values) id := by
  intro session around
  have genuine : ∀ deed ∈ [Deed.register "m" (some Handler.echo)], deed.Genuine := by
    intro deed member
    rw [List.mem_singleton] at member
    subst member
    rintro given ⟨⟩
    exact Handler.echo_genuine
  have done : (Runner.ofDepth around 4).exec maker (.ofArena session.arena) =
      .ok ⟨made, true⟩ making := rfl
  have comes : Program.Comes around (.ofDepth around 4) (.ofArena session.arena) [maker]
      ⟨made, true⟩ making := .first (complete_of_idle done (Arena.collect_idle rfl rfl))
  exact ⟨comes, rfl, ((live_iff_chained .standard [.register "m" (some .echo)] 4 0 [maker] none
    none).1 ⟨made, true⟩ making comes).2 genuine⟩

end Parlance.Session
