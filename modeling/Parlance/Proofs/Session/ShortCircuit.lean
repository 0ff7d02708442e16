import Parlance.Proofs.Running.Skipping
import Parlance.Proofs.Session.Collection
import Parlance.Proofs.Session.Composition

/-!
Short circuits. Whether the right operand of a logical operator is skipped once the left one has
decided is of no concern to anyone outside of a session, as long as no such operand contains a call:
neither in the program that is run, nor in a function that the session holds or that is handed on by
a handler.
-/

namespace Parlance

theorem Event.filterMap_outward {β : Type} {f : Event → Option β}
    (unseen : ∀ kind place, f (.visited kind place) = none) (events : List Event) :
    (events.filter Event.isOutward).filterMap f = events.filterMap f := by
  rw [List.filterMap_filter]
  refine List.filterMap_congr fun event _ => ?_
  cases event with
  | visited kind place => exact (unseen kind place).symm
  | emitted line => rfl
  | served serial request => rfl

namespace Session

def shorting (short : Bool) (session : Session) : Session :=
  { session with settings := { session.settings with shortCircuit := short } }

def SettlesOn (session : Session) (upkeep : Arena.Upkeep) (rounds : Nat) (program : Program)
    (source sourceName : Option String) (execution : Execution) : Prop :=
  ∃ enough, ∀ depth, enough ≤ depth →
    session.runWithin upkeep depth rounds program source sourceName = execution

/-- Two executions that look the same from outside: they end alike, emit the same lines and ask the
handlers the same, in the same order, and leave the same arena behind. -/
structure Execution.Alike (execution other : Execution) : Prop where
  result_eq : other.result = execution.result
  outward_eq : other.events.filter Event.isOutward = execution.events.filter Event.isOutward
  lines_eq : other.events.filterMap Event.line? = execution.events.filterMap Event.line?
  served_eq : other.events.filterMap Event.served? = execution.events.filterMap Event.served?
  strays_eq : other.strays = execution.strays
  arena_eq : other.session.arena = execution.session.arena

theorem alike_of_beside {stack : List Nat} {machine other : Machine}
    (beside : machine.Beside stack other) (session later : Session)
    (result : Except Failure Value) :
    (session.executed result { machine with arena := { machine.arena with carried := [] } }).Alike
      (later.executed result { other with arena := { other.arena with carried := [] } }) := by
  have same : other.events.filter Event.isOutward = machine.events.filter Event.isOutward := by
    simp only [Machine.events, List.filter_reverse]
    exact congrArg List.reverse beside.outward_eq
  have seen : ∀ {β : Type} {f : Event → Option β}, (∀ kind place, f (.visited kind place) = none) →
      other.events.filterMap f = machine.events.filterMap f := by
    intro β f unseen
    rw [← Event.filterMap_outward unseen, same, Event.filterMap_outward unseen]
  exact
    { result_eq := rfl
      outward_eq := same
      lines_eq := seen fun _ _ => rfl
      served_eq := seen fun _ _ => rfl
      strays_eq := congrArg List.reverse beside.strays_eq
      arena_eq := by simp only [executed, beside.arena_eq] }

section

variable (session later : Session) {around around' : Surroundings} {depth depth' : Nat}
  {program : Program}

theorem runIn_congr (same : program.run around depth (.ofArena session.arena) =
      program.run around depth' (.ofArena session.arena)) :
    session.runIn around depth program = session.runIn around depth' program := by
  simp only [runIn, same]

/-- Runs that end alike outside of every scope make executions that do. -/
theorem runIn_alike (meets : Run.Meets [] (program.run around depth (.ofArena session.arena))
    (program.run around' depth' (.ofArena later.arena))) :
    (session.runIn around depth program).Alike (later.runIn around' depth' program) := by
  cases result : program.run around depth (.ofArena session.arena) with
  | ok value machine =>
      cases result' : program.run around' depth' (.ofArena later.arena) with
      | error _ _ =>
          rw [result, result'] at meets
          exact meets.elim
      | ok value' other =>
          rw [result, result'] at meets
          obtain ⟨rfl, _, beside⟩ := meets
          have outside := beside.bears.intact.sound.stack_eq
          rw [runIn_ok result outside, runIn_ok result' (beside.arena_eq ▸ outside)]
          exact alike_of_beside beside session later _
  | error failure machine =>
      cases result' : program.run around' depth' (.ofArena later.arena) with
      | ok _ _ =>
          rw [result, result'] at meets
          exact meets.elim
      | error failure' other =>
          rw [result, result'] at meets
          obtain ⟨rfl, beside⟩ := meets
          have outside := beside.bears.intact.sound.stack_eq
          rw [runIn_error result outside, runIn_error result' (beside.arena_eq ▸ outside)]
          exact alike_of_beside beside session later _

/-- A run whose depth ran out failed, and noted much in relation to its depth. -/
theorem runIn_sunk (sunk : Run.Sunk depth' (.ofArena session.arena)
      (program.run around depth (.ofArena session.arena))) :
    (∃ failure, (session.runIn around depth program).result = .error failure) ∧
      depth' ≤ 3 * (session.runIn around depth program).events.length := by
  rw [events_runIn, List.length_reverse]
  cases result : program.run around depth (.ofArena session.arena) with
  | ok value machine =>
      rw [result] at sunk
      exact sunk.elim
  | error failure machine =>
      rw [result] at sunk
      have noted : 3 * 0 + depth' ≤ 3 * machine.journal.length := sunk.2
      exact ⟨runIn_fails result, by simpa [Run.left] using noted⟩

end

/-- A session that neither is strict nor counts steps, and in which all functions are careful. -/
structure Prudent (session : Session) : Prop where
  preserved : Preserved session
  lenient : session.settings.strict = false
  unlimited : session.settings.maxSteps = 0
  holds : ∀ closure, session.arena.Holds closure → Careful closure
  passes : ∀ entry ∈ session.modules.handlers, entry.2.handler.Passes Careful

section

variable {session : Session} {program : Program}

theorem Prudent.runWithin (prudent : Prudent session) (careful : Careful program)
    (upkeep : Arena.Upkeep) (depth rounds : Nat) (source sourceName : Option String)
    (short short' : Bool) :
    let execution :=
      (session.shorting short).runWithin upkeep depth rounds program source sourceName
    (∃ failure, execution.result = .error failure ∧ depth ≤ 3 * execution.events.length + 1) ∨
      ∃ other, (session.shorting short').SettlesOn upkeep rounds program source sourceName other ∧
        execution.Alike other := by
  intro execution
  let around := (session.shorting short).surroundings upkeep rounds source sourceName
  have hosts : around.modules.Passes Careful := ⟨prudent.preserved.genuine, prudent.passes⟩
  have easy : around.Easygoing := ⟨prudent.lenient, if_pos prudent.unlimited⟩
  obtain ⟨known, intact⟩ := prudent.preserved.intact
  have start : (Machine.ofArena session.arena).Beside [] (.ofArena session.arena) :=
    ⟨⟨intact.locals, prudent.holds⟩, rfl, rfl, rfl⟩
  rcases program.run_follows hosts easy short' depth careful _ _ [] start with
    sunk | ⟨_, ended, ⟨enough, same⟩, meets⟩
  · obtain ⟨⟨failure, fails⟩, noted⟩ := runIn_sunk (session.shorting short) sunk
    exact Or.inl ⟨failure, fails, Nat.sub_le_iff_le_add.mp noted⟩
  · have alike := runIn_alike (session.shorting short) (session.shorting short')
      (same enough le_rfl ▸ meets)
    refine Or.inr ⟨_, ⟨enough, fun deeper deep => ?_⟩, alike⟩
    exact runIn_congr (session.shorting short') ((same deeper deep).trans (same enough le_rfl).symm)

/-- What a program settles on looks the same with either setting: a run that is deep enough cannot
have come to the end of its depth. -/
theorem Prudent.settles (prudent : Prudent session) (careful : Careful program)
    {upkeep : Arena.Upkeep} {rounds : Nat} {source sourceName : Option String} {short : Bool}
    (short' : Bool) {execution : Execution}
    (settles :
      (session.shorting short).SettlesOn upkeep rounds program source sourceName execution) :
    ∃ other, (session.shorting short').SettlesOn upkeep rounds program source sourceName other ∧
      execution.Alike other := by
  obtain ⟨enough, same⟩ := settles
  -- deep enough to settle, and too deep to have run out with so few events
  let depth := max enough (3 * execution.events.length + 2)
  have ran := same depth (le_max_left _ _)
  rcases prudent.runWithin careful upkeep depth rounds source sourceName short short' with
    ⟨_, _, noted⟩ | found
  · have deep : 3 * execution.events.length + 2 ≤ depth := le_max_right _ _
    rw [ran] at noted
    omega
  · rwa [ran] at found

end

/-- Short circuits only matter for calls. Whatever a session was used for before, if no right
operand of a logical operator contains a call, neither in a program nor in a function that the arena
holds or that a handler makes up, then without strict settings and without a limit of steps the
program does the same in the eyes of everyone outside, whether right operands are skipped or not.
What it settles on with one setting, given depth enough, looks like what it settles on with the
other: the lines, the requests to handlers, the result and the arena are the same. So does what it
comes to at any depth that suffices for a value. No handler makes up a function of the global
scope. -/
theorem short_circuits_unseen (settings : Settings) (deeds : List Deed)
    (genuine : ∀ deed ∈ deeds, deed.Genuine) (lenient : settings.strict = false)
    (unlimited : settings.maxSteps = 0) (program : Program) (careful : Careful program)
    (upkeep : Arena.Upkeep) (rounds : Nat) (source sourceName : Option String)
    (short short' : Bool) :
    let session := afterAll settings deeds
    (∀ closure, session.arena.Holds closure → Careful closure) →
    (∀ entry ∈ session.modules.handlers, entry.2.handler.Passes Careful) →
      (∀ execution,
        (session.shorting short).SettlesOn upkeep rounds program source sourceName execution →
          ∃ other,
            (session.shorting short').SettlesOn upkeep rounds program source sourceName other ∧
              execution.Alike other) ∧
      ∀ depth value, ((session.shorting short).runWithin upkeep depth rounds program source
          sourceName).result = .ok value →
        ∃ other, (session.shorting short').SettlesOn upkeep rounds program source sourceName other ∧
          ((session.shorting short).runWithin upkeep depth rounds program source
            sourceName).Alike other := by
  intro session holds passes
  have kept : session.settings = settings := settings_afterAll settings deeds
  have prudent : Prudent session :=
    { preserved := preserved_afterAll settings genuine
      lenient := kept ▸ lenient
      unlimited := kept ▸ unlimited
      holds
      passes }
  refine ⟨fun execution settles => prudent.settles careful short' settles, ?_⟩
  intro depth value result
  -- either the other reading has failed where this one does, or it settles alike
  rcases prudent.runWithin careful upkeep depth rounds source sourceName short short' with
    ⟨failure, fails, _⟩ | found
  · exact nomatch result.symm.trans fails
  · exact found

/-- A function that falls back on an entry of a map:

    function either(a, b) { return a or b["k"] } -/
def fallback : Closure :=
  ⟨"either", ["a", "b"],
    [.giveBack (some (.binary .or (.ident "a" .start)
      (.index (.ident "b" .start) (.literal (.text "k") .start) .start) .start)) .start],
    .start, none⟩

def falling : List Deed :=
  [.register "m" (some .apply),
    .run 4 0 [.define (some "either") none [⟨"a", .start⟩, ⟨"b", .start⟩] fallback.body .start
      .start] none none]

/-- A program that decides early by itself, in the function, and late:

    say x and not x; say m.go(either, "yes", {}); say "" or not x -/
def deciding : Program :=
  [.output (some (.binary .and (.ident "x" .start) (.unary .not (.ident "x" .start) .start) .start,
      none)) .start,
    .output (some (.call "m" (some "go") [.ident "either" .start, .literal (.text "yes") .start,
      .map [] .start] .start, none)) .start,
    .output (some (.binary .or (.literal (.text "") .start)
      (.unary .not (.ident "x" .start) .start) .start, none)) .start]

theorem deciding_unseen :
    let session := afterAll .standard falling
    ∃ execution other, (session.shorting true).SettlesOn .reclaim 0 deciding none none execution ∧
      (session.shorting false).SettlesOn .reclaim 0 deciding none none other ∧
      execution.Alike other ∧
      other.events.filterMap Event.line? = ["false", "true", "true"] := by
  intro session
  have genuine : ∀ deed ∈ falling, deed.Genuine := by
    intro deed member
    rcases List.mem_cons.mp member with rfl | last
    · rintro given ⟨⟩
      exact Handler.apply_genuine
    · obtain rfl := List.mem_singleton.mp last
      trivial
  have passes : ∀ entry ∈ session.modules.handlers, entry.2.handler.Passes Careful := by
    have hosted : session.modules.handlers = [("m", ⟨0, .apply⟩)] := rfl
    intro entry member
    rw [hosted] at member
    obtain rfl := List.mem_singleton.mp member
    exact Handler.apply_passes _
  have bound : session.arena = ⟨[(0, [("either", .function fallback)])], [], [], 1, []⟩ := rfl
  have holds : ∀ closure, session.arena.Holds closure → Careful closure := by
    rintro closure ⟨id, bindings, key, value, found, here, member⟩
    rw [bound] at found
    obtain ⟨_, rfl⟩ : 0 = id ∧ [("either", Value.function fallback)] = bindings := by
      simpa [Table.get?] using found
    obtain ⟨_, rfl⟩ : "either" = key ∧ Value.function fallback = value := by
      simpa [Table.get?] using here
    obtain rfl : closure = fallback := by simpa [Value.closures] using member
    decide +kernel
  have careful : Careful deciding := by decide +kernel
  obtain ⟨lines, comes⟩ :
      ((session.shorting true).runWithin .reclaim 12 0 deciding none none).events.filterMap
          Event.line? = ["false", "true", "true"] ∧
        ((session.shorting true).runWithin .reclaim 12 0 deciding none none).result.isOk =
          true := by decide +kernel
  have unseen := fun short short' => short_circuits_unseen .standard falling genuine rfl rfl
    deciding careful .reclaim 0 none none short short'
  -- named alike, the session is not evaluated once more
  rw [show afterAll .standard falling = session from rfl] at unseen
  cases result : ((session.shorting true).runWithin .reclaim 12 0 deciding none none).result with
  | error failure =>
      rw [result] at comes
      cases comes
  | ok value =>
      obtain ⟨execution, settles, alike⟩ := (unseen true true holds passes).2 12 value result
      obtain ⟨other, settles', alike'⟩ := (unseen true false holds passes).1 execution settles
      exact ⟨execution, other, settles, settles', alike',
        alike'.lines_eq.trans (alike.lines_eq.trans lines)⟩

/-- A call in a right operand tells the settings apart, `say x and m.go()` for one. -/
example :
    let session := afterAll .standard falling
    let requests := fun short => (session.shorting short).runWithin .reclaim 12 0
      [.output (some (.binary .and (.ident "x" .start) (.call "m" (some "go") [] .start) .start,
        none)) .start] none none |>.events.filterMap Event.served? |>.length
    (requests true, requests false) = (0, 1) := by decide +kernel

end Session

end Parlance
