import Parlance.Proofs.Running.Keeping
import Parlance.Proofs.Session.Collection

/-!
The reach of bindings. What blocks, loops, parameters and functions bind stays within them, so at
the top level of a program only declarations and assignments are to be looked at for what becomes
of a global binding, in the statements themselves and in the functions that the arena holds.
-/

namespace Parlance.Session

/-- A machine between the top-level statements of a session: where programs start, or right behind
a statement of one that completed. -/
def Rests (session : Session) (around : Surroundings) (depth : Nat) (machine : Machine) : Prop :=
  machine.arena = session.arena ∨
    ∃ program outcome, Program.Comes around (.ofDepth around depth) (.ofArena session.arena)
      program outcome machine

section

variable {session : Session} {around : Surroundings} {depth : Nat} {name : String}

/-- Between statements the arena guards every binding that no function in it assigns to. -/
theorem Preserved.guards (preserved : Preserved session) (same : around.modules = session.modules)
    {machine : Machine} (rests : session.Rests around depth machine)
    (held : ∀ closure, machine.arena.Holds closure → name ∉ Stmt.allTargets closure.body) :
    machine.arena.Guards name (Table.get? name machine.arena.globals) [] := by
  have intact : ∃ known, machine.arena.Intact known [] := by
    rcases rests with start | ⟨program, outcome, comes⟩
    · rw [start]
      exact preserved.intact
    · exact preserved.intact_of_comes same comes
  obtain ⟨known, intact⟩ := intact
  exact ⟨intact.locals, held, rfl⟩

/-- What guards a binding when a run ends outside of every scope is what the session keeps. -/
theorem globals_runIn {program : Program} {bound : Option Value}
    (guards : (Run.left (program.run around depth (.ofArena session.arena))).arena.Guards name bound
      []) : Table.get? name (session.runIn around depth program).session.arena.globals = bound := by
  have outside := guards.intact.sound.stack_eq
  obtain ⟨result, ended⟩ := runIn_left session around depth program
  rw [ended, Arena.unwind_eq around.upkeep outside]
  exact guards.bound_eq

end

/-- A loop that shadows a name by its items, by a function, by the parameter of that and by a
declaration in it, and hands the function to a module on its way out:

    each x in ["inner"] { say x; function x(x) { let x = "deep"; say x }; return m.go(x) } -/
def shadowing : Stmt :=
  .loop (.each (some "x") (.list [.literal (.text "inner") .start] .start))
    [.output (some (.ident "x" .start, none)) .start,
      .define (some "x") none [⟨"x", .start⟩]
        [.declare "x" (some (.literal (.text "deep") .start)) .start,
          .output (some (.ident "x" .start, none)) .start] .start .start,
      .giveBack (some (.call "m" (some "go") [.ident "x" .start] .start)) .start]
    .start .start

def binding : List Deed :=
  [.register "m" (some .apply),
    .run 4 0 [.declare "x" (some (.literal (.text "outer") .start)) .start] none none]

def bindingLeaves : Arena := ⟨[(0, [("x", .text "outer")])], [], [], 1, []⟩

theorem bindingLeaves_spares (closure : Closure) (holds : bindingLeaves.Holds closure) :
    "x" ∉ Stmt.allTargets closure.body := by
  obtain ⟨id, bindings, key, value, found, here, member⟩ := holds
  obtain ⟨_, rfl⟩ : 0 = id ∧ [("x", Value.text "outer")] = bindings := by
    simpa [bindingLeaves, Table.get?] using found
  obtain ⟨_, rfl⟩ : "x" = key ∧ Value.text "outer" = value := by simpa [Table.get?] using here
  simp [Value.closures] at member

def bringing (closure : Closure) : Handler := fun _ =>
  .invoke (.function closure) [] fun value => .give (.value value)

/-- A function that assigns to the name:

    function meddle() { x = "inner" } -/
def meddle : Closure :=
  ⟨"meddle", [], [.assign "x" (.literal (.text "inner") .start) .start], .start, none⟩

/-- A function that does nothing, as if defined in the global scope, which is given up when the
function is left. -/
def pose : Closure := ⟨"pose", [], [], .start, some Arena.globalId⟩

def bindingBeside (handler : Handler) : List Deed :=
  [.register "m" (some handler),
    .run 4 0 [.declare "x" (some (.literal (.text "outer") .start)) .start] none none]

def askingModule : Stmt := .expression (.call "m" (some "go") [] .start)

def askedLeaves (handler : Handler) : Arena :=
  let session := afterAll .standard (bindingBeside handler)
  let around := session.surroundings .reclaim 0 none none
  (Run.left ((Runner.ofDepth around 8).exec askingModule (.ofArena session.arena))).arena

end Parlance.Session
