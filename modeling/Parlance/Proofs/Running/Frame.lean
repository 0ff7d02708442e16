import Parlance.Proofs.Running.Agreement
import Parlance.Proofs.Running.Dispatch

/-!
What runs keep. A frame relates the machine before a run to the machine that the run leaves, whether
it failed or not, and holds over runs that follow one another. A frame that the primitives of the
evaluator keep is kept by every program, to any depth, with any handlers. So is the discipline of
the stack.
-/

namespace Parlance

structure Frame where
  kept : Machine → Machine → Prop
  refl : ∀ machine, kept machine machine
  trans : ∀ {first second third}, kept first second → kept second third → kept first third

namespace Frame

open Evaluation

variable {frame : Frame} {α β : Type}

def Keeps (frame : Frame) (run : Run α) : Prop :=
  ∀ machine, frame.kept machine (Run.left (run machine))

theorem keeps_still {run : Run α} (still : ∀ machine, Run.left (run machine) = machine) :
    frame.Keeps run := by
  intro machine
  rw [still]
  exact frame.refl machine

theorem keeps_pure (a : α) : frame.Keeps (pure a) := keeps_still fun _ => rfl

theorem keeps_bind {run : Run α} {rest : α → Run β} (first : frame.Keeps run)
    (later : ∀ a, frame.Keeps (rest a)) : frame.Keeps (run >>= rest) := by
  intro machine
  have early := first machine
  simp only [bind, EStateM.bind]
  cases result : run machine with
  | ok a after =>
      rw [result] at early
      exact frame.trans early (later a after)
  | error failure after =>
      rw [result] at early
      exact early

theorem keeps_rescue {run : Run α} {rest : α → Run β} {spare : String → Run β}
    (first : frame.Keeps run) (later : ∀ a, frame.Keeps (rest a))
    (otherwise : ∀ message, frame.Keeps (spare message)) :
    frame.Keeps (Script.rescue Failure.caught? run rest spare) := by
  intro machine
  have early := first machine
  cases result : run machine with
  | ok a after =>
      rw [result] at early
      rw [Script.rescue_ok result]
      exact frame.trans early (later a after)
  | error failure after =>
      rw [result] at early
      cases caught : failure.caught? with
      | none =>
          rw [Script.rescue_uncaught result caught]
          exact early
      | some message =>
          rw [Script.rescue_caught result caught]
          exact frame.trans early (otherwise message after)

abbrev comparison (frame : Frame) : Comparison where
  Agree _ _ run _ := frame.Keeps run
  value _ := keeps_pure _
  andThen first later :=
    keeps_bind first fun a => later Set.univ (Set.subset_univ _) a (held_univ a)

/-- The primitives of an evaluator keep a frame, all but the one that notes an event. Those that
neither fail nor change the machine need not be looked at. -/
structure Quiet (frame : Frame) (around : Surroundings) : Prop where
  visit : ∀ kind place, frame.Keeps (Evaluation.visit around kind place)
  noteStray : ∀ name, frame.Keeps (Run.noteStray name)
  capture : frame.Keeps Run.capture
  declare : ∀ name value, frame.Keeps (Evaluation.declare name value)
  assign : ∀ name value, frame.Keeps (Run.onArena (Arena.assign name value))
  carry : ∀ value, frame.Keeps (Evaluation.carry value)
  collect : ∀ roots, frame.Keeps (Run.onArena (Arena.collect around.upkeep roots))
  fresh : ∀ body : Run Outcome, frame.Keeps body →
    frame.Keeps (inScope around Arena.pushFresh body)
  again : ∀ id closure (body : Run Value), frame.Keeps body →
    ∀ machine, machine.arena.isLive id = true → frame.kept machine (Run.left
      (inScope around (fun arena => Arena.carry (.function closure) (Arena.push id arena)) body
        machine))

structure Primitives (frame : Frame) (around : Surroundings) : Prop extends
    frame.Quiet around where
  note : ∀ event, frame.Keeps (Run.note event)

section

variable {around : Surroundings} (quiet : frame.Quiet around)

include quiet

theorem Quiet.keeps_inFresh {body : Run Outcome} (keeps : frame.Keeps body) :
    frame.Keeps (inFresh around body) := by
  apply quiet.fresh
  apply keeps_bind keeps
  intro outcome
  apply keeps_bind (quiet.carry outcome.value)
  intro _
  exact keeps_pure outcome

theorem Quiet.keeps_inCaptured {closure : Closure} {body : Run Value} (keeps : frame.Keeps body) :
    frame.Keeps (inCaptured around closure body) := by
  cases scope : closure.scope with
  | none =>
      rw [inCaptured_none scope]
      exact keeps
  | some id =>
      intro machine
      by_cases live : machine.arena.isLive id = true
      · rw [inCaptured_entered scope live]
        exact quiet.again id closure body keeps machine live
      · rw [inCaptured_missed scope live]
        exact frame.trans (quiet.noteStray closure.name machine) (keeps _)

theorem Quiet.compares
    (dispatch : ∀ inner inner', frame.comparison.Pairs inner inner' → ∀ request,
      around.modules.has request.module = true → frame.Keeps (dispatch around inner request)) :
    frame.comparison.Quiet around around where
  settings := rfl
  hosts _ := rfl
  visit _ _ := quiet.visit
  resolve _ _ name := keeps_still (Run.left_resolve name)
  declare _ _ name value _ := quiet.declare name value
  assign _ _ name value _ := quiet.assign name value
  capture _ _ := quiet.capture
  lapse _ _ _ _ value _ _ := by
    split
    · exact keeps_still fun _ => rfl
    · exact keeps_pure value
  dispatch inner inner' parts _ _ request hosted _ := dispatch inner inner' parts request hosted
  inFresh _ _ _ _ keeps := quiet.keeps_inFresh (keeps 0)
  inCaptured _ _ _ _ _ _ keeps := quiet.keeps_inCaptured (keeps [])
  tidy _ value _ := by
    intro machine
    rw [left_tidy]
    exact quiet.collect [value] machine

end

namespace Primitives

variable {around : Surroundings} (primitives : frame.Primitives around)

include primitives

theorem keeps_dispatch {inner : Runner}
    (call : ∀ function arguments, frame.Keeps (inner.call function arguments))
    (request : Request) : frame.Keeps (dispatch around inner request) := by
  cases found : around.modules.find? request.module with
  | none =>
      rw [dispatch_unknown found]
      exact keeps_still fun _ => rfl
  | some entry =>
      have script : frame.Keeps
          ((entry.handler request).run ⟨Run.emit, lookup, inner.call⟩ Failure.caught?) :=
        frame.comparison.script_agree inner inner []
          (fun line => primitives.note (.emitted line))
          (fun name => keeps_still (Run.left_resolve name)) call _
          (Or.inr fun _ _ _ _ _ _ first later otherwise => keeps_rescue first
            (fun value => later _ subset_rfl value (held_univ value))
            fun message => otherwise _ subset_rfl message)
      intro machine
      rw [dispatch_found found, left_answer]
      exact keeps_bind (primitives.note _) (fun _ => script) machine

theorem links : frame.comparison.Links around around where
  toQuiet := primitives.toQuiet.compares fun _ _ parts request _ =>
    primitives.keeps_dispatch (fun function arguments =>
      parts.call Set.univ [] function arguments (held_univ _) (held_univ _)) request
  emit _ _ line := primitives.note (.emitted line)

omit primitives in
theorem bounds (bound : Nat) : frame.comparison.Bounds bound bound :=
  Or.inl ⟨rfl, fun _ _ _ _ => keeps_still fun _ => rfl⟩

/-- Every expression, every statement and every call keeps the frame. -/
theorem keeps_parts (depth : Nat) :
    frame.comparison.Pairs (.ofDepth around depth) (.ofDepth around depth) :=
  Comparison.ofDepth_agree primitives.links (bounds around.rounds) depth depth (bounds depth)

theorem keeps_run (program : Program) (depth : Nat) : frame.Keeps (program.run around depth) :=
  Comparison.run_agree primitives.links (bounds around.rounds) program depth depth (bounds depth)
    Set.univ

end Primitives

/-! ### The discipline of the stack -/

/-- The scopes entered afterwards are those entered before, and an arena that was accounted for
still is. -/
def balance : Frame where
  kept before after := Arena.Balanced before.arena after.arena
  refl machine := .refl machine.arena
  trans early late := early.trans late

section

variable {α : Type}

theorem balance_onArena {action : Arena.Action α}
    (balanced : ∀ arena, Arena.Balanced arena (Arena.left (action arena))) :
    balance.Keeps (Run.onArena action) := by
  intro machine
  rw [Run.left_onArena]
  exact balanced machine.arena

theorem balance_visit (budget : Option Nat) (kind : Node.Kind) (place : Place) :
    balance.Keeps (Run.visit budget kind place) := by
  intro machine
  simp only [Run.visit]
  cases budget with
  | none => exact .refl machine.arena
  | some limit =>
      simp only
      split
      · exact .refl machine.arena
      · exact .refl machine.arena

theorem balance_capture : balance.Keeps Run.capture := by
  intro machine
  simp only [Run.capture]
  cases innermost : machine.arena.innermost? with
  | none => exact .refl machine.arena
  | some id => exact Arena.pin_balanced innermost

end

theorem balance_primitives (around : Surroundings) : balance.Primitives around where
  visit := balance_visit around.budget
  note _ machine := .refl machine.arena
  noteStray _ machine := .refl machine.arena
  capture := balance_capture
  declare name value := balance_onArena fun _ => Arena.declare_balanced name value
  assign name value := balance_onArena fun _ => Arena.assign_balanced name value
  carry value _ := Arena.carry_balanced value
  collect roots := balance_onArena fun _ => Arena.collect_balanced around.upkeep roots
  fresh body keeps machine := by
    simp only [inScope, Run.left_inScope]
    exact Arena.Balanced.around (keeps _) rfl Arena.Accounted.pushFresh around.upkeep
  again id closure body keeps machine live := by
    have carried : Arena.Balanced (Arena.push id machine.arena)
        (Arena.carry (.function closure) (Arena.push id machine.arena)) :=
      Arena.carry_balanced (.function closure)
    simp only [inScope, Run.left_inScope]
    exact Arena.Balanced.around (keeps _) carried.stack_eq
      (fun accounted => carried.accounted (accounted.push live)) around.upkeep

end Frame

end Parlance
