import Parlance.Proofs.Running.Cutoff

/-!
Lines and steps. A line is charged to the step it is emitted in: the first of an output statement
to the visit of the statement, any other to a visit of its own. So a run without modules emits no
more lines than it visits nodes.
-/

namespace Parlance

def Machine.lines (machine : Machine) : Nat :=
  machine.journal.countP fun event => event.line?.isSome

@[simp] theorem Machine.lines_visit (kind : Node.Kind) (place : Place) (machine : Machine) :
    (machine.visit kind place).lines = machine.lines := by
  simp [visit, lines, Event.line?]

namespace Run

variable {α : Type}

def Owes (debt : Nat) (run : Run α) : Prop :=
  ∀ machine, (left (run machine)).lines + machine.visits ≤
    machine.lines + (left (run machine)).visits + debt

end Run

namespace Frame

open Run Evaluation

def charged : Frame where
  kept before after := after.lines + before.visits ≤ before.lines + after.visits
  refl _ := le_rfl
  trans early late := by omega

section

variable {α : Type}

theorem charged_still {run : Run α}
    (still : ∀ machine, (left (run machine)).journal = machine.journal) : charged.Keeps run := by
  intro machine
  simp only [charged, Machine.lines, Machine.visits, still, le_rfl]

theorem charged_onArena (action : Arena.Action α) : charged.Keeps (onArena action) :=
  charged_still fun machine => by rw [left_onArena]

theorem charged_inScope {upkeep : Arena.Upkeep} {enter : Arena → Arena} {body : Run α}
    (keeps : charged.Keeps body) : charged.Keeps (inScope upkeep enter body) := by
  intro machine
  rw [left_inScope]
  exact keeps { machine with arena := enter machine.arena }

theorem owes_after {β : Type} {debt : Nat} {first : Run α} {rest : α → Run β}
    (keeps : charged.Keeps first) (later : ∀ a, Owes debt (rest a)) :
    Owes debt (first >>= rest) := by
  intro machine
  have start : (left (first machine)).lines + machine.visits ≤
    machine.lines + (left (first machine)).visits := keeps machine
  simp only [bind, EStateM.bind]
  cases result : first machine with
  | ok a after =>
      have goes := later a after
      simp only [result, left] at start goes ⊢
      omega
  | error failure after =>
      simp only [result, left] at start ⊢
      omega

theorem owes_then {β : Type} {debt : Nat} {first : Run α} {rest : α → Run β}
    (owes : Owes debt first) (later : ∀ a, charged.Keeps (rest a)) :
    Owes debt (first >>= rest) := by
  intro machine
  have start := owes machine
  simp only [bind, EStateM.bind]
  cases result : first machine with
  | ok a after =>
      have goes : (left (rest a after)).lines + after.visits ≤
        after.lines + (left (rest a after)).visits := later a after
      simp only [result, left] at start goes ⊢
      omega
  | error failure after =>
      simp only [result, left] at start ⊢
      exact start

theorem charged_visit_bind {budget : Option Nat} {kind : Node.Kind} {place : Place}
    {rest : Unit → Run α} (owes : Owes 1 (rest ())) :
    charged.Keeps (Run.visit budget kind place >>= rest) := by
  -- a visit pays for one line, unless it fails, and then nothing follows it
  intro machine
  simp only [bind, EStateM.bind]
  rcases visit_cases budget kind place machine with ⟨limit, _, _, result⟩ | ⟨_, result⟩
  · rw [result]
    exact charged.refl machine
  · rw [result]
    have goes := owes (machine.visit kind place)
    rw [Machine.lines_visit, Machine.visits_visit] at goes
    simp only [charged]
    omega

theorem charged_visit (budget : Option Nat) (kind : Node.Kind) (place : Place) :
    charged.Keeps (Run.visit budget kind place) := by
  intro machine
  rcases visit_cases budget kind place machine with ⟨limit, _, _, result⟩ | ⟨_, result⟩
  · rw [result]
    exact charged.refl machine
  · rw [result]
    simp only [charged, left, Machine.lines_visit, Machine.visits_visit]
    omega

theorem charged_capture : charged.Keeps capture := by
  refine charged_still fun machine => ?_
  simp only [capture]
  cases machine.arena.innermost? <;> rfl

theorem charged_quiet (around : Surroundings) : charged.Quiet around where
  visit := charged_visit around.budget
  noteStray _ _ := le_rfl
  capture := charged_capture
  declare _ _ := charged_onArena _
  assign _ _ := charged_onArena _
  carry _ _ := le_rfl
  collect _ := charged_onArena _
  fresh _ keeps := charged_inScope keeps
  again _ _ _ keeps machine _ := charged_inScope keeps machine

theorem owes_emit (line : String) : Owes 1 (emit line) := by
  intro machine
  simp [emit, note, left, Machine.lines, Machine.visits, Event.line?, Event.isVisit]
  omega

theorem charged_emitTimes (around : Surroundings) (line : String) (place : Place) (count : Nat) :
    charged.Keeps (emitTimes around line place false count) := by
  -- behind the first line, each is paid for by a visit of its own
  induction count with
  | zero => exact keeps_pure ()
  | succ count ih => exact charged_visit_bind (owes_then (owes_emit line) fun _ => ih)

/-- The first line is owed. -/
theorem owes_emitTimes (around : Surroundings) (line : String) (place : Place) (count : Nat) :
    Owes 1 (emitTimes around line place true count) := by
  cases count with
  | zero =>
      intro machine
      simp only [emitTimes, pure, EStateM.pure, left]
      omega
  | succ count =>
      exact owes_then (owes_emit line) fun _ => charged_emitTimes around line place count

variable {around : Surroundings} {inner inner' : Runner}

theorem owes_execOutput (parts : charged.comparison.Pairs inner inner')
    (what : Option (Expr × Option Expr)) (place : Place) :
    Owes 1 (execOutput around inner what place) := by
  rcases what with _ | ⟨expr, _ | count⟩
  · exact owes_emitTimes around "" place 1
  · refine owes_after (parts.eval Set.univ [] expr) fun value => ?_
    exact owes_emitTimes around value.toText place 1
  · refine owes_after (parts.eval Set.univ [] expr) fun value => ?_
    refine owes_after (parts.eval Set.univ [] count) fun times => ?_
    exact owes_emitTimes around value.toText place _

theorem charged_links (unhosted : ∀ name, around.modules.has name = false) :
    charged.comparison.Quiet around around :=
  (charged_quiet around).compares fun _ _ _ request hosted => by simp [unhosted] at hosted

theorem charged_exec (unhosted : ∀ name, around.modules.has name = false)
    (parts : charged.comparison.Pairs inner inner') (stmt : Stmt) :
    charged.Keeps (exec around inner stmt) := by
  have quiet := charged_links unhosted
  have guarded := fun guard body => Comparison.execGuarded_agree quiet parts guard body
    around.rounds around.rounds 0 (Primitives.bounds around.rounds)
  by_cases output : ∃ what place, stmt = .output what place
  · obtain ⟨what, place, rfl⟩ := output
    exact charged_visit_bind (owes_then (owes_execOutput parts what place) fun _ =>
      keeps_pure Outcome.normal)
  · have performs := Comparison.perform_agree quiet parts guarded stmt fun what place same =>
      absurd ⟨what, place, same⟩ output
    exact Comparison.exec_agree_of_perform quiet stmt performs Set.univ []

theorem charged_parts (unhosted : ∀ name, around.modules.has name = false) (depth : Nat) :
    charged.comparison.Pairs (.ofDepth around depth) (.ofDepth around depth) := by
  have quiet := charged_links unhosted
  refine Comparison.ofDepth_agree_of (fun inner inner' parts => ?_) depth depth
    (Primitives.bounds depth)
  exact
    { eval := fun known stack expr => Comparison.eval_agree quiet parts expr known stack
      exec := fun _ _ stmt => charged_exec unhosted parts stmt
      call := fun known stack function arguments held helds =>
        Comparison.call_agree quiet parts.exec function arguments known stack held helds }

/-- A run without modules emits no more lines than it visits nodes. -/
theorem charged_run (unhosted : ∀ name, around.modules.has name = false) (program : Program)
    (depth : Nat) : charged.Keeps (program.run around depth) :=
  Comparison.runFrom_agree (charged_links unhosted) (charged_parts unhosted depth) program .void
    Set.univ (held_univ _)

end

end Frame

end Parlance
