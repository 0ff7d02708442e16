import Parlance.Proofs.Running.Alike

/-!
Evaluators agree. A comparison of two evaluators that are given the same programs is a likeness that
relabels nothing. So if the primitives of the two agree under it, then all their runs do.
-/

namespace Parlance

namespace Comparison

open Evaluation

abbrev likeness (comparison : Comparison) : Likeness where
  relabelling := .none
  Agree := comparison.Agree
  value held := by
    rw [Labelled.relabel_none]
    exact comparison.value held
  andThen first later := by
    simp only [Labelled.relabel_none] at later
    exact comparison.andThen first later

variable {comparison : Comparison} {around around' : Surroundings} {inner inner' : Runner}

theorem pairs_likeness :
    comparison.likeness.Pairs inner inner' ↔ comparison.Pairs inner inner' := by
  constructor
  · rintro ⟨eval, exec, call⟩
    simp only [Relabelling.place_none, Expr.moved_id, Stmt.moved_id, Value.relabel_none,
      Value.relabelItems_none] at eval exec call
    exact ⟨eval, exec, call⟩
  · rintro ⟨eval, exec, call⟩
    refine ⟨?_, ?_, ?_⟩ <;>
      simp only [Relabelling.place_none, Expr.moved_id, Stmt.moved_id, Value.relabel_none,
        Value.relabelItems_none]
    · exact eval
    · exact exec
    · exact call

theorem Quiet.likeness (quiet : comparison.Quiet around around') :
    comparison.likeness.Quiet around around' where
  settings := quiet.settings
  hosts := quiet.hosts
  visit := quiet.visit
  resolve := quiet.resolve
  declare := by
    simp only [Value.relabel_none]
    exact quiet.declare
  assign := by
    simp only [Value.relabel_none]
    exact quiet.assign
  capture := quiet.capture
  lapse := by
    simp only [Value.relabel_none]
    exact quiet.lapse
  dispatch inner inner' parts := by
    simp only [Request.relabel_none]
    exact quiet.dispatch inner inner' (pairs_likeness.mp parts)
  inFresh := quiet.inFresh
  inCaptured := by
    simp only [Closure.relabel_none]
    exact quiet.inCaptured
  tidy := by
    simp only [Value.relabel_none]
    exact quiet.tidy

theorem Bounds.likeness {bound bound' : Nat} (bounds : comparison.Bounds bound bound') :
    comparison.likeness.Bounds bound bound' := by
  rcases bounds with ⟨same, fails⟩ | ⟨lesser, yields⟩
  · exact Or.inl ⟨same, fun α _ _ => fails α⟩
  · exact Or.inr ⟨lesser, fun α _ _ => yields α⟩

theorem Links.likeness (links : comparison.Links around around') :
    comparison.likeness.Links around around' :=
  { links.toQuiet.likeness with emit := links.emit }

section

variable (quiet : comparison.Quiet around around') (links : comparison.Links around around')
variable (parts : comparison.Pairs inner inner')

include quiet parts in
theorem compute_agree (expr : Expr) (known : Set Nat) (stack : List Nat) :
    comparison.Agree known stack (compute around inner expr) (compute around' inner' expr) := by
  have agree := Likeness.compute_agree quiet.likeness (pairs_likeness.mpr parts) expr known stack
  rwa [Relabelling.place_none, Expr.moved_id] at agree

include quiet parts in
theorem eval_agree (expr : Expr) (known : Set Nat) (stack : List Nat) :
    comparison.Agree known stack (eval around inner expr) (eval around' inner' expr) := by
  have agree := Likeness.eval_agree quiet.likeness (pairs_likeness.mpr parts) expr known stack
  rwa [Relabelling.place_none, Expr.moved_id] at agree

section

variable (execs : ∀ known stack stmt,
  comparison.Agree known stack (inner.exec stmt) (inner'.exec stmt))

include quiet execs in
theorem round_agree (index : Nat) (item : Option (String × Value)) (body : List Stmt)
    (known : Set Nat) (stack : List Nat) (held : ∀ entry ∈ item, Held known entry.2) :
    comparison.Agree known stack (round around inner index item body)
      (round around' inner' index item body) := by
  have same : item.map (Prod.map id (Value.relabel .none)) = item := by
    cases item <;> simp [Prod.map]
  have agree := Likeness.round_agree quiet.likeness
    (by simpa only [Relabelling.place_none, Stmt.moved_id] using execs) index item body known stack
    held
  rwa [Relabelling.place_none, Stmt.movedAll_id, same] at agree

end

include quiet parts in
theorem execGuarded_agree (guard : Expr) (body : List Stmt) (left right index : Nat)
    (bounds : comparison.Bounds left right) (known : Set Nat) (stack : List Nat) :
    comparison.Agree known stack (execGuarded around inner guard body left index)
      (execGuarded around' inner' guard body right index) := by
  have agree := Likeness.execGuarded_agree quiet.likeness (pairs_likeness.mpr parts) guard body
    left right index bounds.likeness known stack
  rwa [Relabelling.place_none, Expr.moved_id, Stmt.movedAll_id] at agree

include links parts in
theorem execOutput_agree (what : Option (Expr × Option Expr)) (place : Place) (known : Set Nat)
    (stack : List Nat) :
    comparison.Agree known stack (execOutput around inner what place)
      (execOutput around' inner' what place) := by
  have agree := Likeness.execOutput_agree links.likeness (pairs_likeness.mpr parts) what place
    known stack
  rwa [Relabelling.place_none, Stmt.outputs_id] at agree

include quiet parts in
/-- Loops that go by a guard and the emission of lines are left to whoever asks. -/
theorem perform_agree (guarded : ∀ guard body known stack, comparison.Agree known stack
      (execGuarded around inner guard body around.rounds 0)
      (execGuarded around' inner' guard body around'.rounds 0)) (stmt : Stmt)
    (outputs : ∀ what place, stmt = .output what place → ∀ known stack, comparison.Agree known stack
      (execOutput around inner what place) (execOutput around' inner' what place))
    (known : Set Nat) (stack : List Nat) :
    comparison.Agree known stack (perform around inner stmt) (perform around' inner' stmt) := by
  have agree := Likeness.perform_agree quiet.likeness (pairs_likeness.mpr parts)
    (by simpa only [Relabelling.place_none, Expr.moved_id, Stmt.movedAll_id] using guarded) stmt
    (by simpa only [Relabelling.place_none, Stmt.outputs_id, id] using outputs) known stack
  rwa [Relabelling.place_none, Stmt.moved_id] at agree

include quiet in
theorem exec_agree_of_perform (stmt : Stmt)
    (performs : ∀ known stack, comparison.Agree known stack (perform around inner stmt)
      (perform around' inner' stmt)) (known : Set Nat) (stack : List Nat) :
    comparison.Agree known stack (exec around inner stmt) (exec around' inner' stmt) := by
  have agree := Likeness.exec_agree_of_perform quiet.likeness stmt
    (by simpa only [Relabelling.place_none, Stmt.moved_id] using performs) known stack
  rwa [Relabelling.place_none, Stmt.moved_id] at agree

section

variable (execs : ∀ known stack stmt,
  comparison.Agree known stack (inner.exec stmt) (inner'.exec stmt))

include quiet execs in
theorem call_agree (function : Value) (arguments : List Value) (known : Set Nat)
    (stack : List Nat) (held : Held known function) (helds : Held known arguments) :
    comparison.Agree known stack (call around inner function arguments)
      (call around' inner' function arguments) := by
  have agree := Likeness.call_agree quiet.likeness
    (by simpa only [Relabelling.place_none, Stmt.moved_id] using execs) function arguments known
    stack held helds
  rwa [Value.relabel_none, Value.relabelItems_none] at agree

end

end

/-! ### Programs -/

theorem ofDepth_agree_of
    (step : ∀ inner inner', comparison.Pairs inner inner' →
      comparison.Pairs (runner around inner) (runner around' inner'))
    (depth depth' : Nat) (bounds : comparison.Bounds depth depth') :
    comparison.Pairs (.ofDepth around depth) (.ofDepth around' depth') :=
  pairs_likeness.mp (Likeness.ofDepth_agree_of
    (fun inner inner' parts => pairs_likeness.mpr (step inner inner' (pairs_likeness.mp parts)))
    depth depth' bounds.likeness)

theorem ofDepth_agree (links : comparison.Links around around')
    (rounds : comparison.Bounds around.rounds around'.rounds) (depth depth' : Nat)
    (bounds : comparison.Bounds depth depth') :
    comparison.Pairs (.ofDepth around depth) (.ofDepth around' depth') :=
  pairs_likeness.mp (Likeness.ofDepth_agree links.likeness rounds.likeness depth depth'
    bounds.likeness)

section

variable (quiet : comparison.Quiet around around')

include quiet in
theorem complete_agree {inner inner' : Runner} (parts : comparison.Pairs inner inner')
    (stmt : Stmt) (known : Set Nat) :
    comparison.Agree known [] (complete around inner stmt) (complete around' inner' stmt) := by
  have agree := Likeness.complete_agree quiet.likeness (pairs_likeness.mpr parts) stmt known
  rwa [Relabelling.place_none, Stmt.moved_id] at agree

include quiet in
theorem runFrom_agree {inner inner' : Runner} (parts : comparison.Pairs inner inner')
    (program : Program) (last : Value) (known : Set Nat) (held : Held known last) :
    comparison.Agree known [] (Program.runFrom around inner last program)
      (Program.runFrom around' inner' last program) := by
  have agree := Likeness.runFrom_agree quiet.likeness (pairs_likeness.mpr parts) program last known
    held
  rwa [Relabelling.place_none, Program.moved_id, Value.relabel_none] at agree

end

theorem run_agree (links : comparison.Links around around')
    (rounds : comparison.Bounds around.rounds around'.rounds) (program : Program)
    (depth depth' : Nat) (bounds : comparison.Bounds depth depth') (known : Set Nat) :
    comparison.Agree known [] (program.run around depth) (program.run around' depth') := by
  have agree := Likeness.run_agree links.likeness rounds.likeness program depth depth'
    bounds.likeness known
  rwa [Relabelling.place_none, Program.moved_id] at agree

end Comparison

end Parlance
