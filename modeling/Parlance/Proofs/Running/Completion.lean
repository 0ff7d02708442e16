import Parlance.Proofs.Running.Agreement

/-!
The statements of a program that complete. A run goes through the statements one by one and tidies
the arena behind each; it ends behind the one that returns, or behind the last.
-/

namespace Parlance

namespace Evaluation

theorem complete_of_idle {around : Surroundings} {runner : Runner} {stmt : Stmt}
    {before after : Machine} {outcome : Outcome}
    (done : runner.exec stmt before = .ok outcome after)
    (idle : Arena.collect around.upkeep [outcome.value] after.arena = .ok 0 after.arena) :
    complete around runner stmt before = .ok outcome after := by
  simp [complete, bind, EStateM.bind, done, tidy_ok idle, pure, EStateM.pure]

theorem complete_ok {around : Surroundings} {runner : Runner} {stmt : Stmt}
    {before after : Machine} {outcome : Outcome}
    (result : complete around runner stmt before = .ok outcome after) :
    ∃ middle count, runner.exec stmt before = .ok outcome middle ∧
      Arena.collect around.upkeep [outcome.value] middle.arena = .ok count after.arena := by
  simp only [complete, tidy, bind, EStateM.bind, Run.onArena] at result
  cases done : runner.exec stmt before with
  | error failure middle => simp [done] at result
  | ok left middle =>
      simp only [done] at result
      cases tidied : Arena.collect around.upkeep [left.value] middle.arena with
      | error fault arena => simp [tidied] at result
      | ok count arena =>
          simp only [tidied] at result
          cases result
          exact ⟨middle, count, rfl, tidied⟩

end Evaluation

namespace Program

open Evaluation

/-- A run of a program from a machine comes to a machine right behind a statement that completed
with an outcome. -/
inductive Comes (around : Surroundings) (runner : Runner) :
    Machine → Program → Outcome → Machine → Prop where
  | first {before after : Machine} {stmt : Stmt} {rest : Program} {outcome : Outcome} :
      complete around runner stmt before = .ok outcome after →
        Comes around runner before (stmt :: rest) outcome after
  | later {before middle after : Machine} {stmt : Stmt} {rest : Program} {outcome last : Outcome} :
      complete around runner stmt before = .ok outcome middle → outcome.returned = false →
        Comes around runner middle rest last after →
          Comes around runner before (stmt :: rest) last after

section

variable {around : Surroundings} {runner : Runner}

/-- A run that ends well ends behind the last statement that it came to. -/
theorem comes_of_runFrom {program : Program} {last value : Value} {before after : Machine}
    (some : program ≠ []) (result : runFrom around runner last program before = .ok value after) :
    ∃ outcome, Comes around runner before program outcome after ∧ outcome.value = value := by
  induction program generalizing last before with
  | nil => exact absurd rfl some
  | cons stmt rest ih =>
      rw [runFrom_cons] at result
      simp only [bind, EStateM.bind] at result
      cases completed : complete around runner stmt before with
      | error failure middle => simp [completed] at result
      | ok outcome middle =>
          simp only [completed] at result
          by_cases returned : outcome.returned = true
          · rw [if_pos returned] at result
            cases result
            exact ⟨outcome, .first completed, rfl⟩
          · rw [if_neg returned] at result
            cases rest with
            | nil =>
                cases result
                exact ⟨outcome, .first completed, rfl⟩
            | cons next others =>
                obtain ⟨final, comes, same⟩ := ih (List.cons_ne_nil _ _) result
                exact ⟨final, .later completed (by simpa using returned) comes, same⟩

/-- What every completed statement keeps holds wherever a run comes to. -/
theorem Comes.induction {P : Machine → Prop} {Q : Outcome → Machine → Prop} {program : Program}
    {before after : Machine} {last : Outcome}
    (step : ∀ stmt before outcome after, P before →
      complete around runner stmt before = .ok outcome after → P after ∧ Q outcome after)
    (comes : Comes around runner before program last after) (start : P before) : Q last after := by
  induction comes with
  | first completed => exact (step _ _ _ _ start completed).2
  | later completed _ _ ih => exact ih (step _ _ _ _ start completed).1

end

end Program

end Parlance
