import Parlance.Proofs.Running.Dispatch

/-!
The failures of runs that lie in the source. Whatever else a run fails with, such a failure names a
place in what is running, and quotes that. Main statement: `Program.run_quotes`.
-/

namespace Parlance

/-- Of the runs of two evaluators only the failures of the left ones are looked at. -/
def Comparison.failing (allowed : Failure → Prop) : Comparison where
  Agree _ _ left _ := ∀ machine failure after, left machine = .error failure after → allowed failure
  value _ _ _ _ failed := nomatch failed
  andThen first later machine failure after failed := by
    simp only [bind, EStateM.bind] at failed
    split at failed
    · rename_i a middle result
      exact later Set.univ (Set.subset_univ _) a (held_univ a) middle failure after failed
    · rename_i other middle result
      cases failed
      exact first machine failure after result

/-- Reasons that lie in the source: a character, a token or a node. -/
def Cause.InSource : Cause → Prop
  | .unexpectedCharacter _ | .flaw _ => True
  | .unresolvedName _ | .unresolvedCallee _ | .divisionByZero _ => True
  | .stepLimit _ | .dispatch _ | .unbounded | .arena _ => False

/-- A failure that lies in the source quotes what is running. -/
def Failure.Quotes (around : Surroundings) (failure : Failure) : Prop :=
  failure.cause.InSource → ∃ place,
    failure.location = some (.ofPlace place around.source around.sourceName)

theorem Failure.quotes_of {around : Surroundings} {cause : Cause} (other : ¬ cause.InSource) :
    (Failure.of cause).Quotes around := fun inSource => absurd inSource other

namespace Evaluation

variable {around : Surroundings}

theorem onArena_quotes {α : Type} {action : Arena.Action α} {machine after : Machine}
    {failure : Failure} (failed : Run.onArena action machine = .error failure after) :
    failure.Quotes around := by
  simp only [Run.onArena] at failed
  split at failed <;> cases failed
  exact Failure.quotes_of id

theorem inScope_quotes {α : Type} {upkeep : Arena.Upkeep} {enter : Arena → Arena} {body : Run α}
    (quotes : ∀ machine failure after, body machine = .error failure after →
      failure.Quotes around) {machine after : Machine} {failure : Failure}
    (failed : Run.inScope upkeep enter body machine = .error failure after) :
    failure.Quotes around := by
  simp only [Run.inScope] at failed
  split at failed
  · split at failed <;> cases failed
    rename_i left
    exact onArena_quotes left
  · rename_i result
    split at failed <;> cases failed
    · exact quotes _ _ _ result
    · rename_i left
      exact onArena_quotes left

theorem quoting_links (around : Surroundings) :
    (Comparison.failing (Failure.Quotes around)).Links around around where
  settings := rfl
  hosts _ := rfl
  visit known stack kind place machine failure after failed := by
    rcases Run.visit_cases around.budget kind place machine with
      ⟨limit, _, _, stopped⟩ | ⟨_, went⟩
    · cases stopped.symm.trans failed
      exact fun inSource => inSource.elim
    · cases went.symm.trans failed
  emit known stack line machine failure after failed := nomatch failed
  resolve known stack name machine failure after failed := by
    simp only [Run.resolve] at failed
    split at failed <;> cases failed
    exact Failure.quotes_of id
  declare known stack name value _ machine failure after failed := onArena_quotes failed
  assign known stack name value _ machine failure after failed := onArena_quotes failed
  capture known stack machine failure after failed := by
    simp only [Run.capture] at failed
    split at failed <;> cases failed
  -- only here the failure lies in the source, and it is made at a node of what is running
  lapse known stack cause place value _ _ machine failure after failed := by
    split at failed
    · cases failed
      exact fun _ => ⟨place, rfl⟩
    · cases failed
  dispatch inner inner' _ known stack request _ _ machine failure after failed := by
    cases found : around.modules.find? request.module with
    | none =>
        rw [dispatch_unknown found] at failed
        cases failed
        exact Failure.quotes_of id
    | some entry =>
        rw [dispatch_found found, answer.eq_def] at failed
        split at failed
        · cases failed
          exact Failure.quotes_of id
        · cases failed
          exact Failure.quotes_of id
        · split at failed <;> cases failed
          exact Failure.quotes_of id
  inFresh known stack body body' quotes machine failure after failed := by
    refine inScope_quotes (fun machine failure after failed => ?_) failed
    simp only [bind, EStateM.bind] at failed
    split at failed
    · cases failed
    · rename_i result
      cases failed
      exact quotes 0 _ _ _ result
  inCaptured known stack closure body body' _ quotes machine failure after failed := by
    cases scope : closure.scope with
    | none =>
        rw [inCaptured_none scope] at failed
        exact quotes [] machine failure after failed
    | some id =>
        by_cases live : machine.arena.isLive id = true
        · rw [inCaptured_entered scope live] at failed
          exact inScope_quotes (quotes []) failed
        · rw [inCaptured_missed scope live] at failed
          exact quotes [] _ failure after failed
  tidy known value _ machine failure after failed := by
    simp only [tidy, bind, EStateM.bind] at failed
    split at failed
    · cases failed
    · rename_i result
      cases failed
      exact onArena_quotes result

theorem quoting_bounds (around : Surroundings) (bound : Nat) :
    (Comparison.failing (Failure.Quotes around)).Bounds bound bound := by
  refine Or.inl ⟨rfl, fun α _ known stack machine failure after failed => ?_⟩
  cases failed
  exact Failure.quotes_of id

end Evaluation

theorem Program.run_quotes {around : Surroundings} {depth : Nat} {program : Program}
    {machine after : Machine} {failure : Failure}
    (failed : program.run around depth machine = .error failure after) :
    failure.Quotes around :=
  Comparison.run_agree (Evaluation.quoting_links around) (Evaluation.quoting_bounds around _)
    program depth depth (Evaluation.quoting_bounds around depth) ∅ machine failure after failed

end Parlance
