import Parlance.Proofs.Module.Answer
import Parlance.Proofs.Running.Genuine

/-!
The failures of runs. Where handlers make up no scope, a run without strict settings fails for a
reason of its own, or because its depth ends; or because a handler answers with an integer past the
range of numbers, which one whose answers all fit never does. Where there are no modules a strict
run has no other failures either. Main statements: `Bond.permitted_links` and `Bond.owned_links`.
-/

namespace Parlance

/-- A reason that is given on purpose. -/
def Cause.Own : Cause → Prop
  | .unbounded | .arena _ | .dispatch .answerTooLarge => False
  | _ => True

theorem Cause.Lapse.own {cause : Cause} (lapse : cause.Lapse) : cause.Own := by
  cases cause with
  | unresolvedName _ | unresolvedCallee _ | divisionByZero _ => trivial
  | unexpectedCharacter _ | flaw _ | stepLimit _ | dispatch _ | unbounded | arena _ =>
      exact lapse.elim

/-- A failure for a reason of its own, or one without bound. -/
def Failure.Owned (failure : Failure) : Prop :=
  failure.cause.Own ∨ failure.cause = .unbounded

/-! ### Handlers whose answers fit -/

def Script.Fits : Script → Prop
  | .give answer => answer.Fits
  | .fail _ => True
  | .emit _ next => next.Fits
  | .lookup _ next => ∀ value, (next value).Fits
  | .invoke _ _ next => ∀ value, (next value).Fits
  | .attempt _ _ next otherwise =>
      (∀ value, (next value).Fits) ∧ ∀ message, (otherwise message).Fits

def Registry.Fits (registry : Registry) : Prop :=
  ∀ entry ∈ registry.handlers, ∀ request, (entry.2.handler request).Fits

section

variable {ε σ : Type} {context : Script.Context ε σ} {caught? : ε → Option String}

theorem Script.Fits.of_run {script : Script} (fits : script.Fits) {state after : σ} {answer : Host}
    (given : script.run context caught? state = .ok (.ok answer) after) : answer.Fits := by
  -- each step passes the answer on; a call that is given up leads to one of two scripts, and both
  -- fit
  induction script generalizing state with
  | give _ =>
      cases given
      exact fits
  | fail message => cases given
  | emit line next ih =>
      simp only [run, bind, EStateM.bind] at given
      split at given
      · exact ih fits given
      · cases given
  | lookup name next ih =>
      simp only [run, bind, EStateM.bind] at given
      split at given
      · exact ih _ (fits _) given
      · cases given
  | invoke function arguments next ih =>
      simp only [run, bind, EStateM.bind] at given
      split at given
      · exact ih _ (fits _) given
      · cases given
  | attempt function arguments next otherwise ih ih' =>
      simp only [run, rescue] at given
      split at given
      · exact ih _ (fits.1 _) given
      · split at given
        · exact ih' _ (fits.2 _) given
        · cases given

theorem Registry.Fits.answers {registry : Registry} (fits : registry.Fits)
    {reports : Dispatch.Reports ε σ} {request : Request} {state : σ} {answer : Host}
    (given : registry.Answers context reports request state answer) : answer.Fits := by
  obtain ⟨entry, after, found, served⟩ := given
  have script := fits _ (Table.mem_of_get? found) request
  simp only [Registered.serve, bind, EStateM.bind] at served
  split at served
  · exact script.of_run served
  · cases served

end

/-- A run of programs that call these modules may fail like this. -/
inductive Registry.Permits (registry : Registry) (failure : Failure) : Prop
  | own (cause : failure.cause.Own)
  | unbounded (cause : failure.cause = .unbounded)
  | escaped (cause : failure.cause = .dispatch .answerTooLarge) (large : ¬ registry.Fits)

namespace Evaluation

variable {around : Surroundings} {inner : Runner} {request : Request} {machine after : Machine}
  {failure : Failure}

theorem dispatch_permits (failed : dispatch around inner request machine = .error failure after) :
    around.modules.Permits failure := by
  have ends := around.modules.dispatch_cases ⟨Run.emit, lookup, inner.call⟩
    ⟨fun fault => .of (.dispatch fault), Failure.text,
      fun serial request => Run.note (.served serial request), Failure.caught?⟩ request machine
  rw [show Registry.dispatch _ _ _ _ _ = _ from failed] at ends
  rcases ends with ⟨contained, _⟩ | ⟨⟨_, escaped⟩, answer, given, large⟩
  · cases contained with
    | unknown | failed => exact .own trivial
  · cases escaped
    exact .escaped rfl fun fits => large (fits.answers given)

end Evaluation

namespace Bond

open Evaluation

section

variable {α : Type} [Capturing α] {known : Set Nat} {stack : List Nat} {left right : Run α}
  {shared other : Failure → Prop}

theorem intact_meets_sharing {left right : EStateM.Result Failure Machine α}
    (meets : (intact shared fun _ => False).Meets known stack left right)
    (fails : ∀ failure after, left = .error failure after → other failure) :
    (intact other fun _ => False).Meets known stack left right := by
  cases left with
  | ok _ _ => cases right <;> exact meets
  | error failure after =>
      cases right with
      | ok _ _ => exact meets
      | error _ _ => exact ⟨meets.1, fails failure after rfl, meets.2.2⟩

theorem intact_agree_sharing (agree : (intact shared fun _ => False).Agree known stack left right)
    (fails : ∀ machine failure after, left machine = .error failure after → other failure) :
    (intact other fun _ => False).Agree known stack left right :=
  intact_agree fun machine intact =>
    Or.inr (intact_meets_sharing (intact_meets agree intact) (fails machine))

end

/-- A lenient run is kept intact and fails as the modules permit. -/
theorem permitted_links {around : Surroundings} (lenient : around.settings.strict = false)
    (genuine : around.modules.Genuine) :
    (intact around.modules.Permits fun _ => False).comparison.Links around around := by
  refine intact_links (fun _ _ _ => .own trivial) around.rounds ?_ ?_
  · intro known stack cause place value held _
    rw [lenient]
    exact agree_pure held
  · intro inner inner' parts known stack request _ held
    have kept : Bond.kept.comparison.Pairs inner inner' :=
      { eval := fun known stack expr =>
          intact_agree_sharing (parts.eval known stack expr) fun _ _ _ _ => trivial
        exec := fun known stack stmt =>
          intact_agree_sharing (parts.exec known stack stmt) fun _ _ _ _ => trivial
        call := fun known stack function arguments held held' =>
          intact_agree_sharing (parts.call known stack function arguments held held')
            fun _ _ _ _ => trivial }
    exact intact_agree_sharing (kept_dispatch genuine kept known stack request held)
      fun _ _ _ failed => dispatch_permits failed

/-- Without modules a run is kept intact, strict or not, and fails for a reason of its own or
without bound. -/
theorem owned_links {around : Surroundings} (unhosted : ∀ name, around.modules.has name = false) :
    (intact Failure.Owned fun _ => False).comparison.Links around around := by
  refine intact_links (fun _ _ _ => Or.inl trivial) around.rounds ?_ ?_
  · intro known stack cause place value held lapse
    split
    · exact intact_agree fun machine intact =>
        Or.inr ⟨rfl, Or.inl lapse.own, known, subset_rfl, rfl, intact⟩
    · exact agree_pure held
  · intro inner inner' parts known stack request hosted
    simp [unhosted] at hosted

end Bond

end Parlance
