import Parlance.Module.Registry
import Parlance.Proofs.Binary64.Range

/-!
The ends of a dispatch. Whatever a handler does, the dispatch ends with a value or with a fault that
names the request, unless the handler answers with an integer past the range of numbers. Main
statement: `Registry.dispatch_contained_iff`.
-/

namespace Parlance

/-! ### Going on behind a call -/

namespace Script

variable {ε σ α β : Type} {caught? : ε → Option String} {run : EStateM ε σ α}
  {next : α → EStateM ε σ β} {otherwise : String → EStateM ε σ β} {state after : σ}

theorem rescue_ok {a : α} (result : run state = .ok a after) :
    rescue caught? run next otherwise state = next a after := by
  simp only [rescue, result]

theorem rescue_caught {error : ε} {message : String} (result : run state = .error error after)
    (caught : caught? error = some message) :
    rescue caught? run next otherwise state = otherwise message after := by
  simp only [rescue, result, caught]

theorem rescue_uncaught {error : ε} (result : run state = .error error after)
    (uncaught : caught? error = none) :
    rescue caught? run next otherwise state = .error error after := by
  simp only [rescue, result, uncaught]

end Script

namespace Host

/-! ### Integers in host data -/

mutual

def integers : Host → List Int
  | .integer n => [n]
  | .list items => allIntegers items
  | .dict entries => entryIntegers entries
  | .null | .boolean _ | .float _ | .text _ | .value _ => []

def allIntegers : List Host → List Int
  | [] => []
  | item :: rest => item.integers ++ allIntegers rest

def entryIntegers : List (String × Host) → List Int
  | [] => []
  | (_, item) :: rest => item.integers ++ entryIntegers rest

end

/-- Every integer, however deep, has a nearest number. -/
def Fits (host : Host) : Prop := ∀ n ∈ host.integers, n.natAbs < Binary64.bound

instance (host : Host) : Decidable host.Fits :=
  inferInstanceAs (Decidable (∀ n ∈ host.integers, n.natAbs < Binary64.bound))

theorem both_ok_iff {α β γ : Type} {first : Except TooLarge α} {second : Except TooLarge β}
    (f : α → β → γ) :
    (∃ c, (do let a ← first; let b ← second; pure (f a b)) = Except.ok c) ↔
      (∃ a, first = .ok a) ∧ ∃ b, second = .ok b := by
  cases first <;> cases second <;> simp [bind, Except.bind, pure, Except.pure]

theorem map_ok_iff {α β : Type} {first : Except TooLarge α} (f : α → β) :
    (∃ b, first.map f = .ok b) ↔ ∃ a, first = .ok a := by
  cases first <;> simp [Except.map]

mutual

/-- Host data stands for a value exactly if its integers are in range. -/
theorem toValue_ok_iff (host : Host) : (∃ value, host.toValue = .ok value) ↔ host.Fits := by
  cases host with
  | integer n =>
      have range := Binary64.ofInt_isFinite_iff n
      by_cases finite : (Binary64.ofInt n).isFinite = true
      · simp [toValue, Fits, integers, finite, range.mp finite]
      · simp [toValue, Fits, integers, finite, mt range.mpr finite]
  | list items => rw [toValue, map_ok_iff, toValues_ok_iff, Fits, integers]
  | dict entries => rw [toValue, map_ok_iff, toEntries_ok_iff, Fits, integers]
  | null | boolean | float | text | value => simp [toValue, Fits, integers]

theorem toValues_ok_iff (items : List Host) :
    (∃ values, toValues items = .ok values) ↔
      ∀ n ∈ allIntegers items, n.natAbs < Binary64.bound := by
  cases items with
  | nil => simp [toValues, allIntegers]
  | cons item rest =>
      rw [toValues, both_ok_iff, item.toValue_ok_iff, toValues_ok_iff rest, allIntegers,
        List.forall_mem_append, Fits]

theorem toEntries_ok_iff (entries : List (String × Host)) :
    (∃ values, toEntries entries = .ok values) ↔
      ∀ n ∈ entryIntegers entries, n.natAbs < Binary64.bound := by
  match entries with
  | [] => simp [toEntries, entryIntegers]
  | (key, item) :: rest =>
      rw [toEntries, both_ok_iff, item.toValue_ok_iff, toEntries_ok_iff rest, entryIntegers,
        List.forall_mem_append, Fits]

end

end Host

/-! ### Dispatch -/

section

variable {ε σ : Type} {registry : Registry} {context : Script.Context ε σ}
  {reports : Dispatch.Reports ε σ} {request : Request} {state : σ}

def Registered.serve (entry : Registered) (context : Script.Context ε σ)
    (reports : Dispatch.Reports ε σ) (request : Request) : EStateM ε σ (Except String Host) := do
  reports.served entry.serial request
  (entry.handler request).run context reports.caught?

/-- The result of a dispatch is a value or a fault that names what was asked for. -/
inductive Dispatch.Contained (reports : Dispatch.Reports ε σ) (request : Request) :
    EStateM.Result ε σ Value → Prop
  | value (value : Value) (after : σ) : Contained reports request (.ok value after)
  | unknown (after : σ) :
      Contained reports request (.error (reports.fault (.unknownModule request.module)) after)
  | failed (reason : String) (after : σ) :
      Contained reports request
        (.error (reports.fault (.failed request.module request.method reason)) after)

/-- What becomes of the end of a handler. -/
theorem Registry.dispatch_served {entry : Registered}
    (found : registry.find? request.module = some entry) :
    registry.dispatch context reports request state =
      match entry.serve context reports request state with
      | .error error after =>
          .error (reports.fault (.failed request.module request.method (reports.explain error)))
            after
      | .ok (.error reason) after =>
          .error (reports.fault (.failed request.module request.method reason)) after
      | .ok (.ok answer) after =>
          match answer.toValue with
          | .ok value => .ok value after
          | .error _ => .error (reports.fault .answerTooLarge) after := by
  simp only [dispatch, found]
  rfl

theorem Registry.find?_none_iff (registry : Registry) (name : String) :
    registry.find? name = none ↔ Registry.key name ∉ registry.names := by
  rw [find?, names, Table.mem_keys_iff, Table.has, Option.not_isSome_iff_eq_none]

theorem Registry.dispatch_unknown (unknown : registry.find? request.module = none) :
    registry.dispatch context reports request state =
      .error (reports.fault (.unknownModule request.module)) state := by
  simp only [dispatch, unknown]
  rfl

def Registry.Answers (registry : Registry) (context : Script.Context ε σ)
    (reports : Dispatch.Reports ε σ) (request : Request) (state : σ) (answer : Host) : Prop :=
  ∃ entry after, registry.find? request.module = some entry ∧
    entry.serve context reports request state = .ok (.ok answer) after

/-- A fault escapes with an answer that does not fit, and else none does. -/
theorem Registry.dispatch_cases (registry : Registry) (context : Script.Context ε σ)
    (reports : Dispatch.Reports ε σ) (request : Request) (state : σ) :
    Dispatch.Contained reports request (registry.dispatch context reports request state) ∧
        (∀ answer, registry.Answers context reports request state answer → answer.Fits) ∨
      (∃ after, registry.dispatch context reports request state =
          .error (reports.fault .answerTooLarge) after) ∧
        ∃ answer, registry.Answers context reports request state answer ∧ ¬ answer.Fits := by
  cases found : registry.find? request.module with
  | none =>
      rw [dispatch_unknown found]
      refine Or.inl ⟨.unknown state, ?_⟩
      rintro answer ⟨entry, _, found', _⟩
      cases found.symm.trans found'
  | some entry =>
      -- the handler is run once, so it has one answer at most
      have only : ∀ answer, registry.Answers context reports request state answer →
          ∃ after, entry.serve context reports request state = .ok (.ok answer) after := by
        rintro answer ⟨entry', after, found', served⟩
        cases found.symm.trans found'
        exact ⟨after, served⟩
      rw [dispatch_served found]
      cases served : entry.serve context reports request state with
      | error error after =>
          refine Or.inl ⟨.failed _ after, fun answer given => ?_⟩
          cases served.symm.trans (only answer given).choose_spec
      | ok result after =>
          cases result with
          | error reason =>
              refine Or.inl ⟨.failed reason after, fun answer given => ?_⟩
              cases served.symm.trans (only answer given).choose_spec
          | ok answer =>
              dsimp only
              cases made : answer.toValue with
              | ok value =>
                  refine Or.inl ⟨.value value after, fun answer' given => ?_⟩
                  cases served.symm.trans (only answer' given).choose_spec
                  exact answer.toValue_ok_iff.mp ⟨value, made⟩
              | error _ =>
                  refine Or.inr ⟨⟨after, rfl⟩, answer, ⟨entry, after, found, served⟩, ?_⟩
                  intro fits
                  cases made.symm.trans (answer.toValue_ok_iff.mpr fits).choose_spec

/-- Nothing but a value or a fault that names the request comes of a dispatch exactly if the answer
of the handler, if it gives one, fits. -/
theorem Registry.dispatch_contained_iff (distinct : Function.Injective reports.fault)
    (registry : Registry) (context : Script.Context ε σ) (request : Request) (state : σ) :
    Dispatch.Contained reports request (registry.dispatch context reports request state) ↔
      ∀ answer, registry.Answers context reports request state answer → answer.Fits := by
  rcases registry.dispatch_cases context reports request state with
    ⟨contained, fits⟩ | ⟨⟨after, escaped⟩, answer, given, large⟩
  · exact iff_of_true contained fits
  · refine iff_of_false (fun contained => ?_) fun fits => large (fits answer given)
    rw [escaped] at contained
    generalize same : EStateM.Result.error (reports.fault .answerTooLarge) after = ends at contained
    cases contained with
    | value => cases same
    | unknown | failed => cases distinct (EStateM.Result.error.inj same).1

theorem Registry.dispatch_unknown_iff (distinct : Function.Injective reports.fault)
    (registry : Registry) (context : Script.Context ε σ) (request : Request) (state : σ) :
    (∃ name after, registry.dispatch context reports request state =
        .error (reports.fault (.unknownModule name)) after) ↔
      Registry.key request.module ∉ registry.names := by
  rw [← find?_none_iff]
  constructor
  · rintro ⟨name, after, unknown⟩
    cases found : registry.find? request.module with
    | none => rfl
    | some entry =>
        rw [dispatch_served found] at unknown
        split at unknown
        · cases distinct (EStateM.Result.error.inj unknown).1
        · cases distinct (EStateM.Result.error.inj unknown).1
        · split at unknown
          · cases unknown
          · cases distinct (EStateM.Result.error.inj unknown).1
  · exact fun unknown => ⟨request.module, state, dispatch_unknown unknown⟩

end

end Parlance
