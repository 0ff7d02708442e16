import Parlance.Proofs.Running.Containment
import Parlance.Proofs.Session.Collection
import Parlance.Proofs.Session.Composition
import Parlance.Proofs.Session.Origin

/-!
What goes wrong in hosts. A dispatch ends with a value, or with a fault that names the request,
exactly if the handler gives no integer past the range of numbers; and a lenient execution whose
handlers' answers all fit fails for reasons of its own, unless it runs without bound. Main
statement: `Session.host_failures_contained_iff`.
-/

namespace Parlance.Session

section

variable {session : Session} {source : String} {sourceName : Option String} {failure : Failure}

theorem own_of_read (refused : session.read source sourceName = .error failure) :
    failure.cause.Own := by
  obtain ⟨cause, place, named, rfl, ⟨c, rfl⟩ | ⟨flaw, rfl⟩⟩ := read_refused refused
  · trivial
  · trivial

/-- A lenient run fails only as the modules permit. -/
theorem Preserved.run_permits (preserved : Preserved session) {around : Surroundings}
    (same : around.modules = session.modules) (lenient : around.settings.strict = false)
    {depth : Nat} {program : Program}
    (failed : (session.runIn around depth program).result = .error failure) :
    session.modules.Permits failure := by
  obtain ⟨known, intact⟩ := preserved.intact
  have links := Bond.permitted_links lenient (same ▸ preserved.genuine)
  exact same ▸ (runIn_intact intact links (.unbounded rfl) depth program).2 failure failed

theorem Preserved.execution_permits (preserved : Preserved session)
    (lenient : session.settings.strict = false) {depth rounds : Nat}
    (failed : (session.executeWithin depth rounds source sourceName).result = .error failure) :
    session.modules.Permits failure := by
  simp only [executeWithin, parse] at failed
  cases result : session.read source sourceName with
  | error other =>
      rw [result] at failed
      cases failed
      exact .own (own_of_read result)
  | ok read =>
      rw [result] at failed
      have preserved : Preserved { session with recoveries := read.2 } :=
        ⟨preserved.genuine, preserved.intact⟩
      exact preserved.run_permits rfl lenient failed

end

/-- Host failures are contained exactly where the answers fit: of a dispatch comes a value, the
fault that there is no handler of the name, or the fault that the handler failed, if and only if no
answer that the handler gives has an integer past the range of numbers. So whatever was done in a
session before, with handlers that make up no scope, a lenient execution fails for reasons of its
own, or without bound, or else there is a handler with an answer that does not fit. -/
theorem host_failures_contained_iff {ε σ : Type} (registry : Registry)
    (context : Script.Context ε σ) {reports : Dispatch.Reports ε σ}
    (distinct : Function.Injective reports.fault) (request : Request) (state : σ)
    {settings : Settings} (lenient : settings.strict = false) {deeds : List Deed}
    (genuine : ∀ deed ∈ deeds, deed.Genuine) (depth rounds : Nat) (source : String)
    (sourceName : Option String) :
    let result := registry.dispatch context reports request state
    let session := afterAll settings deeds
    (Dispatch.Contained reports request result ↔
      ∀ answer, registry.Answers context reports request state answer → answer.Fits) ∧
    ((∃ name after, result = .error (reports.fault (.unknownModule name)) after) ↔
      Registry.key request.module ∉ registry.names) ∧
    ∀ failure, (session.executeWithin depth rounds source sourceName).result = .error failure →
      failure.cause.Own ∨ failure.cause = .unbounded ∨
        failure.cause = .dispatch .answerTooLarge ∧ ¬ session.modules.Fits := by
  intro result session
  refine ⟨registry.dispatch_contained_iff distinct context request state,
    registry.dispatch_unknown_iff distinct context request state, fun failure failed => ?_⟩
  have strict : session.settings.strict = false :=
    (congrArg Settings.strict (settings_afterAll settings deeds)).trans lenient
  cases (preserved_afterAll settings genuine).execution_permits strict failed with
  | own cause => exact Or.inl cause
  | unbounded cause => exact Or.inr (Or.inl cause)
  | escaped cause large => exact Or.inr (Or.inr ⟨cause, large⟩)

theorem integer_genuine (n : Int) : (Handler.constant (.integer n)).Genuine := by
  intro request held id member
  cases made : (Host.integer n).toValue with
  | error _ => simp [Capturing.captured, made] at member
  | ok value =>
      simp only [Host.toValue] at made
      split at made <;> cases made
      simp [Capturing.captured, Host.toValue, Value.captured, *] at member

/-- Of two modules one fails, and the other gives an integer. -/
def frail (n : Int) : List Deed :=
  [.register "stop" (some (.failing "no")), .register "huge" (some (.constant (.integer n)))]

theorem frail_genuine (n : Int) : ∀ deed ∈ frail n, deed.Genuine := by
  rw [frail, List.forall_mem_cons, List.forall_mem_singleton]
  constructor
  · rintro given ⟨⟩ request held
    trivial
  · rintro given ⟨⟩
    exact integer_genuine n

theorem frail_found (n : Int) : (afterAll .standard (frail n)).modules.find? "Huge" =
    some ⟨1, .constant (.integer n)⟩ := by
  rfl

/-- The failure of the one is contained, the answer of the other is not. -/
theorem frail_failures_contained_iff :
    let session := afterAll .standard (frail (10 ^ 400))
    let context : Script.Context Failure Machine :=
      ⟨Run.emit, Evaluation.lookup, Runner.exhausted.call⟩
    let reports : Dispatch.Reports Failure Machine :=
      ⟨fun fault => .of (.dispatch fault), Failure.text,
        fun serial request => Run.note (.served serial request), Failure.caught?⟩
    let request : Request := ⟨"Huge", "f", []⟩
    Function.Injective reports.fault ∧ Settings.standard.strict = false ∧
      (∀ deed ∈ frail (10 ^ 400), deed.Genuine) ∧
      ¬ Dispatch.Contained reports request
        (session.modules.dispatch context reports request (.ofArena .empty)) ∧
      ∃ failure, (session.execute "call stop.f()" none).result = .error failure ∧
        (failure.cause.Own ∨ failure.cause = .unbounded ∨
          failure.cause = .dispatch .answerTooLarge ∧ ¬ session.modules.Fits) := by
  intro session context reports request
  have distinct : Function.Injective reports.fault := by
    intro fault fault' same
    exact Cause.dispatch.inj (Failure.mk.inj same).1
  have given : session.modules.Answers context reports request (.ofArena .empty)
      (.integer (10 ^ 400)) :=
    ⟨_, _, frail_found (10 ^ 400), rfl⟩
  have large : ¬ (Host.integer (10 ^ 400)).Fits := by decide +kernel
  -- the second handler fails in the usual way, which a session reports
  have ran : (session.execute "call stop.f()" none).failure? =
      some ⟨.dispatch (.failed "stop" "f" "no"), none⟩ := by decide +kernel
  have failed := result_of_failure? ran
  obtain ⟨contained, _, executions⟩ := host_failures_contained_iff session.modules context
    distinct request (.ofArena .empty) (rfl : Settings.standard.strict = false)
    (frail_genuine (10 ^ 400)) depth rounds "call stop.f()" none
  exact ⟨distinct, rfl, frail_genuine _, fun contains => large (contained.mp contains _ given),
    _, failed, executions _ failed⟩

/-- From a lenient execution comes a failure that is not one of its own. -/
theorem large_answer_escapes :
    Settings.standard.strict = false ∧ (∀ deed ∈ frail (10 ^ 400), deed.Genuine) ∧
      ∃ failure, ((afterAll .standard (frail (10 ^ 400))).execute "call huge.f()" none).result =
          .error failure ∧
        failure.cause = .dispatch .answerTooLarge ∧ ¬ failure.cause.Own := by
  have ran : ((afterAll .standard (frail (10 ^ 400))).execute "call huge.f()" none).failure? =
      some ⟨.dispatch .answerTooLarge, none⟩ := by decide +kernel
  exact ⟨rfl, frail_genuine _, _, result_of_failure? ran, rfl, id⟩

end Parlance.Session
