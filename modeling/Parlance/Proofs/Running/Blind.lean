import Mathlib.Data.Fintype.EquivFin
import Mathlib.Logic.Equiv.Basic
import Parlance.Proofs.Running.Genuine

/-!
Handlers that do not look at the numbers of scopes make none up. Such a handler does the same when
the global scope changes numbers with one that it has not seen, so it hands on no function that
captured the global scope unless it is handed one.
-/

namespace Parlance

/-- The global scope and another one change numbers. -/
def Relabelling.exchange (id : Nat) : Relabelling := ⟨Equiv.swap Arena.globalId id, fun p => p⟩

section

variable {id : Nat}

/-- An exchange with a scope that a value does not capture leaves the value as it is, unless it
captures the global one. -/
theorem Value.relabel_exchange {value : Value} (held : Held Arena.locals value)
    (unseen : id ∉ value.captured) : value.relabel (.exchange id) = value := by
  refine value.relabel_of_fixed fun other member => ?_
  exact Equiv.swap_apply_of_ne_of_ne (held other member) fun same => unseen (same ▸ member)

/-- What the exchange with an unseen scope leaves as it is does not capture the global scope. -/
theorem locals_of_exchanged {captured : List Nat} (unseen : id ∉ captured)
    (same : captured.map (Relabelling.exchange id).scope = captured) :
    ∀ other ∈ captured, other ∈ Arena.locals := by
  rintro other member rfl
  have image := List.mem_map_of_mem (f := (Relabelling.exchange id).scope) member
  rw [same] at image
  exact unseen (by simpa [Relabelling.exchange] using image)

end

/-- There is a scope that is not among finitely many. -/
theorem exists_unseen (seen : Finset Nat) (captured : List Nat) :
    ∃ id, id ∉ seen ∧ id ∉ captured := by
  obtain ⟨id, unseen⟩ := Infinite.exists_notMem_finset (seen ∪ captured.toFinset)
  simp only [Finset.mem_union, List.mem_toFinset, not_or] at unseen
  exact ⟨id, unseen⟩

section

variable {seen : Finset Nat}

theorem Value.held_of_exchanged {value : Value}
    (same : ∀ id ∉ seen, value.relabel (.exchange id) = value) : Held Arena.locals value := by
  obtain ⟨id, unseen, uncaptured⟩ := exists_unseen seen value.captured
  have captured := value.captured_relabel (.exchange id)
  rw [same id unseen] at captured
  exact locals_of_exchanged uncaptured captured.symm

theorem Value.heldItems_of_exchanged {items : List Value}
    (same : ∀ id ∉ seen, Value.relabelItems (.exchange id) items = items) :
    Held Arena.locals items := by
  intro id member
  have listed : Held Arena.locals (Value.list items) :=
    Value.held_of_exchanged fun other unseen => by rw [Value.relabel, same other unseen]
  exact listed id (by simpa [Capturing.captured, Value.captured] using member)

theorem Host.held_of_exchanged {answer : Host}
    (same : ∀ id ∉ seen, answer.relabel (.exchange id) = answer) :
    Held Arena.locals (Except.ok answer : Except String Host) := by
  intro id member
  cases made : answer.toValue with
  | error _ => simp [Capturing.captured, made] at member
  | ok value =>
      have unmoved : ∀ id ∉ seen, value.relabel (.exchange id) = value := by
        intro id unseen
        have values := answer.toValue_relabel (.exchange id)
        rw [same id unseen, made] at values
        exact (Except.ok.inj values).symm
      exact Value.held_of_exchanged unmoved id
        (by simpa only [Capturing.captured, made] using member)

/-- What a script does with a value, it does the same after an exchange with a scope that the value
did not capture either. -/
theorem Script.like_with {next : Value → Script} {value : Value}
    (later : ∀ id ∉ seen, ∀ value,
      (next value).Like (.exchange id) (next (value.relabel (.exchange id))))
    (given : Held Arena.locals value) :
    ∀ id ∉ seen ∪ value.captured.toFinset, (next value).Like (.exchange id) (next value) := by
  intro id unseen
  simp only [Finset.mem_union, List.mem_toFinset, not_or] at unseen
  have same := later id unseen.1 value
  rwa [Value.relabel_exchange given unseen.2] at same

end

/-- A script that does the same after any exchange with an unseen scope hands on no function of
the global scope. -/
theorem Script.within_locals {script : Script} (seen : Finset Nat)
    (like : ∀ id ∉ seen, script.Like (.exchange id) script) : script.Within Arena.locals := by
  -- on the script; the scopes of what it is given on the way count as seen from there on
  induction script generalizing seen with
  | give answer =>
      have same : ∀ id ∉ seen, answer.relabel (.exchange id) = answer := by
        intro id unseen
        have given := like id unseen
        simp only [Like, give.injEq] at given
        exact given.symm
      exact Host.held_of_exchanged same
  | fail message => trivial
  | emit line next ih =>
      refine ih seen fun id unseen => ?_
      obtain ⟨next', same, later⟩ := like id unseen
      cases same
      exact later
  | lookup name next ih =>
      intro value given
      have later : ∀ id ∉ seen, ∀ value,
          (next value).Like (.exchange id) (next (value.relabel (.exchange id))) := by
        intro id unseen
        obtain ⟨next', same, later⟩ := like id unseen
        cases same
        exact later
      exact ih value _ (like_with later given)
  | invoke function arguments next ih =>
      have parts : ∀ id ∉ seen, function.relabel (.exchange id) = function ∧
          Value.relabelItems (.exchange id) arguments = arguments ∧
            ∀ value, (next value).Like (.exchange id) (next (value.relabel (.exchange id))) := by
        intro id unseen
        obtain ⟨next', same, later⟩ := like id unseen
        injection same with function_eq arguments_eq next_eq
        exact ⟨function_eq.symm, arguments_eq.symm, next_eq ▸ later⟩
      refine ⟨Value.held_of_exchanged fun id unseen => (parts id unseen).1,
        Value.heldItems_of_exchanged fun id unseen => (parts id unseen).2.1, fun value given => ?_⟩
      exact ih value _ (like_with (fun id unseen => (parts id unseen).2.2) given)
  | attempt function arguments next otherwise ih ih' =>
      have parts : ∀ id ∉ seen, function.relabel (.exchange id) = function ∧
          Value.relabelItems (.exchange id) arguments = arguments ∧
            (∀ value, (next value).Like (.exchange id) (next (value.relabel (.exchange id)))) ∧
              ∀ message, (otherwise message).Like (.exchange id) (otherwise message) := by
        intro id unseen
        obtain ⟨next', otherwise', same, later, later'⟩ := like id unseen
        injection same with function_eq arguments_eq next_eq otherwise_eq
        exact ⟨function_eq.symm, arguments_eq.symm, next_eq ▸ later, otherwise_eq ▸ later'⟩
      refine ⟨Value.held_of_exchanged fun id unseen => (parts id unseen).1,
        Value.heldItems_of_exchanged fun id unseen => (parts id unseen).2.1, fun value given => ?_,
        fun message => ih' message seen fun id unseen => (parts id unseen).2.2.2 message⟩
      exact ih value _ (like_with (fun id unseen => (parts id unseen).2.2.1) given)

theorem Handler.ScopeBlind.genuine {handler : Handler} (blind : handler.ScopeBlind) :
    handler.Genuine := by
  intro request held
  refine Script.within_locals (Value.itemsCaptured request.arguments).toFinset fun id unseen => ?_
  rw [List.mem_toFinset] at unseen
  have same : request.relabel (.exchange id) = request := by
    have arguments : Value.relabelItems (.exchange id) request.arguments = request.arguments := by
      refine Value.relabelItems_of_fixed _ fun other member => ?_
      exact Equiv.swap_apply_of_ne_of_ne (held other member) fun same => unseen (same ▸ member)
    rw [Request.relabel, arguments]
  have like := blind _ (Equiv.swap Arena.globalId id).injective request
  change (handler request).Like (.exchange id) (handler (request.relabel (.exchange id))) at like
  rwa [same] at like

theorem Registry.ScopeBlind.genuine {registry : Registry} (blind : registry.ScopeBlind) :
    registry.Genuine :=
  fun entry member => (blind entry member).genuine

end Parlance
