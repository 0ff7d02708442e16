import Mathlib.Logic.Function.Basic
import Parlance.Module.Registry
import Parlance.Proofs.Relabelling.Value

/-!
Handlers that are asked with relabelled arguments. One that follows a relabelling does what it does
otherwise, with relabelled functions: it sees of a function that it can be called, and not which
scope it captured or where it stands. None of the handlers here looks at that.
-/

namespace Parlance

/-- The second script does with relabelled values what the first one does. -/
def Script.Like (r : Relabelling) : Script → Script → Prop
  | .give answer, other => other = .give (answer.relabel r)
  | .fail message, other => other = .fail message
  | .emit line next, other => ∃ next', other = .emit line next' ∧ next.Like r next'
  | .lookup name next, other => ∃ next', other = .lookup name next' ∧
      ∀ value, (next value).Like r (next' (value.relabel r))
  | .invoke function arguments next, other =>
      ∃ next', other =
          .invoke (function.relabel r) (Value.relabelItems r arguments) next' ∧
        ∀ value, (next value).Like r (next' (value.relabel r))
  | .attempt function arguments next otherwise, other =>
      ∃ next' otherwise', other =
          .attempt (function.relabel r) (Value.relabelItems r arguments) next' otherwise' ∧
        (∀ value, (next value).Like r (next' (value.relabel r))) ∧
          ∀ message, (otherwise message).Like r (otherwise' message)

theorem Script.like_none (script : Script) : script.Like .none script := by
  induction script with
  | give answer => simp only [Like, Host.relabel_none]
  | fail message => rfl
  | emit line next ih => exact ⟨next, rfl, ih⟩
  | lookup name next ih =>
      refine ⟨next, rfl, fun value => ?_⟩
      rw [Value.relabel_none]
      exact ih value
  | invoke function arguments next ih =>
      refine ⟨next, by rw [Value.relabel_none, Value.relabelItems_none], fun value => ?_⟩
      rw [Value.relabel_none]
      exact ih value
  | attempt function arguments next otherwise ih ih' =>
      refine ⟨next, otherwise, by rw [Value.relabel_none, Value.relabelItems_none],
        fun value => ?_, ih'⟩
      rw [Value.relabel_none]
      exact ih value

namespace Handler

/-- A relabelled request gets a relabelled answer, and on the way to it the same happens. -/
def Follows (r : Relabelling) (handler : Handler) : Prop :=
  ∀ request : Request, (handler request).Like r (handler (request.relabel r))

/-- A handler that does not look at the numbers of the scopes that functions captured. -/
def ScopeBlind (handler : Handler) : Prop :=
  ∀ scope : Nat → Nat, scope.Injective → handler.Follows ⟨scope, id⟩

/-- A handler that looks neither at the numbers of scopes nor at the places of nodes. -/
def Blind (handler : Handler) : Prop :=
  ∀ r : Relabelling, r.scope.Injective → handler.Follows r

theorem Blind.scopeBlind {handler : Handler} (blind : handler.Blind) : handler.ScopeBlind :=
  fun scope injective => blind ⟨scope, id⟩ injective

theorem tally_blind : tally.Blind := by
  intro r _ request
  simp [tally, Script.Like, Request.relabel, Value.length_relabelItems, Host.relabel]

theorem failing_blind (message : String) : (failing message).Blind := fun _ _ _ => rfl

theorem echo_blind : echo.Blind := by
  intro r _ request
  have values : ∀ arguments : List Value, (Value.relabelItems r arguments).map Host.value =
      Host.relabelItems r (arguments.map .value) := by
    intro arguments
    induction arguments with
    | nil => rfl
    | cons value rest ih =>
        simp [Value.relabelItems, Host.relabelItems, Host.relabel, ih]
  simp [echo, Script.Like, Request.relabel, values, Host.relabel]

theorem apply_blind : apply.Blind := by
  rintro r _ ⟨module, method, arguments⟩
  cases arguments with
  | nil => rfl
  | cons function arguments => exact ⟨_, rfl, fun _ => rfl⟩

theorem applyEach_like (r : Relabelling) (function : Value) (items done : List Value) :
    (applyEach function items done).Like r (applyEach (function.relabel r)
      (Value.relabelItems r items) (Value.relabelItems r done)) := by
  induction items generalizing done with
  | nil =>
      have values : ∀ results : List Value,
          (results.map (Value.relabel r)).map Host.value =
            Host.relabelItems r (results.map .value) := by
        intro results
        induction results with
        | nil => rfl
        | cons value rest ih => simpa [Host.relabelItems, Host.relabel] using ih
      simp only [Value.relabelItems, applyEach, Script.Like, Host.relabel, Script.give.injEq,
        Host.list.injEq]
      rw [Value.relabelItems_eq_map, ← List.map_reverse, values]
  | cons item rest ih =>
      exact ⟨_, rfl, fun value => ih (value :: done)⟩

theorem each_blind : each.Blind := by
  rintro r _ ⟨module, method, arguments⟩
  match arguments with
  | [] | [_] => rfl
  | function :: .list items :: _ => exact applyEach_like r function items []
  | _ :: .number _ :: _ | _ :: .text _ :: _ | _ :: .boolean _ :: _ | _ :: .map _ :: _
  | _ :: .void :: _ | _ :: .function _ :: _ => rfl

theorem lookup_blind : lookup.Blind :=
  fun _ _ _ => ⟨_, rfl, _, rfl, fun _ => rfl⟩

end Handler

namespace Registry

def Follows (r : Relabelling) (registry : Registry) : Prop :=
  ∀ entry ∈ registry.handlers, entry.2.handler.Follows r

/-- No handler looks at the numbers of scopes. -/
def ScopeBlind (registry : Registry) : Prop :=
  ∀ entry ∈ registry.handlers, entry.2.handler.ScopeBlind

/-- No handler looks at the numbers of scopes or at the places of nodes. -/
def Blind (registry : Registry) : Prop :=
  ∀ entry ∈ registry.handlers, entry.2.handler.Blind

end Registry

end Parlance
