import Parlance.Proofs.Module.Answer
import Parlance.Proofs.Relabelling.Handler
import Parlance.Proofs.Running.Agreement

/-!
The dispatch of a call to a handler. The script of the handler is run between the note that it was
asked and the answer that is made of its end; the answer leaves the machine as the script did.
-/

namespace Parlance

open Evaluation

namespace Evaluation

variable {around : Surroundings} {inner : Runner} {request : Request}

/-- A handler is noted and its script is run. -/
def serve (inner : Runner) (entry : Registered) (request : Request) :
    Run (Except String Host) := do
  Run.note (.served entry.serial request)
  (entry.handler request).run ⟨Run.emit, lookup, inner.call⟩ Failure.caught?

/-- What a dispatch makes of the end of a handler. -/
def answer (request : Request) :
    EStateM.Result Failure Machine (Except String Host) → EStateM.Result Failure Machine Value
  | .error failure machine =>
      .error (.of (.dispatch (.failed request.module request.method failure.text))) machine
  | .ok (.error reason) machine =>
      .error (.of (.dispatch (.failed request.module request.method reason))) machine
  | .ok (.ok host) machine =>
      match host.toValue with
      | .ok value => .ok value machine
      | .error _ => .error (.of (.dispatch .answerTooLarge)) machine

theorem dispatch_unknown (unknown : around.modules.find? request.module = none) :
    dispatch around inner request = Run.fail (.of (.dispatch (.unknownModule request.module))) := by
  simp only [dispatch, Registry.dispatch, unknown]
  rfl

theorem dispatch_found {entry : Registered}
    (found : around.modules.find? request.module = some entry) (machine : Machine) :
    dispatch around inner request machine = answer request (serve inner entry request machine) := by
  simp only [dispatch, Registry.dispatch, found]
  cases served : serve inner entry request machine with
  | error failure after =>
      simp only [serve] at served
      rw [served]
      rfl
  | ok result after =>
      simp only [serve] at served
      rw [served]
      cases result <;> rfl

theorem left_answer (result : EStateM.Result Failure Machine (Except String Host)) :
    Run.left (answer request result) = Run.left result := by
  match result with
  | .error _ _ => rfl
  | .ok (.error _) _ => rfl
  | .ok (.ok host) _ =>
      simp only [answer]
      cases host.toValue <;> rfl

end Evaluation

/-- The functions in an answer are those in the value that is made of it. -/
instance : Capturing (Except String Host) where
  captured
    | .ok answer =>
        match answer.toValue with
        | .ok value => value.captured
        | .error _ => []
    | .error _ => []

/-- A script hands on no function but such as captured scopes of a set, if it is handed no other. -/
def Script.Within (known : Set Nat) : Script → Prop
  | .give answer => Held known (Except.ok answer : Except String Host)
  | .fail _ => True
  | .emit _ next => next.Within known
  | .lookup _ next => ∀ value, Held known value → (next value).Within known
  | .invoke function arguments next =>
      Held known function ∧ Held known arguments ∧
        ∀ value, Held known value → (next value).Within known
  | .attempt function arguments next otherwise =>
      Held known function ∧ Held known arguments ∧
        (∀ value, Held known value → (next value).Within known) ∧
          ∀ message, (otherwise message).Within known

theorem Script.within_univ (script : Script) : script.Within Set.univ := by
  induction script with
  | give answer => exact held_univ _
  | fail message => trivial
  | emit line next ih => exact ih
  | lookup name next ih => exact fun value _ => ih value
  | invoke function arguments next ih =>
      exact ⟨held_univ _, held_univ _, fun value _ => ih value⟩
  | attempt function arguments next otherwise ih ih' =>
      exact ⟨held_univ _, held_univ _, fun value _ => ih value, ih'⟩

/-- A script that lets the failure of every function that it calls through. -/
def Script.Relays : Script → Prop
  | .give _ | .fail _ => True
  | .emit _ next => next.Relays
  | .lookup _ next => ∀ value, (next value).Relays
  | .invoke _ _ next => ∀ value, (next value).Relays
  | .attempt .. => False

instance : Labelled (Except String Host) where
  relabel r := Except.map (Host.relabel r)
  relabel_none
    | .ok answer => by simp only [Except.map, Host.relabel_none]
    | .error _ => rfl

/-- Runs that are alike go on alike, behind the failures that can be caught too. -/
def Likeness.Rescues (likeness : Likeness) (known : Set Nat) (stack : List Nat) : Prop :=
  ∀ (left right : Run Value) (rest rest' : Value → Run (Except String Host))
    (spare spare' : String → Run (Except String Host)),
    likeness.Agree known stack left right →
      (∀ more, known ⊆ more → ∀ value, Held more value → likeness.Agree more stack (rest value)
        (rest' (value.relabel likeness.relabelling))) →
      (∀ more, known ⊆ more → ∀ message,
        likeness.Agree more stack (spare message) (spare' message)) →
        likeness.Agree known stack (Script.rescue Failure.caught? left rest spare)
          (Script.rescue Failure.caught? right rest' spare')

/-- A script that keeps within a set is like another if the calls of functions within it are, and if
runs go on alike behind failures unless the script lets these through. The set is as large as any
that the likeness tells apart. -/
theorem Likeness.script_agree_within (likeness : Likeness) (inner inner' : Runner)
    (stack : List Nat) {known : Set Nat}
    (largest : ∀ more, known ⊆ more → more = known ∨ ∀ {α : Type} [Capturing α] [Labelled α]
      (left right : Run α), likeness.Agree more stack left right)
    (emit : ∀ line, likeness.Agree known stack (Run.emit line) (Run.emit line))
    (resolve : ∀ name, likeness.Agree known stack (Run.resolve name) (Run.resolve name))
    (call : ∀ function arguments, Held known function → Held known arguments →
      likeness.Agree known stack (inner.call function arguments)
        (inner'.call (function.relabel likeness.relabelling)
          (Value.relabelItems likeness.relabelling arguments)))
    (script script' : Script) (like : script.Like likeness.relabelling script')
    (within : script.Within known) (rescues : script.Relays ∨ likeness.Rescues known stack) :
    likeness.Agree known stack (script.run ⟨Run.emit, lookup, inner.call⟩ Failure.caught?)
      (script'.run ⟨Run.emit, lookup, inner'.call⟩ Failure.caught?) := by
  -- step by step; where a step has let the set grow, the likeness does not tell it from any other
  induction script generalizing script' with
  | give answer =>
      obtain rfl := like
      exact agree_pure (a := (Except.ok answer : Except String Host)) within
  | fail message =>
      obtain rfl := like
      exact agree_pure (a := (Except.error message : Except String Host)) (List.forall_mem_nil _)
  | emit line next ih =>
      obtain ⟨next', rfl, like⟩ := like
      refine agree_bind (emit line) fun more grows _ _ => ?_
      rcases largest more grows with rfl | any
      · exact ih next' like within rescues
      · exact any _ _
  | lookup name next ih =>
      obtain ⟨next', rfl, like⟩ := like
      have looks : likeness.Agree known stack (lookup name) (lookup name) := by
        refine agree_bind (resolve name) fun more grows found held => ?_
        cases found with
        | none => exact agree_pure (a := Value.void) (held_of_nil (by simp [Value.captured]))
        | some value =>
            exact agree_pure (a := value) fun id member =>
              held id (by simpa [Capturing.captured] using member)
      refine agree_bind looks fun more grows value held => ?_
      rcases largest more grows with rfl | any
      · exact ih value _ (like value) (within value held)
          (rescues.imp_left fun relays => relays value)
      · exact any _ _
  | invoke function arguments next ih =>
      obtain ⟨next', rfl, like⟩ := like
      refine agree_bind (call function arguments within.1 within.2.1)
        fun more grows value held => ?_
      rcases largest more grows with rfl | any
      · exact ih value _ (like value) (within.2.2 value held)
          (rescues.imp_left fun relays => relays value)
      · exact any _ _
  | attempt function arguments next otherwise ih ih' =>
      obtain ⟨next', otherwise', rfl, like, like'⟩ := like
      obtain ⟨called, handed, later, later'⟩ := within
      -- a script that lets failures through has no such step
      obtain relays | goesOn := rescues
      · exact relays.elim
      refine goesOn _ _ _ _ _ _ (call function arguments called handed) ?_ ?_
      · intro more grows value held
        rcases largest more grows with rfl | any
        · exact ih value _ (like value) (later value held) (Or.inr goesOn)
        · exact any _ _
      · intro more grows message
        rcases largest more grows with rfl | any
        · exact ih' message _ (like' message) (later' message) (Or.inr goesOn)
        · exact any _ _

namespace Comparison

variable (comparison : Comparison) (inner inner' : Runner) (stack : List Nat)

/-- Two evaluators go on in agreement, behind the failures that can be caught too. -/
def Rescues (known : Set Nat) (stack : List Nat) : Prop :=
  ∀ (left right : Run Value) (rest rest' : Value → Run (Except String Host))
    (spare spare' : String → Run (Except String Host)),
    comparison.Agree known stack left right →
      (∀ more, known ⊆ more → ∀ value, Held more value →
        comparison.Agree more stack (rest value) (rest' value)) →
      (∀ more, known ⊆ more → ∀ message,
        comparison.Agree more stack (spare message) (spare' message)) →
        comparison.Agree known stack (Script.rescue Failure.caught? left rest spare)
          (Script.rescue Failure.caught? right rest' spare')

variable {comparison} in
theorem Rescues.likeness {known : Set Nat} {stack : List Nat}
    (rescues : comparison.Rescues known stack) : comparison.likeness.Rescues known stack := by
  intro left right rest rest' spare spare' first later
  simp only [Value.relabel_none] at later
  exact rescues left right rest rest' spare spare' first later

theorem script_agree_within {known : Set Nat}
    (largest : ∀ more, known ⊆ more → more = known ∨
      ∀ {α : Type} [Capturing α] (left right : Run α), comparison.Agree more stack left right)
    (emit : ∀ line, comparison.Agree known stack (Run.emit line) (Run.emit line))
    (resolve : ∀ name, comparison.Agree known stack (Run.resolve name) (Run.resolve name))
    (call : ∀ function arguments, Held known function → Held known arguments →
      comparison.Agree known stack (inner.call function arguments)
        (inner'.call function arguments)) (script : Script) (within : script.Within known)
    (rescues : script.Relays ∨ comparison.Rescues known stack) :
    comparison.Agree known stack (script.run ⟨Run.emit, lookup, inner.call⟩ Failure.caught?)
      (script.run ⟨Run.emit, lookup, inner'.call⟩ Failure.caught?) := by
  refine comparison.likeness.script_agree_within inner inner' stack ?_ emit resolve ?_ script script
    script.like_none within (rescues.imp_right Rescues.likeness)
  · intro more grows
    exact (largest more grows).imp_right fun any _ _ _ left right => any left right
  · simpa only [Value.relabel_none, Value.relabelItems_none] using call

/-- A handler may call any function it can name, so the calls have to agree for all of them. -/
theorem script_agree
    (emit : ∀ line, comparison.Agree Set.univ stack (Run.emit line) (Run.emit line))
    (resolve : ∀ name, comparison.Agree Set.univ stack (Run.resolve name) (Run.resolve name))
    (call : ∀ function arguments, comparison.Agree Set.univ stack (inner.call function arguments)
      (inner'.call function arguments)) (script : Script)
    (rescues : script.Relays ∨ comparison.Rescues Set.univ stack) :
    comparison.Agree Set.univ stack (script.run ⟨Run.emit, lookup, inner.call⟩ Failure.caught?)
      (script.run ⟨Run.emit, lookup, inner'.call⟩ Failure.caught?) :=
  comparison.script_agree_within inner inner' stack
    (fun _ grows => Or.inl (Set.univ_subset_iff.mp grows)) emit resolve
    (fun function arguments _ _ => call function arguments) script script.within_univ rescues

end Comparison

end Parlance
