import Parlance.Proofs.Running.Anchoring

/-!
Runs that keep the global binding of a name. Only a declaration outside of every scope and an
assignment can touch it: whatever a block, a loop or a call of a function binds, it binds in a scope
of its own. So a program keeps the binding if none of its assignments aims at the name, and none in
a function that it meets, however it ends; and it makes no function in which one does.
-/

namespace Parlance

namespace Arena

variable {name : String} {bound : Option Value} {stack : List Nat} {arena : Arena}

def watchGlobal (bound : Option Value) : Watch := fun id =>
  if id = globalId then some bound else none

theorem guards_iff_anchors :
    arena.Guards name bound stack ↔ arena.Anchors name (watchGlobal bound) stack := by
  constructor
  · intro guards
    refine ⟨⟨guards.intact, guards.spares⟩, fun id held here => ?_,
      fun id held here scope found => ?_⟩
    · obtain ⟨rfl, _⟩ : id = globalId ∧ bound = held := by simpa [watchGlobal] using here
      exact Nat.pos_of_ne_zero guards.intact.sound.fresh_local
    · obtain ⟨rfl, rfl⟩ : id = globalId ∧ bound = held := by simpa [watchGlobal] using here
      simpa [globals, found] using guards.bound_eq
  · intro anchors
    refine ⟨anchors.intact, anchors.kindred, ?_⟩
    obtain ⟨bindings, found⟩ := (isLive_iff arena globalId).mp anchors.intact.sound.global_live
    have here : watchGlobal bound globalId = some bound := by simp [watchGlobal]
    simpa [globals, found] using anchors.bound globalId bound here bindings found

end Arena

namespace Run

/-- However a run ends, the arena guards the binding still, and what it hands on is harmless. -/
def Kept (name : String) (bound : Option Value) (stack : List Nat) {α : Type} [Capturing α]
    [Bearing α] : EStateM.Result Failure Machine α → Prop
  | .ok a machine => Harmless name a ∧ machine.arena.Guards name bound stack
  | .error _ machine => machine.arena.Guards name bound stack

/-- A run keeps the global binding of a name. One that may bind the name where it stands does so as
long as it stands in a scope. -/
def Keeps (name : String) (binds : Prop) {α : Type} [Capturing α] [Bearing α] (run : Run α) :
    Prop :=
  ∀ machine bound stack, machine.arena.Guards name bound stack → (binds → stack ≠ []) →
    Kept name bound stack (run machine)

section

variable {name : String} {bound : Option Value} {stack : List Nat} {binds : Prop} {α β : Type}
  [Capturing α] [Bearing α] [Capturing β] [Bearing β]

theorem Kept.left {result : EStateM.Result Failure Machine α}
    (kept : Kept name bound stack result) : (Run.left result).arena.Guards name bound stack := by
  cases result with
  | ok a machine => exact kept.2
  | error failure machine => exact kept

theorem kept_iff_anchored {result : EStateM.Result Failure Machine α} :
    Kept name bound stack result ↔ Anchored name (Arena.watchGlobal bound) stack result := by
  cases result <;> simp only [Kept, Anchored, Arena.guards_iff_anchors]

theorem Secures.keeps {run : Run α} (secures : Secures name binds run) : Keeps name binds run := by
  -- a scope that is entered is not the global one, so the name may be bound in it
  intro machine bound stack guards inside
  rw [kept_iff_anchored]
  refine secures machine _ stack (Arena.guards_iff_anchors.mp guards) fun may => ?_
  obtain ⟨id, rest, rfl⟩ := List.exists_cons_of_ne_nil (inside may)
  have entered : id ≠ Arena.globalId := by
    rintro rfl
    exact guards.intact.sound.entered_local List.mem_cons_self
  simp [Arena.watchGlobal, entered]

namespace Keeps

theorem mono {run : Run α} {more : Prop} (keeps : Keeps name binds run) (fewer : binds → more) :
    Keeps name more run :=
  fun machine bound stack guards inside =>
    keeps machine bound stack guards fun may => inside (fewer may)

theorem pure {a : α} (harmless : Harmless name a) : Keeps name binds (Pure.pure a) :=
  fun _ _ _ guards _ => ⟨harmless, guards⟩

theorem bind {run : Run α} {rest : α → Run β} (first : Keeps name binds run)
    (later : ∀ a, Harmless name a → Keeps name binds (rest a)) :
    Keeps name binds (run >>= rest) := by
  intro machine bound stack guards inside
  have kept := first machine bound stack guards inside
  simp only [Bind.bind, EStateM.bind]
  cases result : run machine with
  | ok a after =>
      rw [result] at kept
      exact later a kept.1 after bound stack kept.2 inside
  | error failure after =>
      rw [result] at kept
      exact kept

end Keeps

end

end Run

/-- The parts of an evaluator keep the global binding of a name, where no assignment aims at it. -/
structure Runner.Keeps (name : String) (inner : Runner) : Prop where
  eval : ∀ expr, Run.Keeps name False (inner.eval expr)
  exec : ∀ stmt, name ∉ stmt.targets → Run.Keeps name (name ∈ stmt.binds) (inner.exec stmt)
  call : ∀ function arguments, Harmless name function → Harmless name arguments →
    Run.Keeps name False (inner.call function arguments)

/-! ### Programs -/

variable {name : String} {around : Surroundings}

theorem Runner.ofDepth_keeps (hosts : around.modules.Spares name) (depth : Nat) :
    Runner.Keeps name (.ofDepth around depth) :=
  have secures := Runner.ofDepth_secures hosts depth
  ⟨fun expr => (secures.eval expr).keeps, fun stmt apart => (secures.exec stmt apart).keeps,
    fun function arguments called handed => (secures.call function arguments called handed).keeps⟩

/-- A program of which no statement binds a name and no assignment aims at it keeps its binding. -/
theorem Program.runFrom_keeps {inner : Runner} (parts : Runner.Keeps name inner)
    (program : Program) (last : Value) (harmless : Harmless name last)
    (apart : ∀ stmt ∈ program, name ∉ stmt.binds ∧ name ∉ stmt.targets) :
    Run.Keeps name False (Program.runFrom around inner last program) := by
  induction program generalizing last with
  | nil => exact .pure harmless
  | cons stmt rest ih =>
      obtain ⟨⟨binds, targets⟩, later⟩ := List.forall_mem_cons.mp apart
      refine .bind ((parts.exec stmt targets).mono binds) fun outcome new => ?_
      refine .bind (Run.Secures.tidy around outcome.value).keeps fun _ _ => ?_
      split
      · exact .pure (harmless_outcome.mp new)
      · exact ih outcome.value (harmless_outcome.mp new) later

end Parlance
