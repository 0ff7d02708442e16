import Parlance.Proofs.Running.Comparison

/-!
Runs in step. A bond says which machines belong together while the left run and the right one do
the same, and at which machines of the left run the comparison ends. Runs agree under a bond if
they lead machines that belong together to the same value or the same failure, and the machines
then belong together again.
-/

namespace Parlance

structure Bond where
  /-- Two machines belong together while values capture scopes of a set, over a stack. -/
  joined : Set Nat → List Nat → Machine → Machine → Prop
  /-- Failures that both runs may end with. -/
  shared : Failure → Prop
  /-- A left run that has come here, perhaps by a failure, is compared no further. -/
  parted : List Nat → Option Failure → Machine → Prop

namespace Bond

section

variable {α β : Type} [Capturing α] [Capturing β] (bond : Bond)

def Parted (stack : List Nat) : EStateM.Result Failure Machine α → Prop
  | .ok _ machine => bond.parted stack none machine
  | .error failure machine => bond.parted stack (some failure) machine

def Meets (known : Set Nat) (stack : List Nat) :
    EStateM.Result Failure Machine α → EStateM.Result Failure Machine α → Prop
  | .ok a left, .ok b right =>
      a = b ∧ ∃ more, known ⊆ more ∧ bond.joined more stack left right ∧ Held more a
  | .error failure left, .error other right =>
      failure = other ∧ bond.shared failure ∧
        ∃ more, known ⊆ more ∧ bond.joined more stack left right
  | _, _ => False

structure Agree (known : Set Nat) (stack : List Nat) (left right : Run α) : Prop where
  meets : ∀ m n, bond.joined known stack m n →
    bond.Parted stack (left m) ∨ bond.Meets known stack (left m) (right n)
  /-- A left run that parted stays so. -/
  parts : ∀ m, bond.parted stack none m → bond.Parted stack (left m)

variable {bond}

theorem agree_pure {known : Set Nat} {stack : List Nat} {a : α} (held : Held known a) :
    bond.Agree known stack (pure a) (pure a) where
  meets _ _ joined := Or.inr ⟨rfl, known, subset_rfl, joined, held⟩
  parts _ parted := parted

theorem Meets.mono {known more : Set Nat} (grows : known ⊆ more) {stack : List Nat}
    {left right : EStateM.Result Failure Machine α} (meets : bond.Meets more stack left right) :
    bond.Meets known stack left right := by
  cases left with
  | ok a m =>
      cases right with
      | ok b n =>
          obtain ⟨same, wider, later, joined, held⟩ := meets
          exact ⟨same, wider, grows.trans later, joined, held⟩
      | error _ _ => exact meets
  | error failure m =>
      cases right with
      | ok _ _ => exact meets
      | error other n =>
          obtain ⟨same, shared, wider, later, joined⟩ := meets
          exact ⟨same, shared, wider, grows.trans later, joined⟩

/-- What follows a run may count on what the run's value captures. Behind a parted run nothing is
known of the value, so the rest is asked with every scope allowed. -/
theorem agree_bind {known : Set Nat} {stack : List Nat} {left right : Run α}
    {rest rest' : α → Run β} (first : bond.Agree known stack left right)
    (later : ∀ more, known ⊆ more → ∀ a, Held more a →
      bond.Agree more stack (rest a) (rest' a)) :
    bond.Agree known stack (left >>= rest) (right >>= rest') where
  meets m n joined := by
    simp only [bind, EStateM.bind]
    rcases first.meets m n joined with parted | meets
    · left
      cases result : left m with
      | ok a m' =>
          rw [result] at parted
          exact (later Set.univ (Set.subset_univ known) a (held_univ a)).parts m' parted
      | error failure m' =>
          rw [result] at parted
          exact parted
    -- two values that are not parted are the same one
    · cases result : left m with
      | ok a m' =>
          cases result' : right n with
          | error _ _ => rw [result, result'] at meets; exact meets.elim
          | ok b n' =>
              rw [result, result'] at meets
              obtain ⟨rfl, more, grows, joined', held⟩ := meets
              rcases (later more grows a held).meets m' n' joined' with parted | meets
              · exact Or.inl parted
              · exact Or.inr (meets.mono grows)
      | error failure m' =>
          cases result' : right n with
          | ok _ _ => rw [result, result'] at meets; exact meets.elim
          | error other n' =>
              rw [result, result'] at meets
              exact Or.inr meets
  parts m parted := by
    simp only [bind, EStateM.bind]
    have start := first.parts m parted
    cases result : left m with
    | ok a m' =>
        rw [result] at start
        exact (later Set.univ (Set.subset_univ known) a (held_univ a)).parts m' start
    | error failure m' =>
        rw [result] at start
        exact start

end

abbrev comparison (bond : Bond) : Comparison where
  Agree := bond.Agree
  value := agree_pure
  andThen := agree_bind

end Bond

end Parlance
