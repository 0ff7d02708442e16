import Parlance.Proofs.Arena.Lookup
import Parlance.Proofs.Running.Frame

/-!
The numbers of fresh scopes. Only entering a fresh scope changes the number of the next one, and
that counts up; so whatever is run, and however it ends, no number is given to a scope twice, and
the live scopes have numbers below that of the next one.
-/

namespace Parlance

namespace Arena

variable (arena : Arena)

theorem pop_nextId (upkeep : Upkeep) : (left (pop upkeep arena)).nextId = arena.nextId := by
  simp only [pop]
  cases arena.stack with
  | nil => rfl
  | cons id rest =>
      simp only
      split
      · rfl
      · split
        · rfl
        · split <;> rfl

theorem unwind_nextId (upkeep : Upkeep) :
    (left (unwind upkeep arena)).nextId = arena.nextId := by
  have leaving : ∀ count, (left (popTimes upkeep count arena)).nextId = arena.nextId := by
    intro count
    induction count generalizing arena with
    | zero => rfl
    | succ count ih =>
        have popped := pop_nextId arena upkeep
        simp only [popTimes, Bind.bind, EStateM.bind]
        cases result : pop upkeep arena with
        | ok _ after =>
            rw [result] at popped
            exact (ih after).trans popped
        | error fault after =>
            rw [result] at popped
            exact popped
  exact leaving arena.stack.length

theorem bind_nextId (id : Nat) (name : String) (value : Value) :
    (left (bind id name value arena)).nextId = arena.nextId := by
  simp only [bind]
  cases Table.get? id arena.scopes <;> rfl

theorem declare_nextId (name : String) (value : Value) :
    (left (declare name value arena)).nextId = arena.nextId :=
  bind_nextId arena _ name value

theorem assign_nextId (name : String) (value : Value) :
    (left (assign name value arena)).nextId = arena.nextId := by
  simp only [assign]
  cases arena.holder? name arena.stack with
  | error fault => rfl
  | ok holder =>
      cases holder with
      | none => exact declare_nextId arena name value
      | some id => exact bind_nextId arena id name value

theorem release_nextId (ids : List Nat) : (left (release ids arena)).nextId = arena.nextId := by
  induction ids generalizing arena with
  | nil => rfl
  | cons id rest ih =>
      simp only [release]
      split
      · exact ih _
      · split
        · exact ih _
        · rfl

theorem collect_nextId (upkeep : Upkeep) (roots : List Value) :
    (left (collect upkeep roots arena)).nextId = arena.nextId := by
  simp only [collect]
  split
  · rfl
  · cases (globalId :: arena.stack.reverse).find? fun id => !arena.isLive id with
    | some id => rfl
    | none =>
        simp only
        generalize ((arena.pinned.filter _).mergeSort _) = lost
        rw [← release_nextId arena lost]
        cases release lost arena <;> rfl

/-! ### Live scopes -/

theorem isLive_of_erase {scopes : Table Nat Bindings} {id other : Nat}
    (live : Table.has other (Table.erase id scopes) = true) : Table.has other scopes = true := by
  rw [← Table.mem_keys_iff, Table.keys_erase] at live
  exact (Table.mem_keys_iff other scopes).mp (List.mem_of_mem_erase live)

theorem pop_live (upkeep : Upkeep) {id : Nat} (live : (left (pop upkeep arena)).isLive id = true) :
    arena.isLive id = true := by
  simp only [pop] at live
  cases entered : arena.stack with
  | nil =>
      rw [entered] at live
      exact live
  | cons innermost rest =>
      simp only [entered] at live
      split at live
      · exact live
      · split at live
        · exact live
        · split at live
          · exact isLive_of_erase live
          · exact live

theorem release_live (ids : List Nat) {id : Nat}
    (live : (left (release ids arena)).isLive id = true) : arena.isLive id = true := by
  induction ids generalizing arena with
  | nil => exact live
  | cons first rest ih =>
      simp only [release] at live
      split at live
      · have before := ih _ live
        exact before
      · split at live
        · have before := ih _ live
          exact isLive_of_erase before
        · exact live

theorem collect_live (upkeep : Upkeep) (roots : List Value) {id : Nat}
    (live : (left (collect upkeep roots arena)).isLive id = true) : arena.isLive id = true := by
  simp only [collect] at live
  split at live
  · exact live
  · split at live
    · exact live
    · revert live
      generalize ((arena.pinned.filter _).mergeSort _) = lost
      intro live
      refine release_live arena lost ?_
      cases released : release lost arena <;> rw [released] at live <;> exact live

theorem bind_live (target : Nat) (name : String) (value : Value) {id : Nat}
    (live : (left (bind target name value arena)).isLive id = true) : arena.isLive id = true := by
  simp only [bind] at live
  cases found : Table.get? target arena.scopes with
  | none =>
      rw [found] at live
      exact live
  | some bindings =>
      simp only [found, left, isLive, Table.has_put, Bool.or_eq_true, decide_eq_true_eq] at live
      rcases live with rfl | live
      · exact (isLive_iff arena id).mpr ⟨bindings, found⟩
      · exact live

theorem assign_live (name : String) (value : Value) {id : Nat}
    (live : (left (assign name value arena)).isLive id = true) : arena.isLive id = true := by
  simp only [assign] at live
  cases answer : arena.holder? name arena.stack with
  | error fault =>
      rw [answer] at live
      exact live
  | ok holder =>
      cases holder <;> simp only [answer] at live <;> exact bind_live arena _ name value live

def Numbered (arena : Arena) : Prop := ∀ id, arena.isLive id = true → id < arena.nextId

theorem Numbered.of_live {before after : Arena} (numbered : before.Numbered)
    (live : ∀ id, after.isLive id = true → before.isLive id = true)
    (nextId : after.nextId = before.nextId) : after.Numbered :=
  fun id here => nextId ▸ numbered id (live id here)

theorem Numbered.pushFresh {arena : Arena} (numbered : arena.Numbered) :
    arena.pushFresh.Numbered := by
  intro id live
  simp only [Arena.pushFresh, isLive, Table.has_put, Bool.or_eq_true, decide_eq_true_eq] at live
  rcases live with rfl | live
  · exact Nat.lt_succ_self _
  · exact Nat.lt_succ_of_lt (numbered id live)

/-- A fresh scope binds nothing yet, so every name resolves as it did outside of it. -/
theorem Sound.resolve_pushFresh {arena : Arena} {stack : List Nat} (sound : arena.Sound stack)
    (numbered : arena.Numbered) (name : String) :
    arena.pushFresh.resolve name = arena.resolve name := by
  have empty : arena.pushFresh.boundIn name arena.nextId = none := by
    simp [boundIn, Arena.pushFresh]
  have same : ∀ id ∈ scopeOrder stack, arena.pushFresh.boundIn name id = arena.boundIn name id := by
    intro id member
    have live : arena.isLive id = true := by
      rcases List.mem_append.mp member with entered | global
      · exact sound.entered_live id entered
      · exact List.mem_singleton.mp global ▸ sound.global_live
    have other : id ≠ arena.nextId := Nat.ne_of_lt (numbered id live)
    simp [boundIn, Arena.pushFresh, Table.get?_put_of_ne other]
  rw [sound.pushFresh.resolve_cons, empty, Option.none_or, lookup_congr same, ← sound.resolve_eq]

end Arena

namespace Frame

open Evaluation

def numbering : Frame where
  kept before after := before.arena.nextId ≤ after.arena.nextId
  refl machine := Nat.le_refl machine.arena.nextId
  trans early late := Nat.le_trans early late

theorem numbering_onArena {α : Type} {action : Arena.Action α}
    (same : ∀ arena, (Arena.left (action arena)).nextId = arena.nextId) :
    numbering.Keeps (Run.onArena action) := by
  intro machine
  rw [Run.left_onArena]
  exact (same machine.arena).ge

theorem numbering_visit (budget : Option Nat) (kind : Node.Kind) (place : Place) :
    numbering.Keeps (Run.visit budget kind place) := by
  intro machine
  rcases Run.visit_cases budget kind place machine with ⟨_, _, _, result⟩ | ⟨_, result⟩
  · rw [result]
    exact Nat.le_refl machine.arena.nextId
  · rw [result]
    exact Nat.le_refl machine.arena.nextId

theorem numbering_capture : numbering.Keeps Run.capture := by
  intro machine
  simp only [Run.capture]
  cases machine.arena.innermost? with
  | none => exact Nat.le_refl machine.arena.nextId
  | some id => exact (Arena.pin_nextId id machine.arena).ge

theorem numbering_inScope {α : Type} {upkeep : Arena.Upkeep} {enter : Arena → Arena} {body : Run α}
    (keeps : numbering.Keeps body) {machine : Machine}
    (entered : machine.arena.nextId ≤ (enter machine.arena).nextId) :
    numbering.kept machine (Run.left (Run.inScope upkeep enter body machine)) := by
  have inside := keeps { machine with arena := enter machine.arena }
  rw [Run.left_inScope]
  refine Nat.le_trans (Nat.le_trans entered inside) ?_
  exact (Arena.pop_nextId _ upkeep).ge

theorem numbering_primitives (around : Surroundings) : numbering.Primitives around where
  visit := numbering_visit around.budget
  note _ machine := Nat.le_refl machine.arena.nextId
  noteStray _ machine := Nat.le_refl machine.arena.nextId
  capture := numbering_capture
  declare name value := numbering_onArena fun arena => Arena.declare_nextId arena name value
  assign name value := numbering_onArena fun arena => Arena.assign_nextId arena name value
  carry value machine := (Arena.carry_nextId value machine.arena).ge
  collect roots := numbering_onArena fun arena =>
    Arena.collect_nextId arena around.upkeep roots
  fresh _ keeps _ := numbering_inScope keeps (Nat.le_succ _)
  again id closure _ keeps machine _ := by
    have carried := Arena.carry_nextId (.function closure) (Arena.push id machine.arena)
    exact numbering_inScope keeps carried.ge

def numbered : Frame where
  kept before after := before.arena.Numbered → after.arena.Numbered
  refl _ := id
  trans early late := late ∘ early

theorem numbered_onArena {α : Type} {action : Arena.Action α}
    (live : ∀ arena id, (Arena.left (action arena)).isLive id = true → arena.isLive id = true)
    (nextId : ∀ arena, (Arena.left (action arena)).nextId = arena.nextId) :
    numbered.Keeps (Run.onArena action) := by
  intro machine given
  rw [Run.left_onArena]
  exact given.of_live (live machine.arena) (nextId machine.arena)

theorem numbered_inScope {α : Type} {upkeep : Arena.Upkeep} {enter : Arena → Arena} {body : Run α}
    (keeps : numbered.Keeps body) {machine : Machine}
    (entered : machine.arena.Numbered → (enter machine.arena).Numbered) :
    numbered.kept machine (Run.left (Run.inScope upkeep enter body machine)) := by
  intro given
  have inside := keeps { machine with arena := enter machine.arena } (entered given)
  rw [Run.left_inScope]
  exact inside.of_live (fun _ live => Arena.pop_live _ upkeep live) (Arena.pop_nextId _ upkeep)

theorem numbered_primitives (around : Surroundings) : numbered.Primitives around where
  visit kind place machine given := by
    rcases Run.visit_cases around.budget kind place machine with ⟨_, _, _, result⟩ | ⟨_, result⟩
    · rw [Evaluation.visit, result]
      exact given
    · rw [Evaluation.visit, result]
      exact given
  note _ _ given := given
  noteStray _ _ given := given
  capture machine given := by
    simp only [Run.capture]
    cases machine.arena.innermost? with
    | none => exact given
    | some id =>
        exact given.of_live (fun _ live => Arena.isLive_congr (Arena.pin_scopes id _) _ ▸ live)
          (Arena.pin_nextId id machine.arena)
  declare name value := numbered_onArena (fun arena _ => Arena.bind_live arena _ name value)
    fun arena => Arena.declare_nextId arena name value
  assign name value := numbered_onArena (fun arena _ => Arena.assign_live arena name value)
    fun arena => Arena.assign_nextId arena name value
  carry value machine given :=
    given.of_live (fun _ live => Arena.isLive_congr (Arena.carry_scopes value _) _ ▸ live)
      (Arena.carry_nextId value machine.arena)
  collect roots := numbered_onArena
    (fun arena _ => Arena.collect_live arena around.upkeep roots)
    fun arena => Arena.collect_nextId arena around.upkeep roots
  fresh _ keeps _ := numbered_inScope keeps Arena.Numbered.pushFresh
  again id closure _ keeps machine _ := by
    -- a scope that is entered again is an old one, so no number is taken for it
    refine numbered_inScope keeps fun given => ?_
    have entered : (Arena.push id machine.arena).Numbered := given
    exact entered.of_live (fun _ live => Arena.isLive_congr (Arena.carry_scopes _ _) _ ▸ live)
      (Arena.carry_nextId (.function closure) (Arena.push id machine.arena))

end Frame

end Parlance
