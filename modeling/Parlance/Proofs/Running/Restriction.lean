import Parlance.Proofs.Running.Frame

/-!
Strict runs beside lenient ones. A check of the strict settings only ends a run: up to there the two
runs are one, and from there only the lenient one goes on. That is so as long as no handler catches
the failure of a check: behind one that does, both runs go on, each its own way.
-/

namespace Parlance

def Handler.Relays (handler : Handler) : Prop := ∀ request, (handler request).Relays

/-- No handler catches the failure of a function that it calls. -/
def Registry.Relays (registry : Registry) : Prop :=
  ∀ entry ∈ registry.handlers, entry.2.handler.Relays

theorem Handler.apply_relays : Handler.apply.Relays := by
  intro request
  simp only [apply]
  cases request.arguments with
  | nil => trivial
  | cons function arguments => exact fun _ => trivial

namespace Frame

open Evaluation

/-- What has happened is not forgotten. -/
def journal : Frame where
  kept before after := before.journal <:+ after.journal
  refl machine := List.suffix_refl machine.journal
  trans := List.IsSuffix.trans

section

variable {α : Type}

theorem journal_still {run : Run α}
    (still : ∀ machine, (Run.left (run machine)).journal = machine.journal) :
    journal.Keeps run := by
  intro machine
  change machine.journal <:+ (Run.left (run machine)).journal
  simp only [still, List.suffix_refl]

theorem journal_onArena (action : Arena.Action α) : journal.Keeps (Run.onArena action) :=
  journal_still fun machine => by rw [Run.left_onArena]

theorem journal_note (event : Event) : journal.Keeps (Run.note event) :=
  fun machine => List.suffix_cons event machine.journal

theorem journal_visit (budget : Option Nat) (kind : Node.Kind) (place : Place) :
    journal.Keeps (Run.visit budget kind place) := by
  intro machine
  have noted := journal_note (.visited kind place) { machine with steps := machine.steps + 1 }
  simp only [Run.visit]
  cases budget with
  | none => exact noted
  | some limit =>
      simp only
      split
      · exact journal.refl _
      · exact noted

theorem journal_capture : journal.Keeps Run.capture := by
  refine journal_still fun machine => ?_
  simp only [Run.capture]
  cases machine.arena.innermost? <;> rfl

theorem journal_inScope {upkeep : Arena.Upkeep} {enter : Arena → Arena} {body : Run α}
    (keeps : journal.Keeps body) : journal.Keeps (Run.inScope upkeep enter body) := by
  intro machine
  rw [Run.left_inScope]
  exact keeps { machine with arena := enter machine.arena }

end

theorem journal_primitives (around : Surroundings) : journal.Primitives around where
  visit := journal_visit around.budget
  note := journal_note
  noteStray _ machine := List.suffix_refl machine.journal
  capture := journal_capture
  declare _ _ := journal_onArena _
  assign _ _ := journal_onArena _
  carry _ machine := List.suffix_refl machine.journal
  collect _ := journal_onArena _
  fresh _ keeps := journal_inScope keeps
  again _ _ _ keeps machine _ := journal_inScope keeps machine

end Frame

namespace Run

/-- Where the strict run ends with a value the lenient one is the same, and where it fails the
lenient one does at least what it did. -/
def Within {α : Type} (lenient : EStateM.Result Failure Machine α) :
    EStateM.Result Failure Machine α → Prop
  | .ok value after => lenient = .ok value after
  | .error _ after => after.journal <:+ (left lenient).journal

structure Restricts {α : Type} (strict lenient : Run α) : Prop where
  within : ∀ machine, Within (lenient machine) (strict machine)
  grows : Frame.journal.Keeps lenient

section

variable {α β : Type} {strict lenient : Run α}

theorem within_self (result : EStateM.Result Failure Machine α) : Within result result := by
  cases result with
  | ok value after => rfl
  | error failure after => exact List.suffix_refl after.journal

theorem restricts_self {run : Run α} (grows : Frame.journal.Keeps run) : Restricts run run :=
  ⟨fun machine => within_self (run machine), grows⟩

theorem restricts_fail (failure : Failure) (grows : Frame.journal.Keeps lenient) :
    Restricts (fail failure) lenient :=
  ⟨grows, grows⟩

theorem restricts_bind {rest rest' : α → Run β} (first : Restricts strict lenient)
    (later : ∀ a, Restricts (rest a) (rest' a)) :
    Restricts (strict >>= rest) (lenient >>= rest') where
  within machine := by
    have early := first.within machine
    simp only [bind, EStateM.bind]
    cases result : strict machine with
    | ok value after =>
        rw [result] at early
        rw [show lenient machine = .ok value after from early]
        exact (later value).within after
    | error failure after =>
        rw [result] at early
        -- the strict run stops here; what the lenient one still does is only added to its journal
        have wider : after.journal <:+ (left (lenient machine)).journal := early
        cases result' : lenient machine with
        | ok value more =>
            rw [result'] at wider
            exact wider.trans ((later value).grows more)
        | error failure' more =>
            rw [result'] at wider
            exact wider
  grows := Frame.keeps_bind first.grows fun a => (later a).grows

/-- What is made of the end of a run leaves the restriction, if it makes no value of a failure and
notes nothing. -/
theorem Within.map {result result' : EStateM.Result Failure Machine α}
    (within : Within result' result)
    (make : EStateM.Result Failure Machine α → EStateM.Result Failure Machine β)
    (fails : ∀ failure after value last, make (.error failure after) ≠ .ok value last)
    (notes : ∀ result, (left (make result)).journal = (left result).journal) :
    Within (make result') (make result) := by
  cases result with
  | ok value after =>
      rw [show result' = .ok value after from within]
      exact within_self _
  | error failure after =>
      have journal := notes (.error failure after)
      cases made : make (.error failure after) with
      | ok value last => exact absurd made (fails failure after value last)
      | error other last =>
          rw [made] at journal
          change last.journal <:+ (left (make result')).journal
          rw [notes, show last.journal = after.journal from journal]
          exact within

def leaving (upkeep : Arena.Upkeep) :
    EStateM.Result Failure Machine α → EStateM.Result Failure Machine α
  | .ok value machine =>
      match onArena (Arena.pop upkeep) machine with
      | .ok _ machine => .ok value machine
      | .error failure machine => .error failure machine
  | .error failure machine =>
      match onArena (Arena.pop upkeep) machine with
      | .ok _ machine => .error failure machine
      | .error failure machine => .error failure machine

theorem journal_leaving (upkeep : Arena.Upkeep) (result : EStateM.Result Failure Machine α) :
    (left (leaving upkeep result)).journal = (left result).journal := by
  have keeps := fun machine => congrArg Machine.journal (left_onArena (Arena.pop upkeep) machine)
  cases result with
  | ok value after =>
      have kept := keeps after
      simp only [leaving]
      cases popped : onArena (Arena.pop upkeep) after <;> rw [popped] at kept <;> exact kept
  | error failure after =>
      have kept := keeps after
      simp only [leaving]
      cases popped : onArena (Arena.pop upkeep) after <;> rw [popped] at kept <;> exact kept

theorem restricts_inScope {upkeep : Arena.Upkeep} {enter : Arena → Arena}
    (body : Restricts strict lenient) :
    Restricts (inScope upkeep enter strict) (inScope upkeep enter lenient) where
  within machine := by
    have inside := body.within { machine with arena := enter machine.arena }
    refine inside.map (leaving upkeep) ?_ (journal_leaving upkeep)
    intro failure after value last
    simp only [leaving]
    cases onArena (Arena.pop upkeep) after <;> nofun
  grows := Frame.journal_inScope body.grows

end

abbrev restriction : Comparison where
  Agree _ _ strict lenient := Restricts strict lenient
  value _ := restricts_self (Frame.keeps_pure _)
  andThen first later :=
    restricts_bind first fun a => later Set.univ (Set.subset_univ _) a (held_univ a)

end Run

namespace Evaluation

open Run

variable {around : Surroundings}

theorem restricts_inFresh {body body' : Run Outcome} (agree : Restricts body body') :
    Restricts (inFresh around body) (inFresh around body') := by
  apply restricts_inScope
  apply restricts_bind agree
  intro outcome
  have carries := (Frame.journal_primitives around).carry outcome.value
  exact restricts_self (Frame.keeps_bind carries fun _ => Frame.keeps_pure outcome)

theorem restricts_inCaptured {closure : Closure} {body body' : Run Value}
    (agree : Restricts body body') :
    Restricts (inCaptured around closure body) (inCaptured around closure body') := by
  cases scope : closure.scope with
  | none =>
      rw [inCaptured_none scope, inCaptured_none scope]
      exact agree
  | some id =>
      constructor
      · intro machine
        by_cases live : machine.arena.isLive id = true
        · rw [inCaptured_entered scope live, inCaptured_entered scope live]
          exact (restricts_inScope agree).within machine
        · rw [inCaptured_missed scope live, inCaptured_missed scope live]
          exact agree.within _
      · exact (Frame.journal_primitives around).keeps_inCaptured agree.grows

/-- Handlers that let failures through see of strictness only what the functions that they call
do. -/
theorem restricts_dispatch (around : Surroundings) (relays : around.modules.Relays)
    {inner inner' : Runner}
    (call : ∀ function arguments,
      Restricts (inner.call function arguments) (inner'.call function arguments))
    (request : Request) :
    Restricts (dispatch around inner request) (dispatch around inner' request) := by
  cases found : around.modules.find? request.module with
  | none =>
      rw [dispatch_unknown found, dispatch_unknown found]
      exact restricts_fail _ (Frame.keeps_still fun _ => rfl)
  | some entry =>
      -- a handler that relays failures has no step at which it catches one
      have lets := relays _ (Table.mem_of_get? found) request
      have script : Restricts
          ((entry.handler request).run ⟨Run.emit, lookup, inner.call⟩ Failure.caught?)
          ((entry.handler request).run ⟨Run.emit, lookup, inner'.call⟩ Failure.caught?) :=
        restriction.script_agree inner inner' []
          (fun line => restricts_self (Frame.journal_note (.emitted line)))
          (fun name => restricts_self (Frame.keeps_still (Run.left_resolve name))) call _
          (Or.inl lets)
      have served : Restricts (serve inner entry request) (serve inner' entry request) :=
        restricts_bind (restricts_self (Frame.journal_note _)) fun _ => script
      constructor
      · intro machine
        rw [dispatch_found found, dispatch_found found]
        refine (served.within machine).map (answer request) (fun _ _ _ _ => nofun) fun result => ?_
        rw [left_answer]
      · exact (Frame.journal_primitives around).keeps_dispatch (fun _ _ => (call _ _).grows) request

end Evaluation

def Settings.withStrict (strict : Bool) (settings : Settings) : Settings := { settings with strict }

namespace Surroundings

open Run Evaluation

def withStrict (strict : Bool) (around : Surroundings) : Surroundings :=
  { around with settings := around.settings.withStrict strict }

theorem restriction_links (around : Surroundings) (relays : around.modules.Relays) :
    restriction.Links (around.withStrict true) (around.withStrict false) where
  settings := rfl
  hosts _ := rfl
  visit _ _ kind place := restricts_self (Frame.journal_visit around.budget kind place)
  emit _ _ line := restricts_self (Frame.journal_note (.emitted line))
  resolve _ _ name := restricts_self (Frame.keeps_still (left_resolve name))
  declare _ _ _ _ _ := restricts_self (Frame.journal_onArena _)
  assign _ _ _ _ _ := restricts_self (Frame.journal_onArena _)
  capture _ _ := restricts_self Frame.journal_capture
  lapse _ _ _ _ value _ _ := restricts_fail _ (Frame.keeps_pure value)
  dispatch _ _ parts _ _ request _ _ :=
    restricts_dispatch (around.withStrict true) relays (fun function arguments =>
      parts.call Set.univ [] function arguments (held_univ _) (held_univ _)) request
  inFresh _ _ _ _ agree := restricts_inFresh (agree 0)
  inCaptured _ _ _ _ _ _ agree := restricts_inCaptured (agree [])
  tidy _ value _ := by
    refine restricts_self fun machine => ?_
    rw [left_tidy]
    exact Frame.journal_onArena _ machine

/-- A strict run of a program restricts the lenient one. -/
theorem restricts_run (around : Surroundings) (relays : around.modules.Relays) (program : Program)
    (depth : Nat) :
    Restricts (program.run (around.withStrict true) depth)
      (program.run (around.withStrict false) depth) := by
  have bounds : ∀ bound, restriction.Bounds bound bound := fun bound =>
    Or.inl ⟨rfl, fun _ _ _ _ => restricts_self (Frame.keeps_still fun _ => rfl)⟩
  exact Comparison.run_agree (around.restriction_links relays) (bounds around.rounds) program depth
    depth (bounds depth) Set.univ

end Surroundings

end Parlance
