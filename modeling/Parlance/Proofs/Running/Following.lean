import Parlance.Proofs.Running.Bearing
import Parlance.Proofs.Running.Careful
import Parlance.Proofs.Running.Idling

/-!
Runs that look the same from outside. A run of an evaluator of some depth is compared with all
those of another evaluator, one for each depth: they follow it if they settle on the same end
wherever its own depth suffices. The two may differ in the nodes that they visit, but what they emit
and ask, what they come to and what they make of the arena is the same, while all functions are
careful.
-/

namespace Parlance

structure Machine.Beside (stack : List Nat) (machine other : Machine) : Prop where
  bears : machine.arena.Bears Careful stack
  arena_eq : other.arena = machine.arena
  strays_eq : other.strays = machine.strays
  outward_eq : other.outward = machine.outward

namespace Machine.Beside

variable {stack : List Nat} {machine other after : Machine}

theorem idled_left (beside : machine.Beside stack other) (idled : machine.Idled after) :
    after.Beside stack other where
  bears := idled.arena_eq ▸ beside.bears
  arena_eq := beside.arena_eq.trans idled.arena_eq.symm
  strays_eq := beside.strays_eq.trans idled.strays_eq.symm
  outward_eq := beside.outward_eq.trans idled.outward_eq.symm

theorem idled_right (beside : machine.Beside stack other) (idled : other.Idled after) :
    machine.Beside stack after where
  bears := beside.bears
  arena_eq := idled.arena_eq.trans beside.arena_eq
  strays_eq := idled.strays_eq.trans beside.strays_eq
  outward_eq := idled.outward_eq.trans beside.outward_eq

theorem note (beside : machine.Beside stack other) (event : Event) :
    ({ machine with journal := event :: machine.journal } : Machine).Beside stack
      { other with journal := event :: other.journal } where
  bears := beside.bears
  arena_eq := beside.arena_eq
  strays_eq := beside.strays_eq
  outward_eq := by
    have same : other.journal.filter Event.isOutward = machine.journal.filter Event.isOutward :=
      beside.outward_eq
    simp only [Machine.outward, List.filter_cons, same]

theorem withArena (beside : machine.Beside stack other) {arena : Arena} {entered : List Nat}
    (bears : arena.Bears Careful entered) :
    ({ machine with arena } : Machine).Beside entered { other with arena } :=
  ⟨bears, rfl, beside.strays_eq, beside.outward_eq⟩

theorem change (beside : machine.Beside stack other) {f : Arena → Arena} {entered : List Nat}
    (bears : (f machine.arena).Bears Careful entered) :
    ({ machine with arena := f machine.arena } : Machine).Beside entered
      { other with arena := f other.arena } := by
  rw [beside.arena_eq]
  exact beside.withArena bears

end Machine.Beside

namespace Run

section

variable {α β : Type} [Capturing α] [Bearing α] [Capturing β] [Bearing β]

/-- Two ends of runs that look the same from outside. -/
def Meets (stack : List Nat) :
    EStateM.Result Failure Machine α → EStateM.Result Failure Machine α → Prop
  | .ok a machine, .ok b other => b = a ∧ Bears Careful a ∧ machine.Beside stack other
  | .error failure machine, .error failure' other =>
      failure' = failure ∧ machine.Beside stack other
  | _, _ => False

/-- Unless the depth of a run runs out, the runs of another evaluator from a machine beside its own
settle on an end that meets its own. -/
def Abreast (depth : Nat) (stack : List Nat) (machine other : Machine) (run : Run α)
    (runs : Nat → Run α) : Prop :=
  Sunk depth machine (run machine) ∨
    machine.journal.length ≤ (left (run machine)).journal.length ∧
      ∃ result, SettlesOn runs other result ∧ Meets stack (run machine) result

/-- The runs of an evaluator, one for each depth, follow a run of another one. -/
def Follows (depth : Nat) (run : Run α) (runs : Nat → Run α) : Prop :=
  ∀ machine other stack, machine.Beside stack other → Abreast depth stack machine other run runs

variable {depth : Nat}

theorem Abreast.ok {stack : List Nat} {machine other after after' : Machine} {run : Run α}
    {runs : Nat → Run α} {a : α} (result : run machine = .ok a after)
    (settles : SettlesOn runs other (.ok a after')) (bears : Bears Careful a)
    (beside : after.Beside stack after')
    (grows : machine.journal.length ≤ after.journal.length) :
    Abreast depth stack machine other run runs := by
  refine Or.inr ?_
  rw [result]
  exact ⟨grows, _, settles, rfl, bears, beside⟩

/-- Runs that go on as others do from later machines are as far abreast as these. -/
theorem Abreast.behind {stack : List Nat} {machine other before before' : Machine}
    {run run' : Run α} {runs runs' : Nat → Run α} (count : Nat) (goes : run' before = run machine)
    (goes' : ∀ depth, runs' depth before' = runs depth other)
    (grows : before.journal.length + count ≤ machine.journal.length)
    (abreast : Abreast depth stack machine other run runs) :
    Abreast (depth + 3 * count) stack before before' run' runs' := by
  simp only [Abreast, goes]
  rcases abreast with sunk | ⟨further, ended, settles, meets⟩
  · exact Or.inl (sunk.behind count grows)
  · have settles' : SettlesOn runs' before' ended := settles.map (f := id) goes'
    exact Or.inr ⟨(Nat.le_of_add_right_le grows).trans further, ended, settles', meets⟩

theorem Abreast.resume {stack : List Nat} {machine other after after' : Machine} {run next : Run α}
    {runs nexts : Nat → Run α} (abreast : Abreast depth stack after after' next nexts)
    (grows : machine.journal.length ≤ after.journal.length) (goes : run machine = next after)
    (settles : ∃ enough, ∀ depth, enough ≤ depth → runs depth other = nexts depth after') :
    Abreast depth stack machine other run runs := by
  obtain ⟨enough, same⟩ := settles
  simp only [Abreast, goes]
  rcases abreast with sunk | ⟨grows', ended, ⟨enough', same'⟩, meets⟩
  · exact Or.inl (sunk.behind 0 grows)
  · refine Or.inr ⟨grows.trans grows', ended, ⟨max enough enough', fun depth deep => ?_⟩, meets⟩
    rw [same depth ((le_max_left _ _).trans deep)]
    exact same' depth ((le_max_right _ _).trans deep)

namespace Follows

/-- Runs of some depth may use those of the depth below. -/
theorem deepen {run : Run α} {runs other : Nat → Run α}
    (made : ∀ depth, other (depth + 1) = runs depth) (follows : Follows depth run runs) :
    Follows depth run other := by
  intro machine machine' stack beside
  refine (follows machine machine' stack beside).imp_right ?_
  rintro ⟨grows, ended, settles, meets⟩
  exact ⟨grows, ended, settles.deepen fun depth => congrFun (made depth) machine', meets⟩

theorem exhausted (runs : Nat → Run α) : Follows 0 (Run.fail (.of .unbounded)) runs :=
  fun machine _ _ _ => Or.inl (Sunk.exhausted machine)

theorem mono {less : Nat} {run : Run α} {runs : Nat → Run α} (lesser : less ≤ depth)
    (follows : Follows depth run runs) : Follows less run runs :=
  fun machine other stack beside =>
    (follows machine other stack beside).imp_left fun sunk => sunk.mono lesser

theorem pure {a : α} (bears : Bears Careful a) :
    Follows depth (Pure.pure a) fun _ => Pure.pure a :=
  fun _ other _ beside => .ok rfl (.const (Pure.pure a) other) bears beside le_rfl

theorem bind {run : Run α} {runs : Nat → Run α} {rest : α → Run β} {rests : α → Nat → Run β}
    (first : Follows depth run runs)
    (later : ∀ a, Bears Careful a → Follows depth (rest a) (rests a)) :
    Follows depth (run >>= rest) fun depth => runs depth >>= fun a => rests a depth := by
  intro machine other stack beside
  rcases first machine other stack beside with sunk | ⟨grows, end', settles, meets⟩
  · exact Or.inl sunk.bind
  simp only [Abreast, Bind.bind, EStateM.bind]
  cases result : run machine with
  | error failure after =>
      rw [result] at meets grows
      cases end' with
      | ok b after' => exact meets.elim
      | error failure' after' =>
          -- both fail, so neither comes to what would have followed
          obtain ⟨rfl, between⟩ := meets
          exact Or.inr ⟨grows, _, settles.bind_error, rfl, between⟩
  | ok a after =>
      rw [result] at meets grows
      cases end' with
      | error failure' after' => exact meets.elim
      | ok b after' =>
          obtain ⟨rfl, bears, between⟩ := meets
          rcases later b bears after after' stack between with sunk | ⟨grows', end', settles', met⟩
          -- what the first run noted is noted still where the depth of the rest runs out
          · exact Or.inl (sunk.behind 0 grows)
          · exact Or.inr ⟨grows.trans grows', end', settles.bind_ok settles', met⟩

theorem rescue {run : Run α} {runs : Nat → Run α} {rest : α → Run β} {rests : α → Nat → Run β}
    {spare : String → Run β} {spares : String → Nat → Run β} (first : Follows depth run runs)
    (later : ∀ a, Bears Careful a → Follows depth (rest a) (rests a))
    (otherwise : ∀ message, Follows depth (spare message) (spares message)) :
    Follows depth (Script.rescue Failure.caught? run rest spare) fun depth =>
      Script.rescue Failure.caught? (runs depth) (fun a => rests a depth)
        fun message => spares message depth := by
  -- failures that meet are caught on both sides or on none; one that is caught has not sunk
  intro machine other stack beside
  rcases first machine other stack beside with sunk | ⟨grows, ended, settles, meets⟩
  · exact Or.inl sunk.rescue
  cases result : run machine with
  | ok a after =>
      rw [result] at meets grows
      cases ended with
      | error failure' after' => exact meets.elim
      | ok b after' =>
          obtain ⟨rfl, bears, between⟩ := meets
          have goesOn := later b bears after after' stack between
          refine goesOn.resume grows (Script.rescue_ok result) ?_
          exact settles.imp fun enough same depth deep => Script.rescue_ok (same depth deep)
  | error failure after =>
      rw [result] at meets grows
      cases ended with
      | ok b after' => exact meets.elim
      | error failure' after' =>
          obtain ⟨rfl, between⟩ := meets
          cases caught : failure'.caught? with
          | none =>
              simp only [Abreast, Script.rescue_uncaught result caught]
              refine Or.inr ⟨grows, .error failure' after', ?_, rfl, between⟩
              exact settles.imp fun enough same depth deep =>
                Script.rescue_uncaught (same depth deep) caught
          | some message =>
              refine (otherwise message after after' stack between).resume grows
                (Script.rescue_caught result caught) ?_
              exact settles.imp fun enough same depth deep =>
                Script.rescue_caught (same depth deep) caught

theorem fail (failure : Failure) :
    Follows depth (Run.fail failure : Run α) fun _ => Run.fail failure :=
  fun _ other _ beside => Or.inr ⟨le_rfl, _, .const (Run.fail failure) other, rfl, beside⟩

theorem note (event : Event) : Follows depth (Run.note event) fun _ => Run.note event :=
  fun _ other _ beside =>
    .ok rfl (.const (Run.note event) other) bears_unit (beside.note event) (Nat.le_succ _)

theorem of_arena {body : Run α} (step : ∀ arena stack, arena.Bears Careful stack →
    ∃ a after, (∀ machine : Machine, machine.arena = arena →
      body machine = .ok a { machine with arena := after }) ∧
      after.Bears Careful stack ∧ Bears Careful a) : Follows depth body fun _ => body := by
  intro machine other stack beside
  obtain ⟨a, after, result, bears, borne⟩ := step machine.arena stack beside.bears
  have settles : SettlesOn (fun _ => body) other (.ok a { other with arena := after }) :=
    result other beside.arena_eq ▸ .const body other
  exact .ok (result machine rfl) settles borne (beside.withArena bears) le_rfl

theorem resolve (name : String) : Follows depth (Run.resolve name) fun _ => Run.resolve name := by
  refine of_arena fun arena stack bears => ?_
  obtain ⟨found, answer, borne⟩ := bears.resolve_ok name
  refine ⟨found, arena, ?_, bears, borne⟩
  rintro machine rfl
  simp only [Run.resolve, answer]

theorem declare (name : String) {value : Value} (new : Bears Careful value) :
    Follows depth (Evaluation.declare name value) fun _ => Evaluation.declare name value := by
  refine of_arena fun arena stack bears => ?_
  obtain ⟨after, result, kept⟩ := bears.declare_ok name new
  refine ⟨(), after, ?_, kept, bears_unit⟩
  rintro machine rfl
  exact onArena_ok result

theorem assign (name : String) {value : Value} (new : Bears Careful value) :
    Follows depth (Run.onArena (Arena.assign name value))
      fun _ => Run.onArena (Arena.assign name value) := by
  refine of_arena fun arena stack bears => ?_
  obtain ⟨after, result, kept⟩ := bears.assign_ok name new
  refine ⟨(), after, ?_, kept, bears_unit⟩
  rintro machine rfl
  exact onArena_ok result

theorem carry (value : Value) :
    Follows depth (Evaluation.carry value) fun _ => Evaluation.carry value := by
  refine of_arena fun arena stack bears =>
    ⟨(), arena.carry value, ?_, bears.carry value, bears_unit⟩
  rintro machine rfl
  rfl

theorem capture : Follows depth Run.capture fun _ => Run.capture := by
  -- the scope that is captured is the innermost one entered, which is local
  refine of_arena fun arena stack bears => ?_
  have entered : arena.stack = stack := bears.intact.sound.stack_eq
  cases stack with
  | nil =>
      refine ⟨none, arena, ?_, bears, bears_of_nil rfl rfl⟩
      rintro machine rfl
      simp [Run.capture, Arena.innermost?, entered]
  | cons id rest =>
      have here : id ≠ Arena.globalId := by
        rintro rfl
        exact bears.intact.sound.entered_local List.mem_cons_self
      refine ⟨some id, arena.pin id, ?_, bears.capture, fun other member => ?_,
        List.forall_mem_nil _⟩
      · rintro machine rfl
        simp [Run.capture, Arena.innermost?, entered]
      · obtain rfl := Option.mem_some.mp (Option.mem_toList.mp member)
        exact here

/-- The right operand is evaluated by the other evaluator alone. -/
theorem of_idles {γ : Type} {runs : Nat → Run γ} {a : α} {rest : γ → Run α}
    (bears : Bears Careful a) (idles : Idles runs) (same : ∀ b, rest b = Pure.pure a) :
    Follows depth (Pure.pure a) fun depth => runs depth >>= rest := by
  intro machine other stack beside
  have sound : other.arena.Sound stack := beside.arena_eq ▸ beside.bears.intact.sound
  obtain ⟨b, after, idled, settles, _⟩ := idles other stack sound
  have ends : SettlesOn (fun _ => rest b) after (.ok a after) := by
    rw [same]
    exact .const _ _
  exact .ok rfl (settles.bind_ok ends) bears (beside.idled_right idled)
    le_rfl

/-- The right operand is evaluated by this evaluator alone. -/
theorem of_still {γ : Type} {run : Run γ} {a : α} {rest : γ → Run α} (bears : Bears Careful a)
    (still : Still depth run) (same : ∀ b, rest b = Pure.pure a) :
    Follows depth (run >>= rest) fun _ => Pure.pure a := by
  intro machine other stack beside
  rcases still machine stack beside.bears.intact.sound with sunk | ⟨b, after, idled, result⟩
  · exact Or.inl sunk.bind
  · have ended : (run >>= rest) machine = .ok a after := by
      simp only [Bind.bind, EStateM.bind, result, same]
      rfl
    exact .ok ended (.const (Pure.pure a) other) bears (beside.idled_left idled) idled.grows

end Follows

theorem Abreast.inScope (upkeep : Arena.Upkeep) (enter : Arena → Arena) {body : Run α}
    {bodies : Nat → Run α} (follows : Follows depth body bodies) {machine other : Machine}
    {stack : List Nat} (beside : machine.Beside stack other) {id : Nat}
    (entered : (enter machine.arena).Bears Careful (id :: stack)) :
    Abreast depth stack machine other (Run.inScope upkeep enter body)
      fun depth => Run.inScope upkeep enter (bodies depth) := by
  -- the scope that was entered is left however the body ends
  rcases follows _ _ _ (beside.change entered) with sunk | ⟨grows, ended, ⟨enough, same⟩, meets⟩
  · exact Or.inl sunk.inScope
  cases result : body { machine with arena := enter machine.arena } with
  | ok a after =>
      rw [result] at grows meets
      cases ended with
      | error failure' after' => exact meets.elim
      | ok b after' =>
          obtain ⟨rfl, borne, between⟩ := meets
          obtain ⟨arena, left, kept⟩ := between.bears.pop_ok upkeep
          have left' : Arena.pop upkeep after'.arena = .ok () arena := between.arena_eq ▸ left
          refine .ok (inScope_ok result left) ?_ borne (between.withArena kept) grows
          exact ⟨enough, fun depth deep => inScope_ok (same depth deep) left'⟩
  | error failure after =>
      rw [result] at grows meets
      cases ended with
      | ok b after' => exact meets.elim
      | error failure' after' =>
          obtain ⟨rfl, between⟩ := meets
          obtain ⟨arena, left, kept⟩ := between.bears.pop_ok upkeep
          have left' : Arena.pop upkeep after'.arena = .ok () arena := between.arena_eq ▸ left
          simp only [Abreast, inScope_error result left]
          exact Or.inr ⟨grows, _, ⟨enough, fun depth deep => inScope_error (same depth deep) left'⟩,
            rfl, between.withArena kept⟩

end

end Run

end Parlance
