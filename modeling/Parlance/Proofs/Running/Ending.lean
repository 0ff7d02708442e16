import Parlance.Proofs.Running.Cutoff

/-!
Runs under a limit of steps end. With few steps left a run can nest and go round only so often
before it visits a node, so bounds that are wide enough for the steps that are left are never met.
-/

namespace Parlance

namespace Run

variable {α β : Type}

/-- Two runs from a machine come to one end, and that is no bound; steps are not taken back. -/
structure Settles (machine : Machine) (result result' : EStateM.Result Failure Machine α) :
    Prop where
  same : result = result'
  bounded : ∀ after, result ≠ .error (.of .unbounded) after
  counts : machine.steps ≤ (left result).steps

/-- Two runs with fewer than so many steps left come to one end. -/
def Ends (limit few : Nat) (run run' : Run α) : Prop :=
  ∀ machine, limit < machine.steps + few → Settles machine (run machine) (run' machine)

section

variable {limit few : Nat} {run run' : Run α}

theorem Ends.mono (ends : Ends limit few run run') {fewer : Nat} (less : fewer ≤ few) :
    Ends limit fewer run run' :=
  fun machine steps => ends machine (by omega)

theorem ends_still {run : Run α}
    (bounded : ∀ machine after, run machine ≠ .error (.of .unbounded) after)
    (counts : ∀ machine, (left (run machine)).steps = machine.steps) :
    Ends limit few run run :=
  fun machine _ => ⟨rfl, bounded machine, (counts machine).ge⟩

theorem ends_pure (value : α) : Ends limit few (pure value) (pure value) :=
  ends_still (by rintro _ _ ⟨⟩) fun _ => rfl

theorem ends_bind {rest rest' : α → Run β} (first : Ends limit few run run')
    (later : ∀ a, Ends limit few (rest a) (rest' a)) :
    Ends limit few (run >>= rest) (run' >>= rest') := by
  intro machine steps
  obtain ⟨same, bounded, counts⟩ := first machine steps
  simp only [bind, EStateM.bind, ← same]
  cases result : run machine with
  | ok a after =>
      simp only [result, left] at counts
      -- what follows has no more steps left than the run had
      obtain ⟨same', bounded', counts'⟩ := later a after (by omega)
      exact ⟨same', bounded', counts.trans counts'⟩
  | error failure after =>
      rw [result] at bounded counts
      change Settles machine (.error failure after) (.error failure after)
      refine ⟨rfl, ?_, counts⟩
      rintro last ⟨⟩
      exact bounded after rfl

/-- A visit takes a step of those that are left, and where none is left it fails. -/
theorem ends_visit {budget : Option Nat} (limited : budget = some limit) {kind : Node.Kind}
    {place : Place} {rest rest' : Unit → Run α}
    (later : ∀ fewer, few = fewer + 1 → Ends limit fewer (rest ()) (rest' ())) :
    Ends limit few (visit budget kind place >>= rest) (visit budget kind place >>= rest') := by
  intro machine steps
  simp only [bind, EStateM.bind]
  rcases visit_cases budget kind place machine with ⟨_, _, _, result⟩ | ⟨within, result⟩
  · rw [result]
    exact ⟨rfl, by rintro _ ⟨⟩, Nat.le_succ _⟩
  · rw [result]
    have more := within limit limited
    have step : (machine.visit kind place).steps = machine.steps + 1 := rfl
    change Settles machine (rest () (machine.visit kind place))
      (rest' () (machine.visit kind place))
    obtain ⟨same, bounded, counts⟩ := later (few - 1) (by omega) (machine.visit kind place)
      (by omega)
    exact ⟨same, bounded, by omega⟩

theorem ends_inScope {upkeep : Arena.Upkeep} {enter : Arena → Arena} {body body' : Run α}
    (ends : Ends limit few body body') :
    Ends limit few (inScope upkeep enter body) (inScope upkeep enter body') := by
  intro machine steps
  obtain ⟨same, bounded, counts⟩ := ends { machine with arena := enter machine.arena } steps
  refine ⟨by simp only [inScope, same], ?_, by rw [left_inScope]; exact counts⟩
  intro after
  simp only [inScope, onArena]
  cases result : body { machine with arena := enter machine.arena } with
  | ok value inner =>
      simp only
      cases Arena.pop upkeep inner.arena with
      | ok _ _ => rintro ⟨⟩
      | error _ _ => rintro ⟨⟩
  | error failure inner =>
      rw [result] at bounded
      simp only
      cases Arena.pop upkeep inner.arena with
      | ok _ arena =>
          intro stopped
          cases stopped
          exact bounded inner rfl
      | error _ _ => rintro ⟨⟩

end

/-- The comparison of two runs with few steps left; it does not ask what values capture. -/
abbrev ending (limit few : Nat) : Comparison where
  Agree _ _ run run' := Ends limit few run run'
  value _ := ends_pure _
  andThen first later :=
    ends_bind first fun a => later Set.univ (Set.subset_univ _) a (held_univ a)

end Run

namespace Evaluation

open Run

variable {limit few : Nat} {around : Surroundings}

theorem ends_onArena {α : Type} (action : Arena.Action α) :
    Ends limit few (onArena action) (onArena action) := by
  refine ends_still (fun machine after => ?_) fun machine => by rw [left_onArena]
  simp only [onArena]
  cases action machine.arena <;> rintro ⟨⟩

theorem ending_links (unhosted : ∀ name, around.modules.has name = false) (rounds : Nat) :
    (ending limit few).Links around { around with rounds } where
  settings := rfl
  hosts _ := rfl
  -- of the primitives only a visit takes a step; the others leave the count as it is
  visit _ _ kind place := by
    intro machine steps
    change Settles machine (Run.visit around.budget kind place machine)
      (Run.visit around.budget kind place machine)
    rcases visit_cases around.budget kind place machine with ⟨_, _, _, result⟩ | ⟨_, result⟩
    · rw [result]
      exact ⟨rfl, by rintro _ ⟨⟩, Nat.le_succ _⟩
    · rw [result]
      exact ⟨rfl, by rintro _ ⟨⟩, Nat.le_succ _⟩
  resolve _ _ name := by
    refine ends_still (fun machine after => ?_) fun machine => by rw [left_resolve]
    simp only [resolve]
    cases machine.arena.resolve name <;> rintro ⟨⟩
  declare _ _ name value _ := ends_onArena _
  assign _ _ name value _ := ends_onArena _
  capture _ _ := by
    refine ends_still (fun machine after => ?_) fun machine => ?_
    · simp only [capture]
      cases machine.arena.innermost? <;> rintro ⟨⟩
    · simp only [capture]
      cases machine.arena.innermost? <;> rfl
  lapse _ _ cause place value _ _ := by
    refine ends_still (fun machine after => ?_) fun machine => ?_
    · split <;> rintro ⟨⟩
    · split <;> rfl
  dispatch _ _ _ _ _ request hosted := by simp [unhosted] at hosted
  inFresh _ _ _ _ ends := by
    refine ends_inScope (ends_bind (ends 0) fun outcome => ?_)
    refine ends_bind (ends_still (by rintro _ _ ⟨⟩) fun _ => rfl) fun _ => ?_
    exact ends_pure _
  inCaptured _ _ closure _ _ _ ends := by
    intro machine steps
    cases scope : closure.scope with
    | none =>
        rw [inCaptured_none scope, inCaptured_none scope]
        exact ends [] machine steps
    | some id =>
        by_cases live : machine.arena.isLive id = true
        · rw [inCaptured_entered scope live, inCaptured_entered scope live]
          exact ends_inScope (ends []) machine steps
        · rw [inCaptured_missed scope live, inCaptured_missed scope live]
          obtain ⟨same, bounded, counts⟩ :=
            ends [] { machine with strays := closure.name :: machine.strays } steps
          exact ⟨same, bounded, counts⟩
  tidy _ value _ := by
    refine ends_bind (ends_onArena _) fun _ => ?_
    exact ends_pure _
  emit _ _ line := ends_still (by rintro _ _ ⟨⟩) fun _ => rfl

/-! ### How deep and how long a run goes on -/

variable {rounds : Nat} {inner inner' : Runner}

theorem pairs_mono (parts : (ending limit few).Pairs inner inner') {fewer : Nat}
    (less : fewer ≤ few) : (ending limit fewer).Pairs inner inner' where
  eval known stack expr := (parts.eval known stack expr).mono less
  exec known stack stmt := (parts.exec known stack stmt).mono less
  call known stack function arguments held helds :=
    (parts.call known stack function arguments held helds).mono less

section

variable (limited : around.budget = some limit)
variable (unhosted : ∀ name, around.modules.has name = false)

include limited unhosted

theorem eval_ends (parts : ∀ fewer, few = fewer + 1 → (ending limit fewer).Pairs inner inner')
    (expr : Expr) :
    Ends limit few (eval around inner expr) (eval { around with rounds } inner' expr) := by
  -- the visit of an expression leaves one step less for its parts
  refine ends_visit limited fun fewer less => ?_
  exact Comparison.compute_agree (ending_links unhosted rounds).toQuiet (parts fewer less) expr
    Set.univ []

omit limited unhosted in
theorem execGuarded_visit (around : Surroundings) (inner : Runner) (guard : Expr)
    (body : List Stmt) (left index : Nat) :
    execGuarded around (runner around inner) guard body (left + 1) index =
      (visit around guard.kind guard.place >>= fun _ =>
        compute around inner guard >>= fun value =>
          if value.toBool then
            round around (runner around inner) index none body >>= fun outcome =>
              if outcome.returned then pure outcome
              else execGuarded around (runner around inner) guard body left (index + 1)
          else pure .normal) := by
  rw [execGuarded]
  exact bind_assoc _ _ _

/-- Every round of a guarded loop visits the guard, so there are fewer rounds than steps left. -/
theorem execGuarded_ends (parts : (ending limit few).Pairs inner inner')
    (execs : ∀ stmt, Ends limit few (exec around inner stmt)
      (exec { around with rounds } inner' stmt)) (guard : Expr) (body : List Stmt)
    {long long' : Nat} (enough : few < long) (enough' : few < long') (index : Nat) :
    Ends limit few (execGuarded around (runner around inner) guard body long index)
      (execGuarded { around with rounds } (runner { around with rounds } inner') guard body long'
        index) := by
  -- each round takes a step at its guard, so the steps left bound the rounds
  induction few generalizing long long' index with
  | zero =>
      obtain ⟨less, rfl⟩ := Nat.exists_eq_add_one.mpr enough
      obtain ⟨less', rfl⟩ := Nat.exists_eq_add_one.mpr enough'
      rw [execGuarded_visit, execGuarded_visit]
      exact ends_visit limited (by rintro _ ⟨⟩)
  | succ few ih =>
      obtain ⟨less, rfl⟩ := Nat.exists_eq_add_one.mpr (Nat.zero_lt_of_lt enough)
      obtain ⟨less', rfl⟩ := Nat.exists_eq_add_one.mpr (Nat.zero_lt_of_lt enough')
      rw [execGuarded_visit, execGuarded_visit]
      refine ends_visit limited fun fewer same => ?_
      obtain rfl : few = fewer := by omega
      have later := pairs_mono parts (Nat.le_succ few)
      have goes := fun stmt => (execs stmt).mono (Nat.le_succ few)
      have quiet : (ending limit few).Quiet around { around with rounds } :=
        (ending_links unhosted rounds).toQuiet
      refine ends_bind (Comparison.compute_agree quiet later guard Set.univ []) fun value => ?_
      by_cases going : value.toBool = true
      · simp only [going, ↓reduceIte]
        refine ends_bind (Comparison.round_agree quiet (fun _ _ => goes) index none body Set.univ []
          (by rintro _ ⟨⟩)) fun outcome => ?_
        by_cases returned : outcome.returned = true
        · simp only [returned, ↓reduceIte]
          exact ends_pure _
        · simp only [returned]
          exact ih later goes (by omega) (by omega) (index + 1)
      · simp only [going, Bool.false_eq_true, ↓reduceIte]
        exact ends_pure _

/-- The parts nested so deep end alike. A visit is never more than three levels away: a function
runs statements, a statement may be an expression, and an expression is visited. -/
def Ending (limit : Nat) (around : Surroundings) (rounds few : Nat) : Prop :=
  ∀ depth depth', 3 * few + 3 ≤ depth → 3 * few + 3 ≤ depth' →
    (ending limit few).Pairs (.ofDepth around depth) (.ofDepth { around with rounds } depth')

/-- An expression is visited at once. -/
theorem ofDepth_eval_ends (below : ∀ fewer, few = fewer + 1 → Ending limit around rounds fewer)
    {depth depth' : Nat} (deep : 3 * few + 1 ≤ depth) (deep' : 3 * few + 1 ≤ depth')
    (expr : Expr) :
    Ends limit few ((Runner.ofDepth around depth).eval expr)
      ((Runner.ofDepth { around with rounds } depth').eval expr) := by
  obtain ⟨depth, rfl⟩ := Nat.exists_eq_add_one.mpr (Nat.zero_lt_of_lt deep)
  obtain ⟨depth', rfl⟩ := Nat.exists_eq_add_one.mpr (Nat.zero_lt_of_lt deep')
  refine eval_ends limited unhosted (fun fewer less => ?_) expr
  exact below fewer less depth depth' (by omega) (by omega)

theorem ofDepth_exec_ends (enough : few ≤ around.rounds) (enough' : few ≤ rounds)
    (below : ∀ fewer, few = fewer + 1 → Ending limit around rounds fewer) {depth depth' : Nat}
    (deep : 3 * few + 2 ≤ depth) (deep' : 3 * few + 2 ≤ depth') (stmt : Stmt) :
    Ends limit few ((Runner.ofDepth around depth).exec stmt)
      ((Runner.ofDepth { around with rounds } depth').exec stmt) := by
  obtain ⟨depth, rfl⟩ := Nat.exists_eq_add_one.mpr (Nat.zero_lt_of_lt deep)
  obtain ⟨depth', rfl⟩ := Nat.exists_eq_add_one.mpr (Nat.zero_lt_of_lt deep')
  change Ends limit few (exec around (.ofDepth around depth) stmt)
    (exec { around with rounds } (.ofDepth { around with rounds } depth') stmt)
  simp only [exec]
  cases head : stmt.head? with
  | none =>
      -- only an expression is not visited as a statement
      cases stmt with
      | expression expr =>
          refine ends_bind (ofDepth_eval_ends limited unhosted below (by omega) (by omega) expr)
            fun value => ?_
          exact ends_pure _
      | _ => cases head
  | some head =>
      refine ends_visit limited fun fewer less => ?_
      have deeper := below fewer less depth depth' (by omega) (by omega)
      have links : (ending limit fewer).Links around { around with rounds } :=
        ending_links unhosted rounds
      refine Comparison.perform_agree links.toQuiet deeper ?_ stmt ?_ Set.univ []
      · intro guard body _ _
        obtain ⟨depth, rfl⟩ := Nat.exists_eq_add_one.mpr (show 0 < depth by omega)
        obtain ⟨depth', rfl⟩ := Nat.exists_eq_add_one.mpr (show 0 < depth' by omega)
        exact execGuarded_ends limited unhosted
          (below fewer less depth depth' (by omega) (by omega)) (deeper.exec Set.univ []) guard body
          (show fewer < around.rounds by omega) (show fewer < rounds by omega) 0
      · intro what place _
        exact Comparison.execOutput_agree links deeper what place

theorem ending_of_below (enough : few ≤ around.rounds) (enough' : few ≤ rounds)
    (below : ∀ fewer, few = fewer + 1 → Ending limit around rounds fewer) :
    Ending limit around rounds few := by
  -- a function runs its statements one level below it
  intro depth depth' deep deep'
  have quiet : (ending limit few).Quiet around { around with rounds } :=
    (ending_links unhosted rounds).toQuiet
  exact
    { eval := fun _ _ expr => ofDepth_eval_ends limited unhosted below (by omega) (by omega) expr
      exec := fun _ _ stmt =>
        ofDepth_exec_ends limited unhosted enough enough' below (by omega) (by omega) stmt
      call := fun _ _ function arguments held helds => by
        obtain ⟨depth, rfl⟩ := Nat.exists_eq_add_one.mpr (show 0 < depth by omega)
        obtain ⟨depth', rfl⟩ := Nat.exists_eq_add_one.mpr (show 0 < depth' by omega)
        refine Comparison.call_agree quiet (fun _ _ stmt => ?_) function arguments Set.univ []
          (held_univ _) (held_univ _)
        exact ofDepth_exec_ends limited unhosted enough enough' below (by omega) (by omega) stmt }

/-- In surroundings with enough rounds, all that is nested deep enough ends alike. -/
theorem ending_of_rounds (enough : few ≤ around.rounds) (enough' : few ≤ rounds) :
    Ending limit around rounds few := by
  induction few with
  | zero => exact ending_of_below limited unhosted enough enough' (by rintro _ ⟨⟩)
  | succ few ih =>
      refine ending_of_below limited unhosted enough enough' ?_
      rintro _ ⟨⟩
      exact ih (by omega) (by omega)

/-- A run that has taken no step yet ends, and alike in all surroundings that are deep and wide
enough for its limit. -/
theorem run_settles {depth depth' : Nat} (deep : 3 * limit + 6 ≤ depth)
    (deep' : 3 * limit + 6 ≤ depth') (enough : limit + 1 ≤ around.rounds)
    (enough' : limit + 1 ≤ rounds) (program : Program) (machine : Machine) :
    Settles machine (program.run around depth machine)
      (program.run { around with rounds } depth' machine) := by
  have parts := ending_of_rounds limited unhosted enough enough' depth depth' (by omega) (by omega)
  have quiet : (ending limit (limit + 1)).Quiet around { around with rounds } :=
    (ending_links unhosted rounds).toQuiet
  have ends := Comparison.runFrom_agree quiet parts program .void Set.univ (held_univ _)
  exact ends machine (by omega)

end

end Evaluation

end Parlance
