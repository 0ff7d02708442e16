import Parlance.Proofs.Running.Blind
import Parlance.Proofs.Running.Mirror
import Parlance.Proofs.Running.Numbering
import Parlance.Proofs.Session.Composition
import Parlance.Proofs.Session.Collection

/-!
Sessions that start anew. A session that is reset goes on counting its scopes where it was, and does
besides what one does in which nothing but the modules was ever registered: the numbers of its
scopes are others, and nothing that comes of an execution depends on them. For in a session whose
scopes are renumbered, a program whose nodes are moved does what it does otherwise, relabelled, and
leaves the session that is left otherwise, relabelled.
-/

namespace Parlance

/-! ### Executions that mirror others -/

def Session.relabel (r : Relabelling) (session : Session) : Session :=
  { session with arena := session.arena.relabel r }

namespace Session

def Execution.relabel (r : Relabelling) (execution : Execution) : Execution where
  result := execution.result.map (Value.relabel r)
  events := execution.events.map (Event.relabel r)
  strays := execution.strays
  session := execution.session.relabel r

/-- The right execution is the left one relabelled, up to the places in failures. -/
structure Execution.Mirrors (r : Relabelling) (around : Surroundings) (left right : Execution) :
    Prop where
  values : ∀ value, left.result = .ok value → right.result = .ok (value.relabel r)
  failures : ∀ failure, left.result = .error failure →
    ∃ failure', failure.Mirrored r around failure' ∧ right.result = .error failure'
  events_eq : right.events = left.events.map (Event.relabel r)
  strays_eq : right.strays = left.strays
  session_eq : right.session = left.session.relabel r

theorem Execution.Mirrors.eq {scope : Nat → Nat} {around : Surroundings} {left right : Execution}
    (mirrors : left.Mirrors ⟨scope, id⟩ around right) : right = left.relabel ⟨scope, id⟩ := by
  have result : right.result = left.result.map (Value.relabel ⟨scope, id⟩) := by
    cases ended : left.result with
    | ok value => exact mirrors.values value ended
    | error failure =>
        obtain ⟨failure', mirrored, result⟩ := mirrors.failures failure ended
        rw [result, mirrored.eq]
        rfl
  cases right
  simp only [Execution.relabel, Execution.mk.injEq]
  exact ⟨result, mirrors.events_eq, mirrors.strays_eq, mirrors.session_eq⟩

section

variable {r : Relabelling} {session : Session}

theorem parse_relabel (session : Session) (source : String) (sourceName : Option String) :
    (session.relabel r).parse source sourceName =
      ((session.parse source sourceName).1, (session.parse source sourceName).2.relabel r) := by
  -- reading a source does not look at the arena
  have same : (session.relabel r).read source sourceName = session.read source sourceName := rfl
  simp only [parse, same]
  cases session.read source sourceName <;> rfl

theorem Preserved.runIn_mirrors (preserved : Preserved session) (orderly : r.Orderly)
    (around : Surroundings) (same : around.modules = session.modules)
    (follows : session.modules.Follows r) (depth : Nat) (program : Program) :
    (session.runIn around depth program).Mirrors r around
      ((session.relabel r).runIn around depth (program.moved r.place)) := by
  obtain ⟨known, intact⟩ := preserved.intact
  have start : (Machine.ofArena session.arena).arena.Intact known [] := intact
  have genuine : around.modules.Genuine := same ▸ preserved.genuine
  have agrees := Mirror.run_agree orderly genuine (same ▸ follows) program depth known
  have meets := Bond.kept_meets agrees.1 start
  have mirrors := agrees.2 _ start
  have begins : (Machine.ofArena session.arena).relabel r =
      .ofArena (session.relabel r).arena := rfl
  rw [begins] at mirrors
  -- the scopes are left at the end of both runs, so there is nothing to unwind
  cases result : program.run around depth (.ofArena session.arena) with
  | ok value machine =>
      rw [result] at meets mirrors
      obtain ⟨_, more, _, ⟨_, kept⟩, _⟩ := meets
      have outside := kept.sound.stack_eq
      have outside' : (machine.relabel r).arena.stack = [] := by
        simp [Machine.relabel, Arena.relabel, outside]
      rw [runIn_ok result outside, runIn_ok mirrors outside']
      refine ⟨?_, ?_, ?_, rfl, rfl⟩
      · intro value ended
        cases Except.ok.inj ended
        rfl
      · intro failure ended
        cases ended
      · simp [executed, Machine.events, Machine.relabel]
  | error failure machine =>
      rw [result] at meets mirrors
      obtain ⟨_, _, more, _, _, kept⟩ := meets
      obtain ⟨failure', mirrored, result'⟩ := mirrors
      have outside := kept.sound.stack_eq
      have outside' : (machine.relabel r).arena.stack = [] := by
        simp [Machine.relabel, Arena.relabel, outside]
      rw [runIn_error result outside, runIn_error result' outside']
      refine ⟨?_, ?_, ?_, rfl, rfl⟩
      · intro value ended
        cases ended
      · intro failure ended
        cases Except.error.inj ended
        exact ⟨failure', mirrored, rfl⟩
      · simp [executed, Machine.events, Machine.relabel]

end

end Session

/-! ### Starting anew -/

structure Source where
  text : String
  name : Option String

def Relabelling.ofScopes (rename : Nat → Nat) : Relabelling := ⟨rename, id⟩

def Relabelling.shift (distance : Nat) : Relabelling :=
  .ofScopes fun id => if id = Arena.globalId then id else id + distance

theorem Relabelling.shift_orderly (distance : Nat) : (shift distance).Orderly where
  mono := by
    intro low high less
    change (if low = 0 then low else low + distance) < if high = 0 then high else high + distance
    split <;> split <;> omega
  global := rfl
  next id here := by
    change id ≠ 0 at here
    change (if id + 1 = 0 then id + 1 else id + 1 + distance) =
      (if id = 0 then id else id + distance) + 1
    rw [if_neg (Nat.succ_ne_zero id), if_neg here]
    omega

theorem Registry.ScopeBlind.follows {registry : Registry} (blind : registry.ScopeBlind)
    {rename : Nat → Nat} (injective : rename.Injective) :
    registry.Follows (.ofScopes rename) :=
  fun entry member => blind entry member rename injective

namespace Session

/-! ### The modules of a history -/

def Deed.registers : Deed → Bool
  | .register .. | .unregister _ => true
  | _ => false

section

variable {session : Session}

/-- Nothing but registering and forgetting modules changes them. -/
theorem modules_after (session : Session) {deed : Deed} (other : deed.registers = false) :
    (session.after deed).modules = session.modules := by
  cases deed with
  | register name handler => cases other
  | unregister name => cases other
  | parse source sourceName =>
      simp only [after, parse]
      cases session.read source sourceName <;> rfl
  | run depth rounds program source sourceName =>
      obtain ⟨result, ended⟩ := runIn_left session
        (session.surroundings .reclaim rounds source sourceName) depth program
      simp only [after, runWithin, ended]
      rfl
  | execute depth rounds source sourceName =>
      simp only [after, executeWithin, parse]
      cases session.read source sourceName with
      | error failure => rfl
      | ok read =>
          obtain ⟨result, ended⟩ := runIn_left { session with recoveries := read.2 }
            (({ session with recoveries := read.2 } : Session).surroundings .reclaim rounds
              (some source) sourceName) depth read.1
          simp only [runWithin, ended]
          rfl
  | reset => rfl

def unused (settings : Settings) (modules : Registry) : Session :=
  { ofSettings settings with modules }

theorem unused_after (settings : Settings) (session : Session) {deed : Deed}
    (registering : deed.registers = true) :
    (unused settings session.modules).after deed =
      unused settings (session.after deed).modules := by
  cases deed with
  | register name handler =>
      simp only [after, register, unused]
      cases session.modules.register name handler <;> rfl
  | unregister name => rfl
  | parse _ _ | run _ _ _ _ _ | execute _ _ _ _ | reset => cases registering

/-- A session in which only the modules of a history were registered has these, and is fresh. -/
theorem registrations_afterAll (settings : Settings) (deeds : List Deed) :
    afterAll settings (deeds.filter Deed.registers) =
      unused settings (afterAll settings deeds).modules := by
  have go : ∀ session : Session,
      (deeds.filter Deed.registers).foldl after (unused settings session.modules) =
        unused settings (deeds.foldl after session).modules := by
    induction deeds with
    | nil => intro session; rfl
    | cons deed rest ih =>
        intro session
        by_cases registering : deed.registers = true
        · rw [List.filter_cons_of_pos registering, List.foldl_cons, List.foldl_cons,
            unused_after settings session registering]
          exact ih (session.after deed)
        · rw [List.filter_cons_of_neg registering, List.foldl_cons,
            ← modules_after session (Bool.not_eq_true _ ▸ registering)]
          exact ih (session.after deed)
  exact go (.ofSettings settings)

theorem preserved_unused (settings : Settings) {modules : Registry} (genuine : modules.Genuine) :
    Preserved (unused settings modules) :=
  ⟨genuine, ∅, .empty⟩

theorem nextId_afterAll (settings : Settings) (deeds : List Deed) :
    Arena.globalId < (afterAll settings deeds).arena.nextId := by
  have start : Arena.globalId < (ofSettings settings).arena.nextId := Nat.zero_lt_one
  refine afterAll_keeps (P := fun session => Arena.globalId < session.arena.nextId) start ?_
  intro session counted deed _
  apply after_keeps (P := fun session => Arena.globalId < session.arena.nextId) counted
  · intro name handler after _ result
    obtain ⟨modules, _, rfl⟩ := register_ok result
    exact counted
  · intro name
    exact counted
  · intro recoveries
    exact counted
  · intro recoveries around depth program _
    obtain ⟨result, ended⟩ := runIn_left { session with recoveries } around depth program
    rw [ended]
    have run := (Frame.numbering_primitives around).keeps_run program depth
      (.ofArena session.arena)
    refine Nat.lt_of_lt_of_le counted (Nat.le_trans run ?_)
    exact (Arena.unwind_nextId _ around.upkeep).ge
  · exact counted

end

/-! ### Executions one after another -/

def executeAll (depth rounds : Nat) (session : Session) : List Source → List Execution
  | [] => []
  | source :: rest =>
      let execution := session.executeWithin depth rounds source.text source.name
      execution :: executeAll depth rounds execution.session rest

section

variable {session : Session}

theorem Preserved.execute (preserved : Preserved session) (depth rounds : Nat) (source : Source) :
    Preserved (session.executeWithin depth rounds source.text source.name).session :=
  preserved.after (show Deed.Genuine (.execute depth rounds source.text source.name) from trivial)

theorem modules_execute (session : Session) (depth rounds : Nat) (source : Source) :
    (session.executeWithin depth rounds source.text source.name).session.modules =
      session.modules :=
  modules_after session
    (show Deed.registers (.execute depth rounds source.text source.name) = false from rfl)

/-- Where scopes have other numbers an execution comes to the same, but for these numbers. -/
theorem Preserved.execute_renamed (preserved : Preserved session) {rename : Nat → Nat}
    (orderly : (Relabelling.ofScopes rename).Orderly)
    (follows : session.modules.Follows (.ofScopes rename)) (depth rounds : Nat) (source : Source) :
    (session.relabel (.ofScopes rename)).executeWithin depth rounds source.text source.name =
      (session.executeWithin depth rounds source.text source.name).relabel (.ofScopes rename) := by
  simp only [executeWithin, parse_relabel]
  simp only [parse]
  cases session.read source.text source.name with
  | error failure => rfl
  | ok read =>
      have reading : Preserved { session with recoveries := read.2 } :=
        ⟨preserved.genuine, preserved.intact⟩
      have mirrors := reading.runIn_mirrors orderly
        (({ session with recoveries := read.2 } : Session).surroundings .reclaim rounds
          (some source.text) source.name) rfl follows depth read.1
      have same := mirrors.eq
      rw [show (Relabelling.ofScopes rename).place = id from rfl, Program.moved_id] at same
      exact same

theorem Preserved.executeAll_renamed (preserved : Preserved session) {rename : Nat → Nat}
    (orderly : (Relabelling.ofScopes rename).Orderly)
    (follows : session.modules.Follows (.ofScopes rename)) (depth rounds : Nat)
    (sources : List Source) :
    (session.relabel (.ofScopes rename)).executeAll depth rounds sources =
      (session.executeAll depth rounds sources).map (Execution.relabel (.ofScopes rename)) := by
  induction sources generalizing session with
  | nil => rfl
  | cons source rest ih =>
      have first := preserved.execute_renamed orderly follows depth rounds source
      have later := ih (preserved.execute depth rounds source)
        ((modules_execute session depth rounds source).symm ▸ follows)
      simp only [executeAll, List.map_cons, first]
      exact congrArg _ later

end

/-- Two executions come to the same but for the numbers of scopes. Lines, failures and recoveries
do not show these; values, requests to handlers, global bindings and the arena do. -/
structure Execution.Renamed (rename : Nat → Nat) (left right : Execution) : Prop where
  lines_eq : right.events.filterMap Event.line? = left.events.filterMap Event.line?
  failures : ∀ failure, right.result = .error failure ↔ left.result = .error failure
  recoveries_eq : right.session.recoveries = left.session.recoveries
  strays_eq : right.strays = left.strays
  result_eq : right.result = left.result.map (Value.relabel (.ofScopes rename))
  events_eq : right.events = left.events.map (Event.relabel (.ofScopes rename))
  globals_eq : right.session.arena.globals =
    Value.relabelEntries (.ofScopes rename) left.session.arena.globals
  arena_eq : right.session.arena = left.session.arena.relabel (.ofScopes rename)

theorem Event.line?_relabel (r : Relabelling) (event : Event) :
    (event.relabel r).line? = event.line? := by
  cases event <;> rfl

theorem Execution.renamed_relabel {rename : Nat → Nat}
    (orderly : (Relabelling.ofScopes rename).Orderly) (execution : Execution) :
    execution.Renamed rename (execution.relabel (.ofScopes rename)) where
  lines_eq := by
    simp only [relabel, List.filterMap_map, Function.comp_def, Event.line?_relabel]
  failures failure := by
    simp only [relabel]
    cases execution.result <;> simp [Except.map]
  recoveries_eq := rfl
  strays_eq := rfl
  result_eq := rfl
  events_eq := rfl
  globals_eq := Arena.globals_relabel orderly execution.session.arena
  arena_eq := rfl

theorem renamed_lines_eq {rename : Nat → Nat} {left right : List Execution}
    (renamed : List.Forall₂ (Execution.Renamed rename) left right) :
    right.map (fun execution => execution.events.filterMap Event.line?) =
      left.map fun execution => execution.events.filterMap Event.line? := by
  induction renamed with
  | nil => rfl
  | cons first _ ih => rw [List.map_cons, List.map_cons, first.lines_eq, ih]

/-- A reset gives a clean slate. Whatever a session was used for, once it is reset any sources come
to what they come to where only its modules were ever registered, but for the numbers of scopes;
the handlers must not look at these. So no line, failure or branch depends on them. -/
theorem reset_starts_anew (settings : Settings) (deeds : List Deed) (depth rounds : Nat)
    (blind : (afterAll settings deeds).modules.ScopeBlind) :
    let cleared := (afterAll settings deeds).reset
    let fresh := afterAll settings (deeds.filter Deed.registers)
    ∃ rename : Nat → Nat, rename.Injective ∧ ∀ sources : List Source,
      List.Forall₂ (Execution.Renamed rename) (fresh.executeAll depth rounds sources)
        (cleared.executeAll depth rounds sources) := by
  intro cleared fresh
  let distance := (afterAll settings deeds).arena.nextId - 1
  let rename := (Relabelling.shift distance).scope
  have orderly : (Relabelling.ofScopes rename).Orderly := Relabelling.shift_orderly distance
  have counted := nextId_afterAll settings deeds
  have renewed : fresh = unused settings (afterAll settings deeds).modules :=
    registrations_afterAll settings deeds
  -- the cleared session is the fresh one, with the scopes numbered on from where it was
  have shifted : cleared = fresh.relabel (.ofScopes rename) := by
    have empty := Arena.relabel_empty orderly 1
    have next : rename 1 = (afterAll settings deeds).arena.nextId := by
      change 1 + ((afterAll settings deeds).arena.nextId - 1) = _
      exact Nat.add_sub_cancel' counted
    have same : (afterAll settings deeds).settings = settings := settings_afterAll settings deeds
    rw [renewed]
    simp only [cleared, reset, Session.relabel, unused, ofSettings, same, Arena.reset, ← next]
    exact congrArg (Session.mk settings (afterAll settings deeds).modules · []) empty.symm
  refine ⟨rename, orderly.mono.injective, fun sources => ?_⟩
  have preserved : Preserved fresh := renewed ▸ preserved_unused settings blind.genuine
  have follows : fresh.modules.Follows (.ofScopes rename) := by
    rw [renewed]
    exact blind.follows orderly.mono.injective
  rw [shifted, preserved.executeAll_renamed orderly follows depth rounds sources,
    List.forall₂_map_right_iff]
  exact List.forall₂_same.mpr fun execution _ => execution.renamed_relabel orderly

/-- A session that has numbered a scope goes on counting behind the reset. -/
theorem keeper_starts_anew :
    let deeds := [.run 4 0 [keeper] none none, .register "m" (some .apply)]
    let cleared := (afterAll .standard deeds).reset
    let fresh := afterAll .standard (deeds.filter Deed.registers)
    (afterAll .standard deeds).modules.ScopeBlind ∧
      fresh.arena.nextId = 1 ∧ cleared.arena.nextId = 2 ∧
      ∃ rename : Nat → Nat, rename.Injective ∧ ∀ sources : List Source,
        List.Forall₂ (Execution.Renamed rename) (fresh.executeAll 4 0 sources)
          (cleared.executeAll 4 0 sources) := by
  intro deeds cleared fresh
  have run : afterAll .standard deeds =
      ((afterAll .standard []).executed (.ok kept) keeping).session.after
        (.register "m" (some .apply)) :=
    congrArg (fun execution : Execution =>
      execution.session.after (.register "m" (some .apply))) keeper_run
  have blind : (afterAll .standard deeds).modules.ScopeBlind := by
    rw [run]
    intro entry member
    have only : entry = ("m", ⟨0, .apply⟩) := List.mem_singleton.mp member
    subst only
    exact Handler.apply_blind.scopeBlind
  have counted : cleared.arena.nextId = 2 := by
    simp only [cleared, run]
    rfl
  exact ⟨blind, rfl, counted, reset_starts_anew .standard deeds 4 0 blind⟩

def telling : Handler := fun request =>
  match request.arguments with
  | .function closure :: _ => .emit (toString (closure.scope.getD Arena.globalId)) (.give .null)
  | _ => .give .null

def tellsScope : Source := ⟨"\x7b act f \x7b \x7d net.go(f) \x7d", none⟩

def toldBefore : List Deed :=
  [.register "net" (some telling), .run 4 0 [.block [] .start] none none]

def toldAnew : List Deed := toldBefore.filter Deed.registers

/-- A handler that looks at the number of a scope tells a session that was reset from a fresh
one. -/
theorem told_scope_differs :
    ((afterAll .standard toldAnew).executeAll 8 0 [tellsScope]).map
        (fun execution => execution.events.filterMap Event.line?) = [["1"]] ∧
      ((afterAll .standard toldBefore).reset.executeAll 8 0 [tellsScope]).map
        (fun execution => execution.events.filterMap Event.line?) = [["2"]] ∧
      ¬ ∃ rename : Nat → Nat, rename.Injective ∧ ∀ sources : List Source,
        List.Forall₂ (Execution.Renamed rename)
          ((afterAll .standard toldAnew).executeAll 8 0 sources)
          ((afterAll .standard toldBefore).reset.executeAll 8 0 sources) := by
  obtain ⟨anew, cleared⟩ :
      ((afterAll .standard toldAnew).executeAll 8 0 [tellsScope]).map
          (fun execution => execution.events.filterMap Event.line?) = [["1"]] ∧
        ((afterAll .standard toldBefore).reset.executeAll 8 0 [tellsScope]).map
          (fun execution => execution.events.filterMap Event.line?) = [["2"]] := by decide +kernel
  refine ⟨anew, cleared, ?_⟩
  rintro ⟨rename, -, same⟩
  have lines := renamed_lines_eq (same [tellsScope])
  rw [anew, cleared] at lines
  exact absurd lines (by decide)

end Session

end Parlance
