import Parlance.Command.Answer
import Parlance.Proofs.Session.Survival

/-!
Conversations at the prompt. The lines before the one that quits are executed one after the other in
one session, and each is answered with what it emits and what it comes to, as the other commands
report it, on whatever screen. A failure does not end the conversation, save one: a line that runs
without bound, which the other commands report like any failure, breaks the prompt off. Main
statement: `Command.conversation_survives_iff`.
-/

namespace Parlance

/-- The program came to the end of its depth or of its rounds. -/
def Session.Execution.overruns (execution : Session.Execution) : Bool :=
  match execution.result with
  | .ok _ => false
  | .error failed => failed.cause = .unbounded

theorem Session.Execution.overruns_of_unbounded {execution : Session.Execution}
    (failed : execution.result = .error (.of .unbounded)) : execution.overruns = true := by
  rw [overruns, failed]
  rfl

namespace Command

open Session (Execution Resting)

def heard (lines : List String) : List String :=
  lines.takeWhile fun line => !isQuit (Unicode.trim line.toList)

/-- What lines come to: each but the blank ones is executed once, in the session that those before
it left. -/
def turns (session : Session) : List String → List (Option Execution)
  | [] => []
  | line :: rest =>
      if (Unicode.trim line.toList).isEmpty then none :: turns session rest
      else
        let execution := session.execute line (some "<repl>")
        some execution :: turns execution.session rest

theorem length_turns (session : Session) (lines : List String) :
    (turns session lines).length = lines.length := by
  induction lines generalizing session with
  | nil => rfl
  | cons line rest ih =>
      simp only [turns]
      split <;> simp [ih]

theorem turns_filled {session : Session} {line : String} {rest : List String}
    (filled : (Unicode.trim line.toList).isEmpty = false) :
    turns session (line :: rest) = some (session.execute line (some "<repl>")) ::
      turns (session.execute line (some "<repl>")).session rest := by
  simp only [turns, filled, Bool.false_eq_true, ↓reduceIte]

section

variable (screen : Screen)

def report (execution : Execution) : String :=
  Answer.emittedLines screen execution.events ++
    match execution.result with
    | .ok value => Answer.resultLine screen value
    | .error failed => (Answer.ofFailure screen failed).output

/-- A prompt for each turn, and what is shown of it. -/
def transcript : List (Option Execution) → String
  | [] => ""
  | turn :: rest => promptText ++ (turn.elim "" (report screen) ++ transcript rest)

theorem output_execute (settings : Settings) (source sourceName : String) :
    (execute screen settings false source sourceName).output =
      report screen ((Session.ofSettings settings).execute source (some sourceName)) := by
  simp only [execute, report, Bool.false_eq_true, ↓reduceIte, Answer.after]
  cases ((Session.ofSettings settings).execute source (some sourceName)).result with
  | ok value => simp [Answer.success]
  | error failed => rfl

/-- The answer to turns: the transcript and a last prompt, or what there is of it up to the first
turn that runs without bound. -/
def spoken : List (Option Execution) → Answer
  | [] => .success promptText
  | none :: rest => .after promptText (spoken rest)
  | some execution :: rest =>
      if execution.overruns then
        ⟨promptText ++ Answer.emittedLines screen execution.events, .crash .unboundedRun⟩
      else .after (promptText ++ report screen execution) (spoken rest)

end

def Bounded (turns : List (Option Execution)) : Prop :=
  ∀ turn ∈ turns, ∀ execution ∈ turn, execution.overruns = false

instance (turns : List (Option Execution)) : Decidable (Bounded turns) :=
  inferInstanceAs (Decidable (∀ turn ∈ turns, ∀ execution ∈ turn, execution.overruns = false))

section

variable {screen : Screen}

theorem spoken_append {before : List (Option Execution)} (bounded : Bounded before)
    (rest : List (Option Execution)) :
    spoken screen (before ++ rest) = .after (transcript screen before) (spoken screen rest) := by
  induction before with
  | nil => simp [transcript, Answer.after]
  | cons turn before ih =>
      obtain ⟨here, later⟩ := List.forall_mem_cons.mp bounded
      cases turn with
      | none => simp [spoken, transcript, ih later, Answer.after, String.append_assoc]
      | some execution =>
          simp [spoken, transcript, ih later, here execution rfl, Answer.after,
            String.append_assoc]

theorem spoken_of_bounded {turns : List (Option Execution)} (bounded : Bounded turns) :
    spoken screen turns = .success (transcript screen turns ++ promptText) := by
  have answered : spoken screen (turns ++ []) = _ := spoken_append bounded []
  rwa [List.append_nil] at answered

theorem bounded_of_code {turns : List (Option Execution)}
    (ends : (spoken screen turns).ending.code = 0) : Bounded turns := by
  induction turns with
  | nil => exact List.forall_mem_nil _
  | cons turn rest ih =>
      cases turn with
      | none =>
          simp only [spoken, Answer.after] at ends
          exact List.forall_mem_cons.mpr ⟨by simp, ih ends⟩
      | some execution =>
          cases overruns : execution.overruns with
          | true => simp [spoken, overruns, Ending.code] at ends
          | false =>
              simp only [spoken, overruns, Bool.false_eq_true, ↓reduceIte, Answer.after] at ends
              refine List.forall_mem_cons.mpr ⟨fun _ same => ?_, ih ends⟩
              exact Option.some.inj same ▸ overruns

end

/-! ### At the prompt -/

section

variable {screen : Screen} {settings : Settings} {session : Session}

theorem reply_executed {line : String} (goes : isQuit (Unicode.trim line.toList) = false)
    (filled : (Unicode.trim line.toList).isEmpty = false) {execution : Execution}
    (executed : session.execute line (some "<repl>") = execution)
    (owned : ∀ failure, execution.result = .error failure → failure.Owned) :
    reply screen session line =
      if execution.overruns then
        ⟨Answer.emittedLines screen execution.events, .inl (.crash .unboundedRun)⟩
      else ⟨report screen execution, .inr execution.session⟩ := by
  simp only [reply, goes, filled, executed, Bool.false_eq_true, ↓reduceIte]
  cases result : execution.result with
  | ok value => simp [Execution.overruns, report, result]
  | error failed =>
      obtain ⟨cause, location⟩ := failed
      cases cause with
      | arena fault =>
          rcases owned _ result with own | unbounded
          · exact own.elim
          · cases unbounded
      | unbounded => simp [Execution.overruns, result]
      | unexpectedCharacter _ | flaw _ | unresolvedName _ | unresolvedCallee _ | divisionByZero _
      | stepLimit _ | dispatch _ =>
          simp [Execution.overruns, report, result, Answer.ofFailure, Answer.failure]

/-- From rest, what is answered is told by what the lines that are heard come to. -/
theorem converse_eq (resting : Resting settings session) (lines : List String) :
    converse screen session lines = spoken screen (turns session (heard lines)) := by
  induction lines generalizing session with
  | nil => rfl
  | cons line rest ih =>
      by_cases quits : isQuit (Unicode.trim line.toList) = true
      · simp [converse, reply, heard, quits, turns, spoken, Answer.after, Answer.success]
      have goes : isQuit (Unicode.trim line.toList) = false := by simpa using quits
      have heard_cons : heard (line :: rest) = line :: heard rest := by simp [heard, goes]
      rw [heard_cons]
      by_cases blank : (Unicode.trim line.toList).isEmpty = true
      · simp [converse, reply, goes, blank, turns, spoken, ih resting]
      have filled : (Unicode.trim line.toList).isEmpty = false := by simpa using blank
      obtain ⟨left, owned⟩ := resting.executeWithin Session.depth Session.rounds line
        (some "<repl>")
      simp only [converse, reply_executed goes filled rfl owned, turns, filled, spoken,
        Bool.false_eq_true, ↓reduceIte]
      split
      · simp [Answer.after]
      · exact congrArg (Answer.after _) (ih left)

theorem resting_of_turn (resting : Resting settings session) {lines : List String}
    {execution : Execution} (turn : some execution ∈ turns session lines) :
    Resting settings execution.session ∧
      ∀ failure, execution.result = .error failure → failure.Owned := by
  induction lines generalizing session with
  | nil => cases turn
  | cons line rest ih =>
      have executes := resting.executeWithin Session.depth Session.rounds line (some "<repl>")
      simp only [turns] at turn
      split at turn
      · exact ih resting (by simpa using turn)
      · rcases List.mem_cons.mp turn with same | later
        · exact Option.some.inj same ▸ executes
        · exact ih executes.1 later

end

/-- A conversation survives every line but one that runs without bound. For all settings that the
prompt finds, all input and every screen, it ends with code 0 exactly if no line that is heard runs
without bound; then each has been executed, once and in order, in the session that the lines before
it left, and shown with its result or its failure as the other commands show it. The first line that
runs without bound is where the conversation breaks off, and nothing is reported for it. Whatever a
line comes to, the session after it is outside of every scope, its arena keeps the invariant, and no
failure is one of a lost scope. -/
theorem conversation_survives_iff (folder : Folder) (input : String) (strict : Bool)
    (screen : Screen) {settings : Settings} (valid : promptSettings folder strict = .ok settings) :
    let turns := turns (.ofSettings settings) (heard (inputLines input))
    let answer := answer folder input (.repl strict) screen
    (answer.ending.code = 0 ↔ Bounded turns) ∧
    (Bounded turns → answer = .success (transcript screen turns ++ promptText)) ∧
    (∀ before execution after, turns = before ++ some execution :: after → Bounded before →
      execution.overruns = true →
        answer = ⟨transcript screen before ++
          (promptText ++ Answer.emittedLines screen execution.events), .crash .unboundedRun⟩) ∧
    (∀ source sourceName, (execute screen settings false source sourceName).output =
      report screen ((Session.ofSettings settings).execute source (some sourceName))) ∧
    ∀ execution, some execution ∈ turns →
      execution.session.arena.stack = [] ∧ execution.session.arena.Kept ∧
        ∀ failure, execution.result = .error failure → failure.Owned := by
  intro turns answer
  have start := Session.resting_start settings
  -- the prompt gives no more than its turns, one behind the other
  have answered : answer = spoken screen turns := by
    simp only [answer, Command.answer, valid]
    exact converse_eq start (inputLines input)
  have success : Bounded turns → answer = .success (transcript screen turns ++ promptText) :=
    fun bounded => answered.trans (spoken_of_bounded bounded)
  refine ⟨⟨fun ends => bounded_of_code (answered ▸ ends), fun bounded => ?_⟩, success, ?_,
    output_execute screen settings, ?_⟩
  · rw [success bounded]
    rfl
  · intro before execution after split bounded overruns
    rw [answered, split, spoken_append bounded]
    simp [spoken, overruns, Answer.after]
  · intro execution turn
    obtain ⟨resting, owned⟩ := resting_of_turn start turn
    exact ⟨resting.outside.stack_eq, resting.kept, owned⟩

def bareFolder : Folder := ⟨[], [], []⟩

def unboundThenSaid : String := "let x = y\n\nsay 1\n:quit\nsay 2\n"

/-- The first line fails, the second is blank, and the third is executed all the same. -/
theorem unbound_survived :
    let turns := turns (.ofSettings Session.strictly) (heard (inputLines unboundThenSaid))
    let answer := answer bareFolder unboundThenSaid (.repl true)
    promptSettings bareFolder true = .ok Session.strictly ∧
      turns.map (Option.map fun execution => execution.failure?.isSome) =
        [some true, none, some false] ∧
      answer.ending.code = 0 ∧ answer = .success (transcript .console turns ++ promptText) := by
  intro turns answer
  have valid : promptSettings bareFolder true = .ok Session.strictly := rfl
  obtain ⟨bounded, failed⟩ : Bounded turns ∧
      turns.map (Option.map fun execution => execution.failure?.isSome) =
        [some true, none, some false] := by decide +kernel
  obtain ⟨survives, shown, _⟩ :=
    conversation_survives_iff bareFolder unboundThenSaid true .console valid
  exact ⟨valid, failed, survives.mpr bounded, shown bounded⟩

/-! ### A line that is not survived -/

def defining : String := "function f() \x7b return call f() \x7d"

def defined : Session := ((Session.ofSettings .standard).execute defining (some "<repl>")).session

theorem defined_endless : Session.Endless defined "call f()" (some "<repl>") := by
  let closure : Closure :=
    ⟨"f", [], [.giveBack (some (.bareCall "f" ⟨1, 28⟩)) ⟨1, 16⟩], ⟨1, 14⟩, none⟩
  have resting : Resting .standard defined :=
    ((Session.resting_start .standard).executeWithin _ _ _ _).1
  have recurs : closure.Recurs "f" := ⟨rfl, rfl, _, _, _, rfl⟩
  have resolves : defined.arena.resolve "f" = .ok (some (.function closure)) := rfl
  have reads : defined.read "call f()" (some "<repl>") =
      .ok ([.expression (.bareCall "f" ⟨1, 6⟩)], []) := rfl
  exact resting.endless_of_recurs rfl recurs resolves reads

/-- Three lines are heard, the second of which breaks the conversation off. -/
theorem recursion_not_survived :
    let input := defining ++ "\ncall f()\nsay 1\n"
    let turns := turns (.ofSettings .standard) (heard (inputLines input))
    let answer := answer bareFolder input (.repl false)
    promptSettings bareFolder false = .ok .standard ∧ turns.length = 3 ∧
      answer.ending = .crash .unboundedRun ∧
      answer ≠ .success (transcript .console turns ++ promptText) := by
  intro input turns answer
  have lines : heard (inputLines input) = [defining, "call f()", "say 1"] := by decide +kernel
  have valid : promptSettings bareFolder false = .ok .standard := rfl
  have answered : answer = spoken .console turns := by
    simp only [answer, Command.answer, valid]
    exact converse_eq (Session.resting_start .standard) (inputLines input)
  have split : turns = some ((Session.ofSettings .standard).execute defining (some "<repl>")) ::
      some (defined.execute "call f()" (some "<repl>")) ::
        Command.turns (defined.execute "call f()" (some "<repl>")).session ["say 1"] := by
    simp only [turns, lines]
    rw [turns_filled (by decide +kernel), turns_filled (by decide +kernel), defined]
  have ends : answer.ending = .crash .unboundedRun := by
    have completes : ((Session.ofSettings .standard).execute defining
        (some "<repl>")).overruns = false := by decide +kernel
    have overruns : (defined.execute "call f()" (some "<repl>")).overruns = true :=
      Execution.overruns_of_unbounded (defined_endless Session.depth Session.rounds)
    rw [answered, split]
    simp only [spoken, completes, overruns, Bool.false_eq_true, ↓reduceIte, Answer.after]
  refine ⟨valid, ?_, ends, fun success => ?_⟩
  · rw [length_turns, lines]
    rfl
  · rw [success] at ends
    cases ends

end Command

end Parlance
