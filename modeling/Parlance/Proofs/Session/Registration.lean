import Parlance.Proofs.Fork.Capability
import Parlance.Proofs.Running.Hosting
import Parlance.Session

/-!
Registering a module that a source does not mention. A reader takes a module's name for one that may
be called, and a call goes to a module before it goes to a function; but where no word of the source
is the name of the module, neither the reader nor the evaluator ever comes to ask for it.
-/

namespace Parlance

namespace Registry

/-- A name that is not taken for that of a module, neither by a reader nor by the registry. -/
def Apart (name word : String) : Prop :=
  key word ≠ key name ∧ Unicode.lower word ≠ Unicode.lower (key name)

theorem apart_of_word {name word : String} (isWord : Lexeme.IsWord word.toList)
    (other : Unicode.lower word ≠ Unicode.lower (key name)) : Apart name word := by
  -- a word is registered under its lower case, which is its own
  refine ⟨fun same => other ?_, other⟩
  have ascii : ∀ c ∈ word.toList, c.toNat < 128 := fun c member =>
    Nat.lt_of_le_of_lt (isWord.bounds c member).2 (by decide)
  have lowered := Unicode.lower_lower ascii
  have found := isWord.key
  rw [String.ofList_toList] at lowered found
  rw [← same, found, lowered]

end Registry

namespace Session

open Grammar

def hosting (modules : Registry) (session : Session) : Session := { session with modules }

def Execution.hosting (modules : Registry) (execution : Execution) : Execution :=
  { execution with session := execution.session.hosting modules }

@[simp] theorem Execution.events_hosting (execution : Execution) (modules : Registry) :
    (execution.hosting modules).events = execution.events := rfl

variable {session registered : Session} {name : String} {handler : Handler}

theorem register_eq (result : session.register name (some handler) = .ok registered) :
    registered = session.hosting
      ⟨Table.put (Registry.key name) ⟨session.modules.count, handler⟩ session.modules.handlers,
        session.modules.count + 1⟩ := by
  simp only [register, Registry.register] at result
  split at result
  · cases result
  · exact (Except.ok.inj result).symm

/-- A reader knows one name more, if any. -/
theorem register_acquainted (result : session.register name (some handler) = .ok registered) :
    Acquainted session.capabilities registered.capabilities (Registry.Apart name) := by
  obtain rfl := register_eq result
  refine ⟨fun word apart => ?_, fun _ _ => rfl⟩
  have last : [Unicode.lower (Registry.key name)].contains (Unicode.lower word) = false := by
    simpa using apart.2
  simp only [capabilities, Capabilities.isModule, Capabilities.withModules, hosting,
    Registry.names, Table.keys_put]
  split
  · rfl
  · rw [List.map_append, ← List.append_assoc, List.contains_append, List.map_singleton, last,
      Bool.or_false]

/-- The evaluator finds the modules alike under every other name. -/
theorem register_shares (result : session.register name (some handler) = .ok registered)
    (element : Registry.key session.settings.capabilities.elementModule ≠ Registry.key name)
    (hands : ∀ entry ∈ session.modules.handlers, entry.2.handler.HandsOnly (Registry.Apart name))
    (upkeep : Arena.Upkeep) (rounds : Nat) (source sourceName : Option String) :
    (session.surroundings upkeep rounds source sourceName).Shares (Registry.Apart name)
      registered.modules := by
  obtain rfl := register_eq result
  exact
    { find?_eq := fun _ apart => Table.get?_put_of_ne apart.1 _ _
      element_eq := Table.get?_put_of_ne element _ _
      handsOnly := hands }

theorem runIn_hosting (session : Session) {around : Surroundings} {modules : Registry}
    {depth : Nat} {program : Program}
    (same : program.run (around.hosting modules) depth (.ofArena session.arena) =
      program.run around depth (.ofArena session.arena)) :
    (session.hosting modules).runIn (around.hosting modules) depth program =
      (session.runIn around depth program).hosting modules := by
  have arena : (session.hosting modules).arena = session.arena := rfl
  have upkeep : (around.hosting modules).upkeep = around.upkeep := rfl
  simp only [runIn, arena, upkeep, same]
  cases program.run around depth (.ofArena session.arena) with
  | ok value machine =>
      simp only
      cases Run.onArena (Arena.unwind around.upkeep) machine <;> rfl
  | error failure machine =>
      simp only
      cases Run.onArena (Arena.unwind around.upkeep) machine <;> rfl

theorem tokens_cases (strict : Bool) (source : String) :
    tokens strict source = .ok (Token.scan source) ∨
      ∃ failure, tokens strict source = .error failure := by
  cases strict with
  | false => exact Or.inl rfl
  | true =>
      simp only [tokens, Token.scanStrict_eq]
      cases Token.junk source with
      | nil => exact Or.inl rfl
      | cons first rest => exact Or.inr ⟨_, rfl⟩

/-- No word of a source is the name of a module, in any case. -/
def Unmentioned (name source : String) : Prop :=
  ∀ token ∈ Token.scan source, token.kind = .identifier ∨ token.kind = .keyword →
    Unicode.lower token.lexeme ≠ Unicode.lower (Registry.key name)

/-- Where a module is not mentioned, a source is read as without it, and no name that it calls is
taken for that of the module. -/
theorem read_registered (result : session.register name (some handler) = .ok registered)
    {source : String} (unmentioned : Unmentioned name source) (sourceName : Option String) :
    registered.read source sourceName = session.read source sourceName ∧
      ∀ program noted, session.read source sourceName = .ok (program, noted) →
        CallsOnly (Registry.Apart name) program := by
  have settings : registered.settings = session.settings := by
    rw [register_eq result]
    rfl
  simp only [read, settings]
  rcases tokens_cases session.settings.strict source with found | ⟨failure, refused⟩
  · obtain ⟨tokens, finish, scanned, ends, cut⟩ := Token.scan_closed source
    -- a token that may be a name is a word of the source, so it is not the new one
    have names : ∀ token ∈ tokens, token.mayName = true → Registry.Apart name token.lexeme := by
      intro token here names
      obtain ⟨kind, isWord⟩ := Token.word_of_mayName (cut token here).2 names
      have member : token ∈ Token.scan source := scanned ▸ List.mem_append_left _ here
      exact Registry.apart_of_word isWord (unmentioned token member kind)
    obtain ⟨same, called⟩ := Program.ofTokens_acquainted (register_acquainted result)
      (fun token here => (cut token here).1) names ends session.settings.strict
    rw [found, scanned]
    simp only [bind, Except.bind, Session.program, same, true_and]
    intro program noted read
    split at read
    · obtain rfl := Except.ok.inj read
      exact called program noted ‹_›
    · cases read
  · rw [refused]
    exact ⟨rfl, nofun⟩

/-- What is executed does the same, in a session where all that is bound calls no name that is
taken for that of the module. -/
theorem executeWithin_registered (result : session.register name (some handler) = .ok registered)
    (binds : session.arena.BindsOnly (Registry.Apart name))
    (element : Registry.key session.settings.capabilities.elementModule ≠ Registry.key name)
    (hands : ∀ entry ∈ session.modules.handlers, entry.2.handler.HandsOnly (Registry.Apart name))
    {source : String} (unmentioned : Unmentioned name source) (depth rounds : Nat)
    (sourceName : Option String) :
    registered.executeWithin depth rounds source sourceName =
      (session.executeWithin depth rounds source sourceName).hosting registered.modules := by
  obtain ⟨same, called⟩ := read_registered result unmentioned sourceName
  have shares := register_shares result element hands .reclaim rounds (some source) sourceName
  obtain ⟨modules, rfl⟩ : ∃ modules, registered = session.hosting modules :=
    ⟨_, register_eq result⟩
  simp only [executeWithin, parse, same]
  cases read : session.read source sourceName with
  | error failure => rfl
  | ok found =>
      obtain ⟨program, noted⟩ := found
      have runs := program.run_concurs shares depth (called program noted read)
      obtain ⟨alike, _⟩ := runs (.ofArena session.arena) binds
      exact runIn_hosting { session with recoveries := noted } alike

/-- Registering a module concerns only sources that mention it. A source none of whose words is the
name of the module, in any case, is read by a fresh session as it is without the module, with the
same recoveries, and when it is executed it emits the same lines, asks the other modules the same,
ends alike and leaves the same behind. The module does not serve the elements, and the handlers of
the others make up no function that calls it. -/
theorem unmentioned_module (fresh : session.arena = .empty)
    (result : session.register name (some handler) = .ok registered)
    (element : Registry.key session.settings.capabilities.elementModule ≠ Registry.key name)
    (hands : ∀ entry ∈ session.modules.handlers, entry.2.handler.HandsOnly (Registry.Apart name))
    {source : String} (unmentioned : Unmentioned name source) (depth rounds : Nat)
    (sourceName : Option String) :
    (registered.parse source sourceName).1 = (session.parse source sourceName).1 ∧
      (registered.parse source sourceName).2 =
        (session.parse source sourceName).2.hosting registered.modules ∧
      registered.executeWithin depth rounds source sourceName =
        (session.executeWithin depth rounds source sourceName).hosting registered.modules := by
  have binds : session.arena.BindsOnly (Registry.Apart name) := fresh ▸ Arena.bindsOnly_empty
  have runs := executeWithin_registered result binds element hands unmentioned depth rounds
    sourceName
  obtain ⟨same, _⟩ := read_registered result unmentioned sourceName
  obtain ⟨modules, rfl⟩ : ∃ modules, registered = session.hosting modules :=
    ⟨_, register_eq result⟩
  refine ⟨?_, ?_, runs⟩
  · simp only [parse, same]
    cases session.read source sourceName <;> rfl
  · simp only [parse, same]
    cases session.read source sourceName <;> rfl

def applying : Session := (ofSettings .standard).hosting ⟨[("net", ⟨0, .apply⟩)], 1⟩

def handingOver : String := "act up x \x7b give x plus 1 \x7d say net.go(up, 2)"

theorem handingOver_without_pad :
    ∃ registered, applying.register " Pad " (some .tally) = .ok registered ∧
      (registered.parse handingOver none).1 = (applying.parse handingOver none).1 ∧
      (registered.parse handingOver none).2 =
        (applying.parse handingOver none).2.hosting registered.modules ∧
      registered.executeWithin depth rounds handingOver none =
        (applying.executeWithin depth rounds handingOver none).hosting registered.modules := by
  have named : Registry.key " Pad " ≠ "" := by decide +kernel
  have result : applying.register " Pad " (some .tally) = .ok (applying.hosting
      ⟨Table.put (Registry.key " Pad ") ⟨1, .tally⟩ applying.modules.handlers, 2⟩) := by
    simp only [register, Registry.register, named, ↓reduceIte]
    rfl
  have element : Registry.key applying.settings.capabilities.elementModule ≠
      Registry.key " Pad " := by decide +kernel
  have hands : ∀ entry ∈ applying.modules.handlers,
      entry.2.handler.HandsOnly (Registry.Apart " Pad ") := by
    intro entry member
    obtain rfl := List.mem_singleton.mp member
    exact Handler.apply_handsOnly _
  have unmentioned : Unmentioned " Pad " handingOver := by
    unfold Unmentioned
    decide +kernel
  exact ⟨_, result, unmentioned_module rfl result element hands unmentioned depth rounds none⟩

/-- Calls a function of its own, which calls another module:

    function sketch() { return pad.draw() } -/
def sketching : Handler := fun _ =>
  .invoke (.function ⟨"sketch", [],
    [.giveBack (some (.call "pad" (some "draw") [] .start)) .start], .start, none⟩) []
    fun value => .give (.value value)

def withSketches : Session := (ofSettings .standard).hosting ⟨[("net", ⟨0, sketching⟩)], 1⟩

def askingNet : String := "say net.go()"

/-- A handler that brings a function of its own may call a module that the source does not
mention. -/
theorem sketching_tells_pad :
    Unmentioned "pad" askingNet ∧ withSketches.arena = .empty ∧
      Registry.key withSketches.settings.capabilities.elementModule ≠ Registry.key "pad" ∧
      ∃ registered, withSketches.register "pad" (some .tally) = .ok registered ∧
        (withSketches.executeWithin 8 0 askingNet none).events.filterMap Event.line? = [""] ∧
        (registered.executeWithin 8 0 askingNet none).events.filterMap Event.line? = ["draw:0"] ∧
        registered.executeWithin 8 0 askingNet none ≠
          (withSketches.executeWithin 8 0 askingNet none).hosting registered.modules := by
  have unmentioned : Unmentioned "pad" askingNet := by
    unfold Unmentioned
    decide +kernel
  have element : Registry.key withSketches.settings.capabilities.elementModule ≠
      Registry.key "pad" := by decide +kernel
  let drawn : Session := withSketches.hosting
    ⟨Table.put (Registry.key "pad") ⟨1, .tally⟩ withSketches.modules.handlers, 2⟩
  have named : Registry.key "pad" ≠ "" := by decide +kernel
  have result : withSketches.register "pad" (some .tally) = .ok drawn := by
    simp only [register, Registry.register, named, ↓reduceIte]
    rfl
  obtain ⟨without, within⟩ :
      (withSketches.executeWithin 8 0 askingNet none).events.filterMap Event.line? = [""] ∧
        (drawn.executeWithin 8 0 askingNet none).events.filterMap Event.line? = ["draw:0"] := by
    decide +kernel
  refine ⟨unmentioned, rfl, element, drawn, result, without, within, fun same => ?_⟩
  rw [same, Execution.events_hosting, without] at within
  exact absurd within (by decide)

end Session

end Parlance
