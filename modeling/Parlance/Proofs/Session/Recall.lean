import Parlance.Proofs.Running.Binding
import Parlance.Proofs.Session.Locality
import Parlance.Proofs.Session.Restriction

/-!
Bound names read back. Whatever name is bound to a literal, and in whichever of the four ways, a
mention of it in parentheses stands for the literal, right behind the binding and wherever a run
comes to later without another binding on the way. Only where the name is a word for a number does
the mention stand for the number, whether the name is bound or not.
-/

namespace Parlance.Session

theorem recital_executes {session : Session} (preserved : Preserved session) {name : Token}
    (named : name.isName = true) {literals : List Literal} {tokens : List Token} {stmt : Stmt}
    (recalls : Recalls name literals tokens stmt) {finish : Token} (ends : finish.kind = .finish)
    {source : String}
    (scanned : Session.tokens session.settings.strict source = .ok (tokens ++ [finish]))
    (unlimited : session.settings.maxSteps = 0) {depth : Nat} (deep : 5 ≤ depth) (rounds : Nat)
    (sourceName : Option String) :
    let ran := session.executeWithin depth rounds source sourceName
    (∃ value, ran.result = .ok value) ∧ ran.session.recoveries = [] ∧
      ran.lines = literals.map fun literal => (name.recalled (.ofLiteral literal)).toText := by
  intro ran
  obtain ⟨program, recital, read⟩ :=
    recalls.reads named ⟨session.settings.strict, session.capabilities⟩ ends
  let after : Session := { session with recoveries := [] }
  let around := after.surroundings .reclaim rounds (some source) sourceName
  -- nothing is noted while reading, so even a strict session runs what was read
  have executed : ran = after.runIn around depth program := by
    have parsed : session.parse source sourceName = (.ok program, after) := by
      simp only [parse, Session.read, scanned, bind, Except.bind, Session.program, read, after]
    simp only [ran, executeWithin, parsed]
    rfl
  have mentions : stmt.Mentions name.lexeme := by
    cases recalls with
    | declaration _ _ _ _ saying | assignment _ _ _ _ _ saying | parameter _ _ _ _ _ saying
    | item _ _ _ _ _ _ saying => exact saying.mentions
  obtain ⟨known, intact⟩ := preserved.intact
  have stands : (Machine.ofArena after.arena).Stands [] [] := ⟨intact.locals, rfl⟩
  have limitless : around.budget = none := if_pos unlimited
  obtain ⟨value, machine, completed, stood⟩ :=
    Evaluation.recital_runs limitless mentions recital stands deep
  have outside := stood.intact.sound.stack_eq
  rw [executed, runIn_ok completed outside]
  exact ⟨⟨value, rfl⟩, rfl, stood.emitted_eq⟩

def lineToken (kind : Token.Kind) (lexeme : String) (offset stop : Nat) : Token :=
  ⟨kind, lexeme, offset, ⟨1, offset + 1⟩, stop⟩

def typeName : Token := lineToken .keyword "Text" 5 9

def sayingLoop : String := "each Text in [\"a\", \"b\"] \x7b say(Text) \x7d"

theorem sayingLoop_recalls : ∃ tokens finish stmt, finish.kind = .finish ∧
    Token.scan sayingLoop = tokens ++ [finish] ∧
      Recalls typeName [.text "a", .text "b"] tokens stmt := by
  have constants : Grammar.Commas
      [lineToken .string "a" 14 17, lineToken .string "b" 19 22]
      [lineToken .string "a" 14 17, lineToken .symbol "," 17 18, lineToken .string "b" 19 22] :=
    .cons _ (by decide) (.last _)
  have saying : Grammar.Saying typeName.lexeme
      [lineToken .keyword "say" 26 29, lineToken .symbol "(" 29 30,
        lineToken .keyword "Text" 30 34, lineToken .symbol ")" 34 35] _ :=
    .intro (by decide +kernel) (by decide) (by decide +kernel) rfl (by decide)
  have recalls : Recalls typeName [.text "a", .text "b"] _ _ :=
    .item (by decide +kernel : (lineToken .keyword "each" 0 4).keyword? = some .each)
      (by decide +kernel : (lineToken .keyword "in" 10 12).keyword? = some .within)
      (by decide : (lineToken .symbol "[" 13 14).isSymbol "[" = true)
      ⟨_, constants, by rfl, by decide⟩
      (by decide : (lineToken .symbol "]" 22 23).isSymbol "]" = true)
      (by decide +kernel : (lineToken .symbol "\x7b" 24 25).keyword? = some .blockOpen) saying
      (by decide +kernel : (lineToken .symbol "\x7d" 36 37).keyword? = some .blockClose)
  exact ⟨_, lineToken .finish "" 37 37, _, rfl, by decide +kernel, recalls⟩

def mentionedLater : List Stmt :=
  [.declare "y" none .start, .block [.output (some (typeName.mention, none)) .start] .start]

theorem digits_ne_nil (n : Nat) : Decimal.digits n ≠ [] := Nat.toDigits_ne_nil

theorem magnitude_ne_nil (layout : Decimal.Layout) (number : Decimal.Scaled) :
    layout.magnitude number ≠ [] := by
  have digits := digits_ne_nil (number.trimmed 400).coefficient
  simp only [Decimal.Layout.magnitude]
  split
  · split
    · simp [digits]
    · split <;> simp
  · simp [Decimal.Layout.exponentText]

theorem numberText_ne_empty (x : Float) : numberText x ≠ "" := by
  have filled : ∀ {chars : List Char}, chars ≠ [] → String.ofList chars ≠ "" := by
    intro chars some' same
    exact some' (by simpa using congrArg String.toList same)
  simp only [numberText]
  split
  · exact filled (by simp [digits_ne_nil])
  · simp only [Decimal.text, Decimal.Layout.text]
    split
    · decide
    · split
      · exact filled (by simp)
      · split
        · exact filled (by simp)
        · exact filled (by simp [magnitude_ne_nil])

def sayingNumberWord : String := "let seven = \"\" ; say(seven)"

theorem sayingNumberWord_recalls : ∃ tokens finish stmt, finish.kind = .finish ∧
    Token.scan sayingNumberWord = tokens ++ [finish] ∧
      Recalls (lineToken .identifier "seven" 4 9) [.text ""] tokens stmt := by
  have saying : Grammar.Saying "seven"
      [lineToken .keyword "say" 17 20, lineToken .symbol "(" 20 21,
        lineToken .identifier "seven" 21 26, lineToken .symbol ")" 26 27] _ :=
    .intro (by decide +kernel) (by decide) (by decide +kernel) rfl (by decide)
  have recalls : Recalls (lineToken .identifier "seven" 4 9) [.text ""] _ _ :=
    .declaration (by decide +kernel : (lineToken .keyword "let" 0 3).keyword? = some .declare)
      (by decide +kernel : (lineToken .symbol "=" 10 11).keyword? = some .assignOp)
      (rfl : (lineToken .string "" 12 14).constant? = some (.text ""))
      (by decide : (lineToken .symbol ";" 15 16).isSymbol ";" = true) saying
  exact ⟨_, lineToken .finish "" 27 27, _, rfl, by decide +kernel, recalls⟩

end Parlance.Session
