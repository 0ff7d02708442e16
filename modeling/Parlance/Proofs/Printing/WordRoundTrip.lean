import Parlance.Proofs.Printing.Phrase
import Parlance.Proofs.Printing.RoundTrip

/-!
Programs in words read back. However phrases are nested, a session reads the text of a program in
words as what was printed, and notes nothing.
-/

namespace Parlance

namespace Printing

open Grammar Rule

variable {capabilities : Capabilities} {mode : Mode}

/-- Up to whatever ends a statement, the phrase is read as what it denotes. -/
def PhraseReads (mode : Mode) (phrase : Phrase capabilities) : Prop :=
  ∀ inner tokens after rest lastStop, after.EndsStatement →
    Serves inner mode (tokens ++ after :: rest).length → Spelt phrase.items tokens →
      ∃ stmt stop, statement inner mode ⟨tokens ++ after :: rest, lastStop⟩ =
        .done (some stmt) ⟨after :: rest, stop⟩ [] ∧ stmt.unplaced = phrase.denote

def PhrasesRead (mode : Mode) (body : Phrases capabilities) : Prop :=
  ∀ tokens finish lastStop, Spelt body.items tokens → finish.kind = .finish →
    ∃ stmts last, statements mode ⟨tokens ++ [finish], lastStop⟩ = .done stmts last [] ∧
      Stmt.unplacedAll stmts = body.denote

section

variable {inner : Rule (List Stmt)} {tokens rest : List Token}

/-- A word that opens is not taken together with what follows it. -/
theorem block_word {opener first : Token} (word : opener.kind = .keyword)
    (plain : first.isSymbol "\x7b" = false) (inner : Rule (List Stmt)) (stopAtElse : Bool)
    (mode : Mode) (rest : List Token) (lastStop : Nat) :
    block inner stopAtElse mode ⟨opener :: first :: rest, lastStop⟩ =
      blockBody inner stopAtElse opener mode ⟨first :: rest, opener.stop⟩ := by
  have other : opener.kind ≠ .finish := by simp [word]
  simp [block, next, Cursor.advance_cons other, word, acceptSymbol, Cursor.isAtSymbol, plain]

theorem PhrasesRead.inside {body : Phrases capabilities} (reads : PhrasesRead mode body)
    (spelt : Spelt body.items tokens) {bound : Nat} (serves : Serves inner mode bound)
    (shorter : tokens.length + 1 < bound) (boundary : Token) :
    ∃ stmts last, inner mode (.ofTokens (tokens ++
      [.finishAt boundary.offset boundary.place boundary.offset])) = .done stmts last [] ∧
        Stmt.unplacedAll stmts = body.denote := by
  rw [serves _ (by simpa [Cursor.ofTokens] using shorter)]
  exact reads tokens _ 0 spelt rfl

theorem worded_reads {body : Phrases capabilities} (reads : PhrasesRead mode body) {opener : Fixed}
    (word : opener.isWord = true) (spelt : Spelt (worded opener body.items) tokens)
    (serves : Serves inner mode (tokens ++ rest).length) (stopAtElse : Bool) (lastStop : Nat) :
    ∃ read stop, block inner stopAtElse mode ⟨tokens ++ rest, lastStop⟩ =
      .done read ⟨rest, stop⟩ [] ∧ Stmt.unplacedAll read.body = body.denote ∧
        read.closer = .closed := by
  obtain ⟨first, inside, closer, rfl, firsts, spelt, closes⟩ := spelt_worded spelt
  obtain ⟨second, others, split, plain⟩ :=
    unbraced_spelt body.items_unbraced spelt closes.isBrace_eq rest
  have kind : first.kind = .keyword := by simp [firsts.kind, Item.kind, Fixed.kind, word]
  have extent := (body.passes stopAtElse 0).ofBody_closed spelt closes.keyword?_eq rest
  obtain ⟨stmts, last, read, means⟩ := reads.inside spelt serves (by simp) closer
  refine ⟨⟨stmts, first.place, .closed⟩, closer.stop, ?_, means, rfl⟩
  simp only [List.cons_append, List.append_assoc, List.nil_append]
  rw [split, block_word kind plain, ← split]
  exact blockBody_done extent (by decide) read first.stop

end

/-! ### Phrases -/

variable {strict : Bool}

theorem plain_reads {sentence : Sentence capabilities} (bodiless : sentence.bodiless = true) :
    PhraseReads ⟨strict, capabilities⟩ (.plain sentence bodiless) := by
  intro inner tokens after rest lastStop ends serves spelt
  have sound : sentence.shielded = true := by
    cases sentence <;> first
      | rfl
      | cases bodiless
  obtain ⟨_, stop, read, stmt, rfl, means⟩ :=
    (sentence.reads strict inner tokens after rest lastStop ends serves spelt).exact sound
  exact ⟨stmt, stop, read, means⟩

theorem block_phrase_reads {body : Phrases capabilities} (reads : PhrasesRead mode body) :
    PhraseReads mode (.block body) := by
  intro inner tokens after rest lastStop _ serves spelt
  obtain ⟨read, stop, result, means, _⟩ := worded_reads reads rfl spelt serves false lastStop
  obtain ⟨opener, inside, closer, rfl, opens, _, _⟩ := spelt_worded spelt
  refine ⟨.block read.body read.place, stop, ?_, ?_⟩
  · rw [List.cons_append, statement_block opens.keyword?_eq]
    rw [List.cons_append] at result
    rw [result, Reading.done_andThen]
  · simp [Stmt.unplaced, Phrase.denote, means]

theorem headed_phrase_reads {header : Header capabilities} {body : Phrases capabilities}
    (reads : PhrasesRead ⟨strict, capabilities⟩ body) :
    PhraseReads ⟨strict, capabilities⟩ (.headed header body) := by
  intro inner tokens after rest lastStop _ serves spelt
  obtain ⟨headTokens, bodyTokens, rfl, headSpelt, bodySpelt⟩ := spelt_append spelt
  have behind : Serves inner ⟨strict, capabilities⟩ (bodyTokens ++ after :: rest).length :=
    serves.mono (by simp)
  have block := worded_reads reads rfl bodySpelt behind false
  obtain ⟨opener, inside, closer, rfl, opens, _, _⟩ := spelt_worded bodySpelt
  have opens' : opener.keyword? = some .blockOpen := opens.keyword?_eq
  obtain ⟨build, stop, split, builds⟩ := header.reads strict inner headTokens opener
    (inside ++ [closer] ++ after :: rest) lastStop opens' headSpelt
  obtain ⟨read, last, result, means, _⟩ := block stop
  refine ⟨build read, last, ?_, ?_⟩
  · rw [List.append_assoc, List.cons_append, split]
    rw [List.cons_append] at result
    rw [result, Reading.done_andThen]
  · rw [builds, means, Phrase.denote]

/-! ### Conditionals -/

theorem guard_reads (strict : Bool) (guard : Term capabilities) (inner : Rule (List Stmt))
    {head opener : Token} {guardTokens : List Token} (heads : head.keyword? = some .conditional)
    (spelt : Spelt guard.items guardTokens) (opens : opener.keyword? = some .blockOpen)
    (rest : List Token) (lastStop : Nat) :
    ∃ value stop, value.unplaced = guard.denote ∧
      statement inner ⟨strict, capabilities⟩
        ⟨head :: (guardTokens ++ opener :: rest), lastStop⟩ =
      (block inner true ⟨strict, capabilities⟩ ⟨opener :: rest, stop⟩).andThen fun read next =>
        if read.closer = .otherwise then
          (sharedBranch inner ⟨strict, capabilities⟩ next).andThen fun otherwise last =>
            .done (some (.conditional value read.body read.place otherwise head.place)) last []
        else
          (conditionalTail.ownBranch inner (tailWithin inner ⟨opener :: rest, stop⟩)
            ⟨strict, capabilities⟩ next).andThen fun otherwise last =>
              .done (some (.conditional value read.body read.place otherwise head.place))
                last [] := by
  obtain ⟨value, stop, result, means⟩ :=
    guard.expression_reads strict spelt (calm_opener opens) rest head.stop
  have at' : Cursor.isAt ⟨opener :: rest, stop⟩ .blockOpen = true := by simp [isAt_opener opens]
  refine ⟨value, stop, means, ?_⟩
  rw [statement_conditional heads result, conditionalTail_apply at', Reading.andThen_assoc]
  congr 1
  funext read next
  split
  · rw [Reading.andThen_assoc]
    simp [Conditional.stmt]
  · rw [Reading.andThen_assoc]
    simp [Conditional.stmt]

theorem conditional_phrase_reads {guard : Term capabilities} {body : Phrases capabilities}
    (reads : PhrasesRead ⟨strict, capabilities⟩ body) :
    PhraseReads ⟨strict, capabilities⟩ (.conditional guard body) := by
  intro inner tokens after rest lastStop ends serves spelt
  obtain ⟨head, _, rfl, heads, spelt⟩ := spelt_cons spelt
  obtain ⟨guardTokens, bodyTokens, rfl, guardSpelt, bodySpelt⟩ := spelt_append spelt
  have behind : Serves inner ⟨strict, capabilities⟩ (bodyTokens ++ after :: rest).length :=
    serves.mono (by simp; omega)
  have block := worded_reads reads rfl bodySpelt behind true
  obtain ⟨opener, inside, closer, rfl, opens, _, _⟩ := spelt_worded bodySpelt
  obtain ⟨value, stop, holds, split⟩ := guard_reads strict guard inner heads.keyword?_eq
    guardSpelt opens.keyword?_eq (inside ++ [closer] ++ after :: rest) lastStop
  obtain ⟨read, last, result, means, closed⟩ := block stop
  have apart : read.closer ≠ .otherwise := by simp [closed]
  refine ⟨.conditional value read.body read.place .absent head.place, last, ?_, ?_⟩
  · rw [List.cons_append] at result
    rw [List.cons_append, List.append_assoc, List.cons_append, split, result,
      Reading.done_andThen, if_neg apart, ownBranch_absent ends, Reading.done_andThen]
  · simp [Stmt.unplaced, Branch.unplaced, Phrase.denote, holds, means]

/-- A word for "else" and what follows it up to the closer are the other branch. -/
theorem sharedBranch_block {word next : Token} (known : word.keyword? = some .otherwise)
    (plain : next.keyword? = none) (inner : Rule (List Stmt)) (mode : Mode) (rest : List Token)
    (lastStop : Nat) :
    sharedBranch inner mode ⟨word :: next :: rest, lastStop⟩ =
      (blockBody inner false word mode ⟨next :: rest, word.stop⟩).andThen fun read last =>
        .done (.block read.body read.place) last [] := by
  rw [sharedBranch, tie_apply]
  simp [sharedBranch.round, Rule.next, Cursor.advance_cons (Token.ne_finish_of_keyword? known),
    furtherHead?, here, known, Cursor.isAt, plain]

theorem firstBranch_reads {inner : Rule (List Stmt)} {body : Phrases capabilities}
    (reads : PhrasesRead mode body) {opener word : Token} {tokens rest : List Token}
    (keyword : opener.kind = .keyword) (spelt : Spelt body.items tokens)
    (words : (Item.fixed .otherwise : Item capabilities).Spells word)
    (serves : Serves inner mode (opener :: (tokens ++ word :: rest)).length) (lastStop : Nat) :
    ∃ stmts, block inner true mode ⟨opener :: (tokens ++ word :: rest), lastStop⟩ =
      .done ⟨stmts, opener.place, .otherwise⟩ ⟨word :: rest, opener.stop⟩ [] ∧
        Stmt.unplacedAll stmts = body.denote := by
  obtain ⟨first, others, split, plain⟩ :=
    unbraced_spelt body.items_unbraced spelt words.isBrace_eq rest
  have extent := (body.passes true 0).ofBody_otherwise spelt words.keyword?_eq rest
  obtain ⟨stmts, last, read, means⟩ := reads.inside spelt serves (by simp) word
  refine ⟨stmts, ?_, means⟩
  rw [split, block_word keyword plain, ← split]
  exact blockBody_done extent (by decide) read opener.stop

theorem otherBranch_reads {inner : Rule (List Stmt)} {other : Phrases capabilities}
    (reads : PhrasesRead mode other) {word semicolon closer : Token} {tokens rest : List Token}
    (words : (Item.fixed .otherwise : Item capabilities).Spells word)
    (spelt : Spelt (.fixed .semicolon :: other.items) (semicolon :: tokens))
    (closes : closer.keyword? = some .blockClose)
    (serves : Serves inner mode (word :: semicolon :: (tokens ++ closer :: rest)).length)
    (lastStop : Nat) :
    ∃ branch stop, sharedBranch inner mode
      ⟨word :: semicolon :: (tokens ++ closer :: rest), lastStop⟩ =
        .done branch ⟨rest, stop⟩ [] ∧ branch.unplaced = .block other.denote .start := by
  have passes : Passes false 0 (.fixed .semicolon :: other.items) := (other.passes false 0).cons rfl
  have extent := passes.ofBody_closed spelt closes rest
  obtain ⟨_, _, same, separates, otherSpelt⟩ := spelt_cons spelt
  obtain ⟨rfl, rfl⟩ := List.cons.inj same
  have symbol : semicolon.isSymbol ";" = true := by
    rw [separates.isSymbol_eq]
    rfl
  obtain ⟨stmts, last, read, means⟩ := reads tokens
    (.finishAt closer.offset closer.place closer.offset) semicolon.stop otherSpelt rfl
  -- the semicolon behind the word is an empty statement of the body
  have inside : inner mode (.ofTokens (semicolon :: tokens ++
      [.finishAt closer.offset closer.place closer.offset])) = .done stmts last [] := by
    rw [serves _ (by simp [Cursor.ofTokens]), Cursor.ofTokens, List.cons_append,
      statements_separator (by simp [Cursor.isAtSymbol, symbol]),
      Cursor.advance_cons separates.open']
    exact read
  refine ⟨.block stmts word.place, closer.stop, ?_, ?_⟩
  · have goes : blockBody inner false word mode
        ⟨semicolon :: (tokens ++ closer :: rest), word.stop⟩ =
          .done ⟨stmts, word.place, .closed⟩ ⟨rest, closer.stop⟩ [] :=
      blockBody_done extent (by decide) inside word.stop
    rw [sharedBranch_block words.keyword?_eq separates.keyword?_eq, goes, Reading.done_andThen]
  · simp [Branch.unplaced, means]

theorem alternative_phrase_reads {guard : Term capabilities} {body other : Phrases capabilities}
    (reads : PhrasesRead ⟨strict, capabilities⟩ body)
    (reads' : PhrasesRead ⟨strict, capabilities⟩ other) :
    PhraseReads ⟨strict, capabilities⟩ (.alternative guard body other) := by
  intro inner tokens after rest lastStop ends serves spelt
  obtain ⟨head, _, rfl, heads, spelt⟩ := spelt_cons spelt
  obtain ⟨guardTokens, _, rfl, guardSpelt, spelt⟩ := spelt_append spelt
  obtain ⟨opener, _, closer, rfl, opens, spelt, closes⟩ := spelt_worded spelt
  obtain ⟨front, _, rfl, frontSpelt, spelt⟩ := spelt_append spelt
  obtain ⟨word, _, rfl, words, spelt⟩ := spelt_cons spelt
  obtain ⟨semicolon, back, rfl, _, _⟩ := spelt_cons spelt
  simp only [List.cons_append, List.append_assoc, List.nil_append] at serves ⊢
  obtain ⟨value, stop, holds, split⟩ := guard_reads strict guard inner heads.keyword?_eq
    guardSpelt opens.keyword?_eq
    (front ++ word :: semicolon :: (back ++ closer :: after :: rest)) lastStop
  have otherServes : Serves inner ⟨strict, capabilities⟩
      (word :: semicolon :: (back ++ closer :: after :: rest)).length :=
    serves.mono (by simp; omega)
  have bothServe : Serves inner ⟨strict, capabilities⟩
      (opener :: (front ++ word :: semicolon :: (back ++ closer :: after :: rest))).length :=
    serves.mono (by simp; omega)
  obtain ⟨stmts, firstRead, means⟩ :=
    firstBranch_reads reads opens.kind frontSpelt words bothServe stop
  obtain ⟨branch, last, otherRead, means'⟩ :=
    otherBranch_reads reads' words spelt closes.keyword?_eq otherServes opener.stop
  refine ⟨.conditional value stmts opener.place branch head.place, last, ?_, ?_⟩
  · rw [split, firstRead, Reading.done_andThen, if_pos rfl, otherRead, Reading.done_andThen]
  · simp [Stmt.unplaced, Phrase.denote, holds, means, means']

/-! ### Lists of phrases -/

theorem phrasesNil_read (mode : Mode) : PhrasesRead mode (.nil : Phrases capabilities) := by
  rintro _ finish lastStop rfl ends
  exact ⟨[], _, statements_atEnd (by simp [Cursor.atEnd, ends]) mode, rfl⟩

theorem phrasesCons_read {first : Phrase capabilities} {rest : Phrases capabilities}
    (reads : PhraseReads mode first) (later : PhrasesRead mode rest) :
    PhrasesRead mode (.cons first rest) := by
  intro tokens finish lastStop spelt ends
  obtain ⟨front, _, rfl, here, behind⟩ := spelt_append spelt
  obtain ⟨semicolon, back, rfl, separates, behind⟩ := spelt_cons behind
  obtain ⟨item, items, begins, _⟩ := first.items_cons
  obtain ⟨⟨token, others, rfl⟩, step⟩ := statements_spelt ⟨item, items, begins⟩ here
    (semicolon :: (back ++ [finish])) lastStop mode
  have symbol : semicolon.isSymbol ";" = true := by
    rw [separates.isSymbol_eq]
    rfl
  obtain ⟨stmt, stop, read, means⟩ := reads _ _ _ _ lastStop (Or.inr symbol)
    (statementsWithin_serves ⟨token :: others ++ semicolon :: (back ++ [finish]), lastStop⟩ mode)
    here
  obtain ⟨stmts, last, more, means'⟩ := later back finish semicolon.stop behind ends
  have shorter : (semicolon :: (back ++ [finish])).length <
      (token :: others ++ semicolon :: (back ++ [finish])).length := by
    simp only [List.length_append, List.length_cons]
    omega
  have whole : statements mode ⟨token :: others ++ semicolon :: (back ++ [finish]), lastStop⟩ =
      .done (stmt :: stmts) last [] := by
    rw [step, read, Reading.done_andThen, statementsWithin_shorter shorter,
      statements_separator (by simp [Cursor.isAtSymbol, symbol]),
      Cursor.advance_cons separates.open', more, Reading.done_andThen]
    rfl
  refine ⟨stmt :: stmts, last, ?_, by simp [Stmt.unplacedAll, Phrases.denote, means, means']⟩
  rw [List.append_assoc]
  exact whole

mutual

theorem Phrase.reads (strict : Bool) (phrase : Phrase capabilities) :
    PhraseReads ⟨strict, capabilities⟩ phrase := by
  cases phrase with
  | plain sentence bodiless => exact plain_reads bodiless
  | block body => exact block_phrase_reads (body.read strict)
  | headed header body => exact headed_phrase_reads (body.read strict)
  | conditional guard body => exact conditional_phrase_reads (body.read strict)
  | alternative guard body other =>
      exact alternative_phrase_reads (body.read strict) (other.read strict)

theorem Phrases.read (strict : Bool) (body : Phrases capabilities) :
    PhrasesRead ⟨strict, capabilities⟩ body := by
  cases body with
  | nil => exact phrasesNil_read _
  | cons first rest => exact phrasesCons_read (first.reads strict) (rest.read strict)

end

end Printing

namespace Session

open Printing

/-- A program printed in words is read back, without places and without a recovery: every closing
word closes the block that it was printed for, and every word for "else" belongs to the conditional
that it was printed in. -/
theorem words_printed_back (session : Session) (body : Phrases session.capabilities)
    {source : String} (printed : Printed body.items source) (sourceName : Option String) :
    ∃ program, session.read source sourceName = .ok (program, []) ∧
      Stmt.unplacedAll program = body.denote := by
  obtain ⟨tokens, finish, spelt, ends, clean⟩ := read_printed printed sourceName
  obtain ⟨program, last, whole, means⟩ :=
    body.read session.settings.strict tokens finish 0 spelt ends
  exact ⟨program, (clean program).mpr ⟨last, whole⟩, means⟩

def branchesInBranches : Phrases (ofSettings .standard).capabilities :=
  let no := .cons (.plain (.say (.text "no")) rfl) .nil
  .cons (.alternative (.name nameA)
    (.cons (.headed (.loop (.number (.digit '3' (by decide))))
      (.cons (.alternative (.name nameB) no .nil) .nil)) .nil)
    (.cons (.conditional (.binary .lt (.name nameA) (.name nameB))
      (.cons (.alternative (.name nameB) .nil no) .nil)) .nil)) .nil

theorem branches_in_branches_printed_back :
    ∃ source, Printed branchesInBranches.items source ∧
      source = "if a then loop 3 do if b then say ( \"no\" ) ; else ; end ; end ; " ++
        "else ; if ( a < b ) then if b then else ; say ( \"no\" ) ; end ; end ; end ; " ∧
      ∃ program, (ofSettings .standard).read source none = .ok (program, []) ∧
        Stmt.unplacedAll program = branchesInBranches.denote := by
  have printed := printed_spaced branchesInBranches.items
  exact ⟨_, printed, by decide +kernel, words_printed_back _ _ printed none⟩

end Session

end Parlance
