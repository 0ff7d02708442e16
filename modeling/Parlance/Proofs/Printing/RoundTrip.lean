import Parlance.Proofs.Printing.Statement
import Parlance.Session

/-!
Whole programs read back. A session reads the text of a program as what was printed, and notes
nothing, if and only if no word for "else" stands directly in the body of a conditional.
-/

namespace Parlance

namespace Printing

open Grammar Rule

variable {capabilities : Capabilities} {mode : Mode}

theorem Sentence.items_cons (sentence : Sentence capabilities) :
    ∃ item items, sentence.items = item :: items := by
  cases sentence <;> exact ⟨_, _, rfl⟩

theorem Sentence.front_cons (sentence : Sentence capabilities) :
    ∃ item items, sentence.front = item :: items := by
  cases sentence <;> exact ⟨_, _, rfl⟩

theorem statements_spelt {items : List (Item capabilities)}
    (some' : ∃ item items', items = item :: items') {tokens : List Token}
    (spelt : Spelt items tokens) (rest : List Token) (lastStop : Nat) (mode : Mode) :
    (∃ first others, tokens = first :: others) ∧
    statements mode ⟨tokens ++ rest, lastStop⟩ =
      (statement (statementsWithin ⟨tokens ++ rest, lastStop⟩) mode
        ⟨tokens ++ rest, lastStop⟩).andThen fun first next =>
          (statementsWithin ⟨tokens ++ rest, lastStop⟩ mode next).andThen fun more last =>
            .done (first.toList ++ more) last [] := by
  obtain ⟨item, items', rfl⟩ := some'
  obtain ⟨first, others, rfl, spells, _⟩ := spelt_cons spelt
  refine ⟨⟨first, others, rfl⟩, statements_apply ?_ mode⟩
  simp [Cursor.atEnd, spells.open']

theorem cons_reads {first : Sentence capabilities} {rest : Body capabilities} {sound : Bool}
    {front back : List Token} {semicolon finish : Token} (reads : SentenceReads mode first)
    (spelt : Spelt first.items front)
    (separates : (Item.fixed .semicolon : Item capabilities).Spells semicolon)
    (later : ∀ lastStop, Reads (statements mode ⟨back ++ [finish], lastStop⟩) [finish]
      (fun stmts => Stmt.unplacedAll stmts = rest.denote)
      (fun stmts => Stmt.unplacedAll stmts ≠ rest.denote) sound) (lastStop : Nat) :
    Reads (statements mode ⟨front ++ semicolon :: (back ++ [finish]), lastStop⟩) [finish]
      (fun stmts => Stmt.unplacedAll stmts = (Body.cons first rest).denote)
      (fun stmts => Stmt.unplacedAll stmts ≠ (Body.cons first rest).denote)
      (first.shielded && sound) := by
  obtain ⟨⟨token, others, rfl⟩, step⟩ := statements_spelt first.items_cons spelt
    (semicolon :: (back ++ [finish])) lastStop mode
  have symbol : semicolon.isSymbol ";" = true := by
    rw [separates.isSymbol_eq]
    rfl
  -- the semicolon ends the sentence and is read as no statement
  have passed : ∀ stop, statements mode ⟨semicolon :: (back ++ [finish]), stop⟩ =
      statements mode ⟨back ++ [finish], semicolon.stop⟩ := by
    intro stop
    rw [statements_separator (by simp [Cursor.isAtSymbol, symbol]),
      Cursor.advance_cons separates.open']
  rw [step]
  refine (reads _ _ _ _ lastStop (Or.inr symbol) (statementsWithin_serves _ mode) spelt).andThen
    ?_ ?_
  · rintro _ stop ⟨stmt, rfl, means⟩
    have shorter : (semicolon :: (back ++ [finish])).length <
        (token :: others ++ semicolon :: (back ++ [finish])).length := by
      simp only [List.length_append, List.length_cons]
      omega
    rw [statementsWithin_shorter shorter, passed]
    refine (later semicolon.stop).map ?_ ?_
    · intro stmts same
      simp [Stmt.unplacedAll, Body.denote, means, same]
    · intro stmts other same
      exact other (List.cons.inj same).2
  · rintro _ next stmts last ⟨stmt, rfl, wrong⟩ clean same
    obtain ⟨more, _, _, clean⟩ := Reading.andThen_clean clean
    obtain ⟨rfl, _⟩ := Reading.done.inj clean
    exact wrong (List.cons.inj same).1

theorem bodyNil_reads (mode : Mode) : BodyReads mode (.nil : Body capabilities) := by
  rintro _ finish lastStop rfl ends
  rw [List.nil_append, statements_atEnd (by simp [Cursor.atEnd, ends])]
  exact .done rfl

theorem bodyCons_reads {first : Sentence capabilities} {rest : Body capabilities}
    (reads : SentenceReads mode first) (later : BodyReads mode rest) :
    BodyReads mode (.cons first rest) := by
  intro tokens finish lastStop spelt ends
  obtain ⟨front, _, rfl, here, behind⟩ := spelt_append spelt
  obtain ⟨semicolon, back, rfl, separates, behind⟩ := spelt_cons behind
  rw [List.append_assoc]
  exact cons_reads reads here separates (fun lastStop => later back finish lastStop behind ends)
    lastStop

/-- A body is cut in its first sentence that goes on with a word for "else". -/
theorem bodyCons_cut {first : Sentence capabilities} {rest : Body capabilities}
    (reads : SentenceReads mode first) (cut : SentenceCut mode first) (later : BodyCut mode rest) :
    BodyCut mode (.cons first rest) := by
  intro hasElse tokens finish lastStop stmts last spelt ends clean
  -- the first sentence with a word for "else" is the one that is cut; those before it are whole
  by_cases here : first.hasElse = true
  · simp only [Body.cut, here, ↓reduceIte] at spelt
    obtain ⟨_, step⟩ := statements_spelt first.front_cons spelt [finish] lastStop mode
    rw [step] at clean
    obtain ⟨read, next, result, clean⟩ := Reading.andThen_clean clean
    obtain ⟨more, _, _, clean⟩ := Reading.andThen_clean clean
    obtain ⟨rfl, _⟩ := Reading.done.inj clean
    obtain ⟨stmt, rfl, wrong⟩ := cut here _ _ _ _ _ _ _ (Or.inl ends)
      (statementsWithin_serves _ mode) spelt result
    exact fun same => wrong (List.cons.inj same).1
  · have none : first.hasElse = false := Bool.not_eq_true _ ▸ here
    have behindElse : rest.hasElse = true := by simpa [Body.hasElse, none] using hasElse
    simp only [Body.cut, none, Bool.false_eq_true, ↓reduceIte] at spelt
    obtain ⟨front, _, rfl, firstSpelt, behind⟩ := spelt_append spelt
    obtain ⟨semicolon, back, rfl, separates, behind⟩ := spelt_cons behind
    rw [List.append_assoc] at clean
    have whole := cons_reads reads firstSpelt separates
      (fun lastStop => .unsound fun stmts last clean =>
        later behindElse back finish lastStop stmts last behind ends clean) lastStop
    exact whole.off (Bool.and_false _) stmts last clean

mutual

theorem Sentence.reads (strict : Bool) (sentence : Sentence capabilities) :
    SentenceReads ⟨strict, capabilities⟩ sentence := by
  cases sentence with
  | declare name value => exact declare_reads name value
  | assign name value => exact assign_reads name value
  | say value => exact say_reads value
  | giveBack value => exact giveBack_reads value
  | expression value => exact expression_reads value
  | block body => exact block_sentence_reads (body.reads strict)
  | loop rounds body => exact headed_reads (.loop rounds) (body.reads strict) rfl rfl rfl
  | whileLoop guard body => exact headed_reads (.whileLoop guard) (body.reads strict) rfl rfl rfl
  | each item list body => exact headed_reads (.each item list) (body.reads strict) rfl rfl rfl
  | function name params body =>
      refine headed_reads (.function name params) (body.reads strict) ?_ rfl rfl
      simp [Sentence.items, Header.items]
  | conditional guard body otherwise =>
      exact conditional_reads (body.reads strict) (body.reads_cut strict) (otherwise.reads strict)

theorem Sentence.reads_cut (strict : Bool) (sentence : Sentence capabilities) :
    SentenceCut ⟨strict, capabilities⟩ sentence := by
  cases sentence with
  | conditional guard body otherwise =>
      exact conditional_cut (body.reads strict) (body.reads_cut strict)
  | _ => exact fun hasElse => nomatch hasElse

theorem Body.reads (strict : Bool) (body : Body capabilities) :
    BodyReads ⟨strict, capabilities⟩ body := by
  cases body with
  | nil => exact bodyNil_reads _
  | cons first rest => exact bodyCons_reads (first.reads strict) (rest.reads strict)

theorem Body.reads_cut (strict : Bool) (body : Body capabilities) :
    BodyCut ⟨strict, capabilities⟩ body := by
  cases body with
  | nil => exact fun hasElse => nomatch hasElse
  | cons first rest =>
      exact bodyCons_cut (first.reads strict) (first.reads_cut strict) (rest.reads_cut strict)

theorem Otherwise.reads (strict : Bool) (otherwise : Otherwise capabilities) :
    BranchReads ⟨strict, capabilities⟩ otherwise := by
  cases otherwise with
  | absent => exact absent_reads _
  | block body => exact otherwiseBlock_reads (body.reads strict)
  | conditional guard body otherwise =>
      exact further_reads (body.reads strict) (body.reads_cut strict) (otherwise.reads strict)

end

end Printing

namespace Session

open Grammar Printing

variable {session : Session} {source : String}

theorem tokens_printed {items : List (Item session.capabilities)} (printed : Printed items source)
    (strict : Bool) :
    ∃ tokens finish, Session.tokens strict source = .ok (tokens ++ [finish]) ∧
      Spelt items tokens ∧ finish.kind = .finish := by
  obtain ⟨tokens, finish, marks, spelt, ends⟩ := scan_printed printed
  have scanned : Token.scan source = tokens ++ [finish] := by
    rw [Token.scan, marks, List.filterMap_map]
    exact List.filterMap_some
  have noJunk : Token.junk source = [] := by
    rw [Token.junk, marks, List.filterMap_map]
    exact List.filterMap_eq_nil_iff.mpr fun _ _ => rfl
  refine ⟨tokens, finish, ?_, spelt, ends⟩
  cases strict with
  | false => simp [Session.tokens, scanned]
  | true => simp [Session.tokens, Token.scanStrict_eq, noJunk, scanned]

theorem read_printed {items : List (Item session.capabilities)} (printed : Printed items source)
    (sourceName : Option String) :
    ∃ tokens finish, Spelt items tokens ∧ finish.kind = .finish ∧ ∀ program,
      session.read source sourceName = .ok (program, []) ↔
        ∃ last, statements ⟨session.settings.strict, session.capabilities⟩
          ⟨tokens ++ [finish], 0⟩ = .done program last [] := by
  obtain ⟨tokens, finish, scanned, spelt, ends⟩ := tokens_printed printed session.settings.strict
  have closed : Token.close (tokens ++ [finish]) = tokens ++ [finish] := by
    simp [Token.close, ends]
  refine ⟨tokens, finish, spelt, ends, fun program => ?_⟩
  simp only [read, scanned, bind, Except.bind, Session.program]
  constructor
  · intro result
    split at result
    · rename_i whole
      obtain ⟨rfl⟩ := Except.ok.inj result
      obtain ⟨last, whole⟩ := Program.statements_of_ofTokens whole
      exact ⟨last, closed ▸ whole⟩
    · cases result
  · rintro ⟨last, result⟩
    rw [Program.ofTokens_of_statements (closed.symm ▸ result)]

/-- A printed program is read back, without places and without a recovery, if and only if no word
for "else" stands directly in the body of a conditional. -/
theorem printed_back_iff (session : Session) (body : Body session.capabilities) {source : String}
    (printed : Printed body.items source) (sourceName : Option String) :
    (∃ program, session.read source sourceName = .ok (program, []) ∧
      Stmt.unplacedAll program = body.denote) ↔ body.shielded = true := by
  obtain ⟨tokens, finish, spelt, ends, clean⟩ := read_printed printed sourceName
  have reads := body.reads session.settings.strict tokens finish 0 spelt ends
  constructor
  · rintro ⟨program, result, same⟩
    obtain ⟨last, whole⟩ := (clean program).mp result
    by_contra unsound
    exact reads.off (Bool.not_eq_true _ ▸ unsound) program last whole same
  · intro sound
    obtain ⟨program, last, whole, same⟩ := reads.exact sound
    exact ⟨program, (clean program).mpr ⟨_, whole⟩, same⟩

/-! ### Words for "else" behind and between braces -/

def letter (c : Char) (start : Piece.isWordStart c = true)
    (free : (Keyword.isWordSpelling (Unicode.lower (String.ofList [c])) = false ∧
      numberWord? (String.ofList [c]) = none) ∧
        (ofSettings .standard).capabilities.allowsImplicitCall (String.ofList [c]) = false) :
    Name (ofSettings .standard).capabilities :=
  ⟨c, [], start, nofun, free.1.1, free.1.2, free.2⟩

def nameA := letter 'a' (by decide) (by decide +kernel)

def nameB := letter 'b' (by decide) (by decide +kernel)

def elseInLoop : Body (ofSettings .standard).capabilities :=
  .cons (.conditional (.name nameA)
    (.cons (.loop (.number ⟨'2', [], [], by decide, nofun, nofun⟩)
      (.cons (.conditional (.binary .lt (.name nameA) (.name nameB))
        (.cons (.giveBack (.name nameA)) .nil)
        (.block (.cons (.say (.text "no")) .nil))) .nil)) .nil)
    (.conditional (.name nameB) .nil (.block (.cons (.expression (.name nameB)) .nil)))) .nil

theorem else_in_loop_printed_back :
    ∃ source, Printed elseInLoop.items source ∧
      source = "if a \x7b loop 2 \x7b if ( a < b ) \x7b return a ; \x7d " ++
        "else \x7b say ( \"no\" ) ; \x7d ; \x7d ; \x7d " ++
        "else if b \x7b \x7d else \x7b ( b ) ; \x7d ; " ∧
      ∃ program, (ofSettings .standard).read source none = .ok (program, []) ∧
        Stmt.unplacedAll program = elseInLoop.denote := by
  have printed := printed_spaced elseInLoop.items
  exact ⟨_, printed, by decide +kernel, (printed_back_iff _ _ printed none).mpr rfl⟩

def elseInConditional : Body (ofSettings .standard).capabilities :=
  .cons (.conditional (.name nameA)
    (.cons (.conditional (.name nameB) (.cons (.expression (.name nameA)) .nil)
      (.block (.cons (.expression (.name nameB)) .nil))) .nil) .absent) .nil

def isBare : Program → Bool
  | [.conditional _ _ _ .absent _] => true
  | _ => false

theorem isBare_unplacedAll (program : Program) :
    isBare (Stmt.unplacedAll program) = isBare program := by
  cases program with
  | nil => rfl
  | cons stmt rest =>
      cases stmt with
      | conditional guard body opener otherwise place =>
          cases otherwise <;> cases rest <;> rfl
      | _ => cases rest <;> rfl

/-- The outer conditional takes the branch of the inner one. -/
theorem else_in_conditional_not_printed_back :
    ∃ source, Printed elseInConditional.items source ∧
      source = "if a \x7b if b \x7b ( a ) ; \x7d else \x7b ( b ) ; \x7d ; \x7d ; " ∧
      ¬ ∃ program, (ofSettings .standard).read source none = .ok (program, []) ∧
        Stmt.unplacedAll program = elseInConditional.denote := by
  refine ⟨_, printed_spaced elseInConditional.items, by decide +kernel, ?_⟩
  rintro ⟨program, result, same⟩
  have taken : ((ofSettings .standard).read
      (String.ofList (spaced elseInConditional.items)) none).toOption.map
        (fun read => isBare read.1) = some false := by decide +kernel
  rw [result] at taken
  have bare : isBare program = true := by
    rw [← isBare_unplacedAll, same]
    rfl
  exact absurd (bare.symm.trans (Option.some.inj taken)) (by decide)

end Session

end Parlance
