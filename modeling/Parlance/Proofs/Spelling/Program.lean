import Parlance.Proofs.Reading.Program
import Parlance.Proofs.Spelling.Statement
import Parlance.Token.Scan

/-!
Synonyms are interchangeable. Whole programs whose tokens differ in the spelling of keywords alone
are read alike, in lenient and in strict mode.
-/

namespace Parlance.Program

open Grammar

variable {tokens tokens' : List Token}

/-- The answers that two spellings of a program get: the same program with recoveries of the same
kinds at the same places, or a refusal of the same kind at the same place. -/
def Similar : Except Recovery (Program × List Recovery) →
    Except Recovery (Program × List Recovery) → Prop
  | .ok (program, noted), .ok (program', noted') =>
      program'.map Stmt.canonical = program.map Stmt.canonical ∧
        List.Forall₂ Recovery.Similar noted noted'
  | .error first, .error first' => first.Similar first'
  | _, _ => False

theorem ofTokens_similar (respelt : Token.AllRespelt tokens tokens') (mode : Mode) :
    Similar (ofTokens mode tokens) (ofTokens mode tokens') := by
  have read := statements_resembles mode (.ofTokens (Token.close tokens))
    (.ofTokens (Token.close tokens')) ⟨respelt.close, rfl⟩
  simp only [ofTokens]
  rcases read.cases with ⟨refusal, refusal', stops, stops', alike⟩ |
    ⟨program, program', next, next', noted, noted', ends, ends', related, _, notes⟩
  · rw [stops, stops']
    exact alike
  · rw [ends, ends']
    exact ⟨related, notes⟩

/-- Tokens that differ only in how keywords are spelled make the same program, positions included,
once methods and keys are named canonically. A lenient reader recovers as often, from flaws of the
same kinds at the same places, and a strict one is refused at the same place or not at all. -/
theorem synonyms_interchangeable (capabilities : Capabilities)
    (respelt : Token.AllRespelt tokens tokens') :
    (∃ program program' noted noted',
      ofTokens ⟨false, capabilities⟩ tokens = .ok (program, noted) ∧
      ofTokens ⟨false, capabilities⟩ tokens' = .ok (program', noted') ∧
      program'.map Stmt.canonical = program.map Stmt.canonical ∧
      List.Forall₂ Recovery.Similar noted noted') ∧
    Similar (ofTokens ⟨true, capabilities⟩ tokens) (ofTokens ⟨true, capabilities⟩ tokens') := by
  refine ⟨?_, ofTokens_similar respelt ⟨true, capabilities⟩⟩
  have similar := ofTokens_similar respelt ⟨false, capabilities⟩
  obtain ⟨program, noted, read⟩ := ofTokens_lenient capabilities tokens
  obtain ⟨program', noted', read'⟩ := ofTokens_lenient capabilities tokens'
  rw [read, read'] at similar
  exact ⟨program, program', noted, noted', read, read', similar.1, similar.2⟩

def keyed : List Token := Token.scan "let x is \x7bsay: 1\x7d; end"

def keyedAnew : List Token := Token.scan "NEW x be \x7blog: 1\x7d; End"

theorem keyed_interchangeable :
    keyedAnew ≠ keyed ∧ Token.AllRespelt keyed keyedAnew ∧
      (∃ program program' noted noted',
        ofTokens ⟨false, .standard⟩ keyed = .ok (program, noted) ∧
        ofTokens ⟨false, .standard⟩ keyedAnew = .ok (program', noted') ∧
        program'.map Stmt.canonical = program.map Stmt.canonical ∧
        List.Forall₂ Recovery.Similar noted noted') ∧
      Similar (ofTokens ⟨true, .standard⟩ keyed) (ofTokens ⟨true, .standard⟩ keyedAnew) := by
  have respelt : Token.AllRespelt keyed keyedAnew := by decide +kernel
  exact ⟨by decide +kernel, respelt, synonyms_interchangeable .standard respelt⟩

end Parlance.Program
