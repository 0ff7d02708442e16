import Parlance.Proofs.Drawing.Schema

/-!
Where calls come from. A program calls a name that is not on the list of callable names only where a
word for a call stands right before the name, and no word serves two calls. Without such a word and
without a callable name among the tokens there is no call.
-/

namespace Parlance

namespace Capabilities

/-- What is called is a name that may be called without a word for it. -/
def lists (capabilities : Capabilities) : Node.Call → Bool
  | (.text callee, _) => capabilities.allowsImplicitCall callee
  | _ => false

end Capabilities

namespace Token

variable {capabilities : Capabilities} {tokens : List Token}

/-- The names that stand right behind a word for a call; one may stand in front of the tokens. -/
def wordedNames (behindWord : Bool) : List Token → List Token
  | [] => []
  | token :: rest =>
      let later := wordedNames (token.keyword? = some .call) rest
      if token.mayName && behindWord then token :: later else later

theorem length_wordedNames_le (behindWord : Bool) (tokens : List Token) :
    (wordedNames behindWord tokens).length ≤
      behindWord.toNat + tokens.countP (·.keyword? = some .call) := by
  -- every such name has a word of its own
  induction tokens generalizing behindWord with
  | nil => simp [wordedNames]
  | cons token rest ih =>
      have later := ih (decide (token.keyword? = some .call))
      have here : ((wordedNames behindWord (token :: rest)).length ≤
          behindWord.toNat + (wordedNames (decide (token.keyword? = some .call)) rest).length) := by
        simp only [wordedNames]
        cases behindWord <;> split <;> simp_all [Nat.add_comm]
      have count : (token :: rest).countP (·.keyword? = some .call) =
          (decide (token.keyword? = some .call)).toNat +
            rest.countP (·.keyword? = some .call) := by
        by_cases word : token.keyword? = some .call <;> simp [word, Nat.add_comm]
      rw [count]
      exact Nat.le_trans here (Nat.add_le_add_left later _)

/-- Only a word for a call lets a name be called that is not on the list. -/
theorem unlisted_callees (behindWord : Bool) (tokens : List Token) :
    ((callees capabilities behindWord tokens).filter
      fun token => !capabilities.allowsImplicitCall token.lexeme).Sublist
        (wordedNames behindWord tokens) := by
  induction tokens generalizing behindWord with
  | nil => exact .slnil
  | cons token rest ih =>
      have later := ih (decide (token.keyword? = some .call))
      simp only [callees, wordedNames]
      cases token.mayName with
      | false => simpa using later
      | true =>
          cases listed : capabilities.allowsImplicitCall token.lexeme with
          | true => cases behindWord <;> simp_all
          | false => cases behindWord <;> simp_all

theorem callees_close (behindWord : Bool) (tokens : List Token) :
    callees capabilities behindWord (close tokens) = callees capabilities behindWord tokens := by
  -- the closing token is no name
  have added : ∀ finish : Token, finish.kind = .finish → ∀ tokens behindWord,
      callees capabilities behindWord (tokens ++ [finish]) =
        callees capabilities behindWord tokens := by
    intro finish ends tokens
    induction tokens with
    | nil => simp [callees, mayName, keyword?, ends]
    | cons token rest ih => simp [callees, ih]
  simp only [close]
  split
  · rename_i none
    rw [List.getLast?_eq_none_iff.mp none]
    exact added _ rfl [] behindWord
  · split
    · rfl
    · exact added _ rfl tokens behindWord

theorem callees_eq_nil (silent : ∀ token ∈ tokens, token.keyword? ≠ some .call)
    (unlisted : ∀ token ∈ tokens, token.mayName = true →
      capabilities.allowsImplicitCall token.lexeme = false) :
    callees capabilities false tokens = [] := by
  induction tokens with
  | nil => rfl
  | cons token rest ih =>
      obtain ⟨mute, silent⟩ := List.forall_mem_cons.mp silent
      obtain ⟨other, unlisted⟩ := List.forall_mem_cons.mp unlisted
      cases named : token.mayName <;>
        simp_all [callees]

end Token

open Grammar

namespace Program

variable {capabilities : Capabilities} {tokens : List Token} {program : Program}
  {noted : List Recovery}

theorem calls_toNode (program : Program) :
    program.toNode.calls = Node.allCalls (Stmt.toNodes program) :=
  Node.calls_plain nofun

/-- Each call is drawn from a name among the tokens that may be called. -/
theorem calls_le (read : Program.ofTokens ⟨false, capabilities⟩ tokens = .ok (program, noted)) :
    program.toNode.calls ≤ Token.calls capabilities false tokens := by
  have paid := (Program.draws read).2
  rw [Token.calls, Token.callees_close] at paid
  rwa [calls_toNode]

/-- A name that is not on the list is called only right behind a word for a call of its own. -/
theorem unlisted_calls_le
    (read : Program.ofTokens ⟨false, capabilities⟩ tokens = .ok (program, noted)) :
    program.toNode.calls.filter (fun call => capabilities.lists call = false) ≤
      ((Token.wordedNames false tokens).map Token.call : List Node.Call) := by
  refine le_trans (Multiset.filter_le_filter _ (calls_le read)) ?_
  have same : ∀ token : Token, decide (capabilities.lists token.call = false) =
      !capabilities.allowsImplicitCall token.lexeme := by
    intro token
    cases listed : capabilities.allowsImplicitCall token.lexeme <;>
      simp [Capabilities.lists, Token.call, listed]
  simp only [Token.calls, Multiset.filter_coe, List.filter_map, Function.comp_def, same]
  exact Multiset.coe_le.mpr ((Token.unlisted_callees false tokens).map Token.call).subperm

theorem card_unlisted_calls_le
    (read : Program.ofTokens ⟨false, capabilities⟩ tokens = .ok (program, noted)) :
    (program.toNode.calls.filter fun call => capabilities.lists call = false).card ≤
      tokens.countP (·.keyword? = some .call) := by
  have worded := Multiset.card_le_card (unlisted_calls_le read)
  rw [Multiset.coe_card, List.length_map] at worded
  have words := Token.length_wordedNames_le false tokens
  rw [Bool.toNat_false, Nat.zero_add] at words
  exact Nat.le_trans worded words

/-- Whatever the tokens are, a program that is read of them calls a name that is not on the list of
callable names only right behind a word for a call, and there are no more such calls than words for
them. With neither a word for a call nor a callable name among the tokens nothing is called. -/
theorem ofTokens_calls (capabilities : Capabilities) (tokens : List Token) :
    ∃ program noted, Program.ofTokens ⟨false, capabilities⟩ tokens = .ok (program, noted) ∧
      program.toNode.calls.filter (fun call => capabilities.lists call = false) ≤
        ((Token.wordedNames false tokens).map Token.call : List Node.Call) ∧
      (program.toNode.calls.filter fun call => capabilities.lists call = false).card ≤
        tokens.countP (·.keyword? = some .call) ∧
      ((∀ token ∈ tokens, token.keyword? ≠ some .call) →
        (∀ token ∈ tokens, token.mayName = true →
          capabilities.allowsImplicitCall token.lexeme = false) →
        ∀ node ∈ program.toNode.nodes, node.kind ≠ .call) := by
  obtain ⟨program, noted, read⟩ := Program.ofTokens_lenient capabilities tokens
  refine ⟨program, noted, read, unlisted_calls_le read, card_unlisted_calls_le read, ?_⟩
  intro silent unlisted node found calls
  have none := calls_le read
  rw [Token.calls, Token.callees_eq_nil silent unlisted] at none
  -- a node that calls would be among the calls, of which there are none
  have called : (node.scalar, node.place) ∈ program.toNode.calls := by
    refine Multiset.mem_coe.mpr (List.mem_filterMap.mpr ⟨node, found, ?_⟩)
    simp [Node.call?, calls]
  exact absurd (Multiset.mem_of_le none called) (Multiset.notMem_zero _)

/-- A name of one's own in front of parentheses, which stands for itself there. -/
def silentMention : List Token := (Token.scan "chime(\"x\")").dropLast

theorem silent_mention_calls_nothing :
    ∃ program noted, Program.ofTokens ⟨false, .standard⟩ silentMention = .ok (program, noted) ∧
      ∀ node ∈ program.toNode.nodes, node.kind ≠ .call := by
  obtain ⟨program, noted, read, _, _, none⟩ := ofTokens_calls .standard silentMention
  exact ⟨program, noted, read, none (by decide +kernel) (by decide +kernel)⟩

end Program

end Parlance
