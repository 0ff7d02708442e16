import Parlance.Proofs.Reading.Near

/-!
Two readers of the same tokens. Each may know names that the other does not, and find other tokens
behind those that they share: the left one a closing token, the right one the same or a separator.
Before a token that they share no test tells the readers apart, if what it may be read as a name of
is known to both alike; behind the last one no test does but those for the two tokens themselves.
-/

namespace Parlance

namespace Token

def mayName (token : Token) : Bool :=
  token.kind = .identifier || token.keyword? = some .typeWord

theorem mayName_of_isName {token : Token} (name : token.isName = true) :
    token.mayName = true := by
  simp only [isName, Bool.or_eq_true, Bool.and_eq_true] at name
  simp only [mayName, Bool.or_eq_true]
  exact name.imp_right And.right

theorem mayName_of_opening {token : Token} (opens : Grammar.opening token = .name) :
    token.mayName = true := by
  simp only [Grammar.opening] at opens
  split at opens
  case h_3 identifier => simp [mayName, identifier]
  case h_4 =>
    split at opens
    case h_5 word => simp [mayName, word]
    case h_6 =>
      split at opens
      · cases opens
      · split at opens
        · cases opens
        · split at opens <;> cases opens
    all_goals cases opens
  all_goals cases opens

/-- The same token, or a separator in place of a closing token. -/
def Parts (left right : Token) : Prop :=
  right = left ∨ left.kind = .finish ∧ right.isSymbol ";" = true

namespace Parts

variable {left right : Token}

theorem eq (parts : Parts left right) (other : left.kind ≠ .finish) : right = left :=
  parts.resolve_right fun finish => other finish.1

theorem separator (parts : Parts left right) (differ : right ≠ left) :
    left.kind = .finish ∧ right.kind = .symbol ∧ right.lexeme = ";" := by
  obtain ⟨finish, symbol⟩ := parts.resolve_left differ
  simp only [isSymbol, Bool.and_eq_true, decide_eq_true_eq] at symbol
  exact ⟨finish, symbol⟩

/-- What is the same of a closing token and a separator is the same of both. -/
theorem apply_eq {α : Type} {f : Token → α} (constant : ∀ token token' : Token,
    token.kind = .finish → token'.kind = .symbol → token'.lexeme = ";" → f token' = f token)
    (parts : Parts left right) : f right = f left := by
  by_cases same : right = left
  · rw [same]
  · obtain ⟨finish, kind, lexeme⟩ := parts.separator same
    exact constant left right finish kind lexeme

theorem keyword?_eq (parts : Parts left right) : right.keyword? = left.keyword? :=
  parts.apply_eq fun token token' finish kind lexeme => by
    have none : Keyword.ofSpelling? ";" = none := Keyword.ofSpelling?_of_mark (by decide)
    simp [keyword?, finish, kind, lexeme, none]

theorem isSymbol_eq (parts : Parts left right) {symbol : String} (other : symbol ≠ ";") :
    right.isSymbol symbol = left.isSymbol symbol :=
  parts.apply_eq (f := (·.isSymbol symbol)) fun token token' finish kind lexeme => by
    simp [isSymbol, finish, kind, lexeme, other.symm]

theorem isBoundary_eq (parts : Parts left right) : right.isBoundary = left.isBoundary :=
  parts.apply_eq fun token token' finish kind lexeme => by
    simp [isBoundary, isBoundarySymbol, finish, kind, lexeme]

theorem startsExpression_eq (parts : Parts left right) :
    right.startsExpression = left.startsExpression :=
  parts.apply_eq fun token token' finish kind lexeme => by
    simp [startsExpression, finish, kind, lexeme]

theorem startsArgument_eq (parts : Parts left right) :
    right.startsArgument = left.startsArgument := by
  simp [startsArgument, parts.startsExpression_eq, parts.isSymbol_eq]

theorem isName_eq (parts : Parts left right) : right.isName = left.isName :=
  parts.apply_eq fun token token' finish kind lexeme => by simp [isName, finish, kind]

theorem isMethodWord_eq (parts : Parts left right) : right.isMethodWord = left.isMethodWord :=
  parts.apply_eq fun token token' finish kind lexeme => by simp [isMethodWord, finish, kind]

theorem isMapKey_eq (parts : Parts left right) : right.isMapKey = left.isMapKey :=
  parts.apply_eq fun token token' finish kind lexeme => by simp [isMapKey, finish, kind]

theorem opening_eq (parts : Parts left right) : Grammar.opening right = Grammar.opening left :=
  parts.apply_eq fun token token' finish kind lexeme => by
    have none : Keyword.ofSpelling? ";" = none := Keyword.ofSpelling?_of_mark (by decide)
    simp [Grammar.opening, keyword?, isSymbol, finish, kind, lexeme, none]

theorem lead_eq (parts : Parts left right) : Grammar.lead right = Grammar.lead left := by
  simp [Grammar.lead, parts.keyword?_eq]

end Parts

end Token

namespace Grammar

open Rule

/-- What two lenient readers have in common, and where they part. -/
structure Fork where
  left : Capabilities
  right : Capabilities
  /-- Names that both readers treat alike. -/
  common : String → Prop
  isModule_eq : ∀ ⦃name⦄, common name → right.isModule name = left.isModule name
  isElement_eq : ∀ ⦃name⦄, common name → right.isElement name = left.isElement name
  /-- Behind the shared tokens the left reader finds the end. -/
  finish : Token
  ends : finish.kind = .finish
  /-- What the right reader finds there. -/
  behind : List Token
  parts : behind = [finish] ∨
    ∃ separator rest, behind = separator :: rest ∧ separator.isSymbol ";" = true

namespace Fork

def leftMode (fork : Fork) : Mode := ⟨false, fork.left⟩

def rightMode (fork : Fork) : Mode := ⟨false, fork.right⟩

def Exact (fork : Fork) : Prop := fork.behind = [fork.finish]

def Common (fork : Fork) (names : List String) : Prop := ∀ name ∈ names, fork.common name

/-- None of the tokens closes, and what may be a name is one that both readers treat alike. -/
def Shared (fork : Fork) (tokens : List Token) : Prop :=
  ∀ token ∈ tokens, token.kind ≠ .finish ∧ (token.mayName = true → fork.common token.lexeme)

/-- The cursors have the same shared tokens ahead, and behind those what either reader finds. -/
structure Beside (fork : Fork) (left right : Cursor) : Prop where
  ahead : ∃ front, fork.Shared front ∧ left.rest = front ++ [fork.finish] ∧
    right.rest = front ++ fork.behind
  lastStop : right.lastStop = left.lastStop

variable {fork : Fork}

theorem and_eq_of_passed {test answer answer' : Bool} (same : test = true → answer' = answer) :
    (test && answer') = (test && answer) := by
  cases test with
  | false => rfl
  | true => rw [same rfl]

theorem common_nil : fork.Common [] := List.forall_mem_nil _

theorem common_cons {name : String} {names : List String} :
    fork.Common (name :: names) ↔ fork.common name ∧ fork.Common names := List.forall_mem_cons

theorem common_append {front names : List String} :
    fork.Common (front ++ names) ↔ fork.Common front ∧ fork.Common names :=
  List.forall_mem_append

namespace Beside

variable {left right : Cursor}

theorem eq_of_exact (beside : fork.Beside left right) (exact' : fork.Exact) : right = left := by
  obtain ⟨front, _, ahead, ahead'⟩ := beside.ahead
  obtain ⟨tokens, lastStop⟩ := left
  obtain ⟨tokens', lastStop'⟩ := right
  obtain rfl : lastStop' = lastStop := beside.lastStop
  simp only at ahead ahead'
  rw [ahead, ahead', exact']

/-- Whether fewer tokens are ahead is the same for both readers. -/
theorem shorter_iff {left' right' : Cursor} (beside : fork.Beside left right)
    (beside' : fork.Beside left' right') :
    right.rest.length < right'.rest.length ↔ left.rest.length < left'.rest.length := by
  obtain ⟨_, _, ahead, ahead'⟩ := beside.ahead
  obtain ⟨_, _, other, other'⟩ := beside'.ahead
  simp only [ahead, ahead', other, other', List.length_append]
  omega

theorem length_le (beside : fork.Beside left right) : left.rest.length ≤ right.rest.length := by
  obtain ⟨_, _, ahead, ahead'⟩ := beside.ahead
  have some' : 0 < fork.behind.length := by
    rcases fork.parts with same | ⟨_, _, same, _⟩ <;> simp [same]
  simp only [ahead, ahead', List.length_append, List.length_singleton]
  omega

/-- The readers stand at the fork, or before a token that they share. -/
theorem cases (beside : fork.Beside left right) :
    (left.rest = [fork.finish] ∧ right.rest = fork.behind) ∨
      ∃ token front, fork.Shared (token :: front) ∧ left.rest = token :: front ++ [fork.finish] ∧
        right.rest = token :: front ++ fork.behind := by
  obtain ⟨front, shared, ahead, ahead'⟩ := beside.ahead
  cases front with
  | nil => exact Or.inl ⟨ahead, ahead'⟩
  | cons token front => exact Or.inr ⟨token, front, shared, ahead, ahead'⟩

theorem current (beside : fork.Beside left right) : Token.Parts left.current right.current := by
  rcases beside.cases with ⟨ahead, ahead'⟩ | ⟨token, front, _, ahead, ahead'⟩
  · rcases fork.parts with same | ⟨separator, rest, found, symbol⟩
    · simp [Cursor.current, Cursor.ahead, ahead, ahead', same, Token.Parts]
    · refine Or.inr ⟨?_, ?_⟩
      · simpa [Cursor.current, Cursor.ahead, ahead] using fork.ends
      · simpa [Cursor.current, Cursor.ahead, ahead', found] using symbol
  · simp [Cursor.current, Cursor.ahead, ahead, ahead', Token.Parts]

theorem current_eq (beside : fork.Beside left right) (other : left.current.kind ≠ .finish) :
    right.current = left.current := beside.current.eq other

theorem token (beside : fork.Beside left right) (other : left.current.kind ≠ .finish) :
    ∃ front, fork.Shared (left.current :: front) ∧
      left.rest = left.current :: front ++ [fork.finish] ∧
      right.rest = left.current :: front ++ fork.behind := by
  rcases beside.cases with ⟨ahead, _⟩ | ⟨token, front, shared, ahead, ahead'⟩
  · exact absurd (by simpa [Cursor.current, Cursor.ahead, ahead] using fork.ends) other
  · have here : left.current = token := by simp [Cursor.current, Cursor.ahead, ahead]
    rw [here]
    exact ⟨front, shared, ahead, ahead'⟩

theorem common (beside : fork.Beside left right) (other : left.current.kind ≠ .finish)
    (names : left.current.mayName = true) : fork.common left.current.lexeme := by
  obtain ⟨_, shared, _⟩ := beside.token other
  exact (shared _ List.mem_cons_self).2 names

theorem advance (beside : fork.Beside left right) (other : left.current.kind ≠ .finish) :
    fork.Beside left.advance right.advance := by
  obtain ⟨front, shared, ahead, ahead'⟩ := beside.token other
  refine ⟨⟨front, fun token found => shared token (List.mem_cons_of_mem _ found), ?_, ?_⟩, ?_⟩
  · simp [Cursor.advance, ahead, other]
  · simp [Cursor.advance, ahead', other]
  · simp [Cursor.advance, ahead, ahead', other]

theorem ahead_one (beside : fork.Beside left right) (other : left.current.kind ≠ .finish) :
    Token.Parts (left.ahead 1) (right.ahead 1) := by
  have other' : right.current.kind ≠ .finish := by rwa [beside.current_eq other]
  rw [← Cursor.ahead_advance left 0 other, ← Cursor.ahead_advance right 0 other']
  exact (beside.advance other).current

theorem isAt_eq (beside : fork.Beside left right) (keyword : Keyword) :
    right.isAt keyword = left.isAt keyword := by
  simp [Cursor.isAt, beside.current.keyword?_eq]

theorem isAtSymbol_eq (beside : fork.Beside left right) {symbol : String} (other : symbol ≠ ";") :
    right.isAtSymbol symbol = left.isAtSymbol symbol :=
  beside.current.isSymbol_eq other

theorem binaryOp?_eq (beside : fork.Beside left right) : right.binaryOp? = left.binaryOp? := by
  simp [Cursor.binaryOp?, beside.current.keyword?_eq]

theorem unaryOp?_eq (beside : fork.Beside left right) : right.unaryOp? = left.unaryOp? := by
  simp [Cursor.unaryOp?, beside.current.keyword?_eq]

theorem isOnLine_eq (beside : fork.Beside left right) (line : Nat)
    (other : left.current.kind ≠ .finish) : right.isOnLine line = left.isOnLine line := by
  simp [Cursor.isOnLine, beside.current_eq other]

theorem startsOnLine_eq (beside : fork.Beside left right) (line : Nat) :
    (right.current.startsExpression && right.isOnLine line) =
      (left.current.startsExpression && left.isOnLine line) := by
  rw [beside.current.startsExpression_eq]
  exact and_eq_of_passed fun starts =>
    beside.isOnLine_eq line (Token.ne_finish_of_startsExpression starts)

theorem atMap_eq (beside : fork.Beside left right) : right.atMap = left.atMap := by
  -- three tokens are looked at, each only if those before it passed, so none past the fork
  simp only [Cursor.atMap, beside.isAtSymbol_eq (by decide : "\x7b" ≠ ";"), Bool.and_assoc]
  refine and_eq_of_passed fun brace => ?_
  have other := Token.ne_finish_of_isSymbol brace
  have other' : right.current.kind ≠ .finish := by rwa [beside.current_eq other]
  rw [(beside.ahead_one other).isMapKey_eq]
  refine and_eq_of_passed fun isKey => ?_
  have key : left.advance.current.kind ≠ .finish := by
    rw [Cursor.current, Cursor.ahead_advance left 0 other]
    exact Token.ne_finish_of_isMapKey isKey
  have colon := ((beside.advance other).ahead_one key).isSymbol_eq (by decide : ":" ≠ ";")
  rwa [Cursor.ahead_advance left 1 other, Cursor.ahead_advance right 1 other'] at colon

theorem argumentOnLine_eq (beside : fork.Beside left right) (line : Nat) :
    ((right.current.startsExpression || right.atMap) && right.isOnLine line) =
      ((left.current.startsExpression || left.atMap) && left.isOnLine line) := by
  rw [beside.current.startsExpression_eq, beside.atMap_eq]
  refine and_eq_of_passed fun starts => beside.isOnLine_eq line ?_
  rcases Bool.or_eq_true_iff.mp starts with starts | map
  · exact Token.ne_finish_of_startsExpression starts
  · simp only [Cursor.atMap, Bool.and_eq_true] at map
    exact Token.ne_finish_of_isSymbol map.1.1

theorem atPointMethod_eq (beside : fork.Beside left right) :
    right.atPointMethod = left.atPointMethod := by
  simp only [Cursor.atPointMethod, beside.isAtSymbol_eq (by decide : "." ≠ ";")]
  exact and_eq_of_passed fun point =>
    (beside.ahead_one (Token.ne_finish_of_isSymbol point)).isMethodWord_eq

theorem atBareMethod_eq (beside : fork.Beside left right) {name : Token}
    (known : fork.common name.lexeme) :
    right.atBareMethod fork.right name = left.atBareMethod fork.left name := by
  simp only [Cursor.atBareMethod, fork.isModule_eq known, beside.current.isMethodWord_eq]
  exact and_eq_of_passed fun found => beside.isOnLine_eq name.line
    (Token.ne_finish_of_isMethodWord (Bool.and_eq_true_iff.mp found).2)

theorem callsImplicitly_eq (beside : fork.Beside left right) {name : Token}
    (known : fork.common name.lexeme) :
    right.callsImplicitly fork.right name = left.callsImplicitly fork.left name := by
  simp only [Cursor.callsImplicitly, Capabilities.allowsImplicitCall, fork.isModule_eq known,
    fork.isElement_eq known, beside.isAtSymbol_eq (by decide : "." ≠ ";"),
    beside.current.isMethodWord_eq, beside.current.startsExpression_eq]
  by_cases finish : left.current.kind = .finish
  · -- a separator may be on another line than the closing token, but neither begins an argument
    have none : left.isAtSymbol "." = false := by
      simp [Cursor.isAtSymbol, Token.isSymbol, finish]
    simp [none, Token.isMethodWord, Token.startsExpression, finish]
  · rw [beside.isOnLine_eq name.line finish]

theorem touches_eq (beside : fork.Beside left right) :
    (right.isAtSymbol "[" && right.touches) = (left.isAtSymbol "[" && left.touches) := by
  rw [beside.isAtSymbol_eq (by decide)]
  refine and_eq_of_passed fun bracket => ?_
  simp [Cursor.touches, beside.lastStop,
    beside.current_eq (Token.ne_finish_of_isSymbol bracket)]

end Beside

end Fork

end Grammar

end Parlance
