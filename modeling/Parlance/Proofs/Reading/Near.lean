import Mathlib.Data.List.Forall2
import Parlance.Grammar.Statement

/-!
Cursors side by side. Two cursors are near if the tokens ahead are the same, but perhaps for where
the closing tokens say they are. No test on the tokens ahead tells near cursors apart.
-/

namespace Parlance

namespace Keyword

/-- Marks that have no other name and stand for no operator. -/
def marks : List String := ["(", ")", "[", "]", ",", ";", ".", ":"]

theorem ofSpelling?_of_mark {symbol : String} (mark : symbol ∈ marks) :
    ofSpelling? symbol = none := by
  revert symbol
  decide +kernel

theorem ofSpelling?_blockOpen : ofSpelling? "\x7b" = some .blockOpen := by decide +kernel

theorem ofSpelling?_blockClose : ofSpelling? "\x7d" = some .blockClose := by decide +kernel

end Keyword

namespace Token

/-- The same token; unless the comparison is exact, any closing token is as good as another. -/
def Alike (exact : Bool) (left right : Token) : Prop :=
  right = left ∨ exact = false ∧ left.kind = .finish ∧ right.kind = .finish

theorem Alike.refl (exact : Bool) (token : Token) : Alike exact token token := Or.inl rfl

namespace Alike

variable {exact : Bool} {left right : Token}

theorem kind_eq (alike : Alike exact left right) : right.kind = left.kind := by
  rcases alike with rfl | ⟨_, finish, finish'⟩
  · rfl
  · rw [finish, finish']

/-- A token that closes nothing, or an exact comparison, leaves no choice. -/
theorem eq (alike : Alike exact left right) (sure : exact = true ∨ left.kind ≠ .finish) :
    right = left := by
  rcases alike with same | ⟨loose, finish, _⟩
  · exact same
  · rcases sure with strict | other
    · simp [loose] at strict
    · exact absurd finish other

/-- Whatever depends on a closing token by its kind alone cannot tell alike tokens apart. -/
theorem apply_eq {α : Type} {f : Token → α} (constant : ∀ token token' : Token,
    token.kind = .finish → token'.kind = .finish → f token' = f token)
    (alike : Alike exact left right) : f right = f left := by
  rcases alike with rfl | ⟨_, finish, finish'⟩
  · rfl
  · exact constant left right finish finish'

theorem keyword?_eq (alike : Alike exact left right) : right.keyword? = left.keyword? :=
  alike.apply_eq fun token token' finish finish' => by simp [keyword?, finish, finish']

theorem isSymbol_eq (alike : Alike exact left right) (symbol : String) :
    right.isSymbol symbol = left.isSymbol symbol :=
  alike.apply_eq (f := (·.isSymbol symbol)) fun token token' finish finish' => by
    simp [isSymbol, finish, finish']

theorem isBoundary_eq (alike : Alike exact left right) : right.isBoundary = left.isBoundary :=
  alike.apply_eq fun token token' finish finish' => by simp [isBoundary, finish, finish']

theorem startsExpression_eq (alike : Alike exact left right) :
    right.startsExpression = left.startsExpression :=
  alike.apply_eq fun token token' finish finish' => by simp [startsExpression, finish, finish']

theorem startsArgument_eq (alike : Alike exact left right) :
    right.startsArgument = left.startsArgument := by
  simp [startsArgument, alike.startsExpression_eq, alike.isSymbol_eq]

theorem isName_eq (alike : Alike exact left right) : right.isName = left.isName :=
  alike.apply_eq fun token token' finish finish' => by simp [isName, finish, finish']

theorem isMethodWord_eq (alike : Alike exact left right) :
    right.isMethodWord = left.isMethodWord :=
  alike.apply_eq fun token token' finish finish' => by simp [isMethodWord, finish, finish']

theorem isMapKey_eq (alike : Alike exact left right) : right.isMapKey = left.isMapKey :=
  alike.apply_eq fun token token' finish finish' => by simp [isMapKey, finish, finish']

theorem opening_eq (alike : Alike exact left right) :
    Grammar.opening right = Grammar.opening left :=
  alike.apply_eq fun token token' finish finish' => by
    simp [Grammar.opening, finish, finish', keyword?, isSymbol]

theorem lead_eq (alike : Alike exact left right) : Grammar.lead right = Grammar.lead left := by
  simp [Grammar.lead, alike.keyword?_eq]

end Alike

theorem ne_finish_of_startsExpression {token : Token} (starts : token.startsExpression = true) :
    token.kind ≠ .finish := by
  intro finish
  simp [startsExpression, finish] at starts

theorem ne_finish_of_isSymbol {token : Token} {symbol : String}
    (found : token.isSymbol symbol = true) : token.kind ≠ .finish := by
  intro finish
  simp [isSymbol, finish] at found

theorem ne_finish_of_isName {token : Token} (found : token.isName = true) :
    token.kind ≠ .finish := by
  intro finish
  simp [isName, finish] at found

theorem ne_finish_of_isMethodWord {token : Token} (found : token.isMethodWord = true) :
    token.kind ≠ .finish := by
  intro finish
  simp [isMethodWord, finish] at found

theorem ne_finish_of_isMapKey {token : Token} (found : token.isMapKey = true) :
    token.kind ≠ .finish := by
  intro finish
  simp [isMapKey, finish] at found

theorem ne_finish_of_not_boundary {token : Token} (inside : token.isBoundary = false) :
    token.kind ≠ .finish := by
  intro finish
  simp [isBoundary, finish] at inside

theorem ne_finish_of_opening {token : Token} (opens : Grammar.opening token ≠ .nothing) :
    token.kind ≠ .finish := by
  intro finish
  simp [Grammar.opening, finish, keyword?, isSymbol] at opens

theorem ne_finish_of_lead {token : Token} (leads : Grammar.lead token ≠ .plain) :
    token.kind ≠ .finish := by
  intro finish
  simp [Grammar.lead, finish, keyword?] at leads

theorem not_bracket_of_keyword? {token : Token} (spelt : token.keyword? ≠ none) :
    token.isSymbol "[" = false := by
  by_contra bracket
  rw [Bool.not_eq_false] at bracket
  simp only [isSymbol, Bool.and_eq_true, decide_eq_true_eq] at bracket
  refine spelt ?_
  simp only [keyword?, bracket.1, bracket.2]
  exact Keyword.ofSpelling?_of_mark (by decide)

theorem not_bracket_of_opening {token : Token} (opens : Grammar.opening token = .nothing) :
    token.isSymbol "[" = false := by
  by_contra bracket
  rw [Bool.not_eq_false] at bracket
  have kind : token.kind = .symbol := by
    simp only [isSymbol, Bool.and_eq_true, decide_eq_true_eq] at bracket
    exact bracket.1
  simp only [Grammar.opening, kind, bracket, ↓reduceIte] at opens
  split at opens
  -- only a symbol that is a bracket comes this far
  case h_6 =>
    split at opens
    · cases opens
    · cases opens
  all_goals cases opens

theorem ne_finish_of_keyword? {token : Token} {keyword : Keyword}
    (found : token.keyword? = some keyword) : token.kind ≠ .finish := by
  intro finish
  simp [keyword?, finish] at found

end Token

namespace Grammar

/-- A comparison of two readings. The left one is lenient; the right one may be strict. -/
structure Pairing where
  capabilities : Capabilities
  strict : Bool
  exact : Bool

namespace Pairing

def left (pairing : Pairing) : Mode := ⟨false, pairing.capabilities⟩

def right (pairing : Pairing) : Mode := ⟨pairing.strict, pairing.capabilities⟩

end Pairing

abbrev TokensAlike (exact : Bool) : List Token → List Token → Prop :=
  List.Forall₂ (Token.Alike exact)

/-- Cursors with alike tokens ahead. In settled ones the token before them counts too, unless no
bracket follows that could touch it. -/
structure Near (pairing : Pairing) (settled : Bool) (left right : Cursor) : Prop where
  rest : TokensAlike pairing.exact left.rest right.rest
  stops : settled = true →
    right.lastStop = left.lastStop ∨ left.isAtSymbol "[" = false

instance (exact : Bool) : Std.Refl (Token.Alike exact) := ⟨Token.Alike.refl exact⟩

theorem tokensAlike_refl (exact : Bool) (tokens : List Token) : TokensAlike exact tokens tokens :=
  List.forall₂_refl tokens

namespace Near

variable {pairing : Pairing} {settled : Bool} {left right : Cursor}

theorem refl (pairing : Pairing) (settled : Bool) (cursor : Cursor) :
    Near pairing settled cursor cursor :=
  ⟨tokensAlike_refl _ _, fun _ => Or.inl rfl⟩

theorem loosen (near : Near pairing settled left right) : Near pairing false left right :=
  ⟨near.rest, fun held => nomatch held⟩

theorem settle (near : Near pairing settled left right) (plain : left.isAtSymbol "[" = false) :
    Near pairing true left right :=
  ⟨near.rest, fun _ => Or.inr plain⟩

theorem length_eq (near : Near pairing settled left right) :
    right.rest.length = left.rest.length :=
  near.rest.length_eq.symm

theorem ahead (near : Near pairing settled left right) (count : Nat) :
    Token.Alike pairing.exact (left.ahead count) (right.ahead count) := by
  have dropped := List.forall₂_drop count near.rest
  simp only [Cursor.ahead]
  generalize left.rest.drop count = tokens, right.rest.drop count = tokens' at dropped
  cases dropped with
  | nil => exact Token.Alike.refl _ _
  | cons alike _ => exact alike

theorem current (near : Near pairing settled left right) :
    Token.Alike pairing.exact left.current right.current :=
  near.ahead 0

theorem current_eq (near : Near pairing settled left right)
    (sure : pairing.exact = true ∨ left.current.kind ≠ .finish) : right.current = left.current :=
  near.current.eq sure

theorem isAt_eq (near : Near pairing settled left right) (keyword : Keyword) :
    right.isAt keyword = left.isAt keyword := by
  simp [Cursor.isAt, near.current.keyword?_eq]

theorem isAtSymbol_eq (near : Near pairing settled left right) (symbol : String) :
    right.isAtSymbol symbol = left.isAtSymbol symbol :=
  near.current.isSymbol_eq symbol

theorem atEnd_eq (near : Near pairing settled left right) : right.atEnd = left.atEnd := by
  simp [Cursor.atEnd, near.current.kind_eq]

theorem atMap_eq (near : Near pairing settled left right) : right.atMap = left.atMap := by
  simp [Cursor.atMap, near.isAtSymbol_eq, (near.ahead 1).isMapKey_eq, (near.ahead 2).isSymbol_eq]

theorem atPointMethod_eq (near : Near pairing settled left right) :
    right.atPointMethod = left.atPointMethod := by
  simp [Cursor.atPointMethod, near.isAtSymbol_eq, (near.ahead 1).isMethodWord_eq]

theorem binaryOp?_eq (near : Near pairing settled left right) :
    right.binaryOp? = left.binaryOp? := by
  simp [Cursor.binaryOp?, near.current.keyword?_eq]

theorem unaryOp?_eq (near : Near pairing settled left right) :
    right.unaryOp? = left.unaryOp? := by
  simp [Cursor.unaryOp?, near.current.keyword?_eq]

theorem and_isOnLine_eq (near : Near pairing settled left right) (line : Nat) {test : Bool}
    (open' : test = true → left.current.kind ≠ .finish) :
    (test && right.isOnLine line) = (test && left.isOnLine line) := by
  cases test with
  | false => rfl
  | true => simp [Cursor.isOnLine, near.current_eq (Or.inr (open' rfl))]

theorem startsOnLine_eq (near : Near pairing settled left right) (line : Nat) :
    (right.current.startsExpression && right.isOnLine line) =
      (left.current.startsExpression && left.isOnLine line) := by
  rw [near.current.startsExpression_eq]
  exact near.and_isOnLine_eq line Token.ne_finish_of_startsExpression

theorem argumentOnLine_eq (near : Near pairing settled left right) (line : Nat) :
    ((right.current.startsExpression || right.atMap) && right.isOnLine line) =
      ((left.current.startsExpression || left.atMap) && left.isOnLine line) := by
  rw [near.current.startsExpression_eq, near.atMap_eq]
  refine near.and_isOnLine_eq line fun starts => ?_
  rcases Bool.or_eq_true_iff.mp starts with starts | map
  · exact Token.ne_finish_of_startsExpression starts
  · simp only [Cursor.atMap, Bool.and_eq_true] at map
    exact Token.ne_finish_of_isSymbol map.1.1

theorem atBareMethod_eq (near : Near pairing settled left right) (capabilities : Capabilities)
    (name : Token) :
    right.atBareMethod capabilities name = left.atBareMethod capabilities name := by
  simp only [Cursor.atBareMethod, near.current.isMethodWord_eq]
  refine near.and_isOnLine_eq name.line fun found => ?_
  exact Token.ne_finish_of_isMethodWord (Bool.and_eq_true_iff.mp found).2

theorem callsImplicitly_eq (near : Near pairing settled left right) (capabilities : Capabilities)
    (name : Token) :
    right.callsImplicitly capabilities name = left.callsImplicitly capabilities name := by
  simp only [Cursor.callsImplicitly, near.isAtSymbol_eq, near.current.isMethodWord_eq,
    near.current.startsExpression_eq]
  by_cases finish : left.current.kind = .finish
  · have none : left.isAtSymbol "." = false := by
      simp [Cursor.isAtSymbol, Token.isSymbol, finish]
    simp [none, Token.isMethodWord, Token.startsExpression, finish]
  · simp [Cursor.isOnLine, near.current_eq (Or.inr finish)]

theorem touches_eq (near : Near pairing true left right) :
    (right.isAtSymbol "[" && right.touches) = (left.isAtSymbol "[" && left.touches) := by
  rw [near.isAtSymbol_eq]
  by_cases bracket : left.isAtSymbol "[" = true
  · have same := near.current_eq (Or.inr (Token.ne_finish_of_isSymbol bracket))
    rcases near.stops rfl with stops | none
    · simp [Cursor.touches, stops, same]
    · simp [bracket] at none
  · simp [bracket]

theorem closingParen?_alike {exact : Bool} {tokens tokens' : List Token}
    (alike : TokensAlike exact tokens tokens') (depth : Nat) :
    (closingParen? depth tokens = none ∧ closingParen? depth tokens' = none) ∨
      ∃ close rest rest', closingParen? depth tokens = some (close, rest) ∧
        closingParen? depth tokens' = some (close, rest') ∧ TokensAlike exact rest rest' := by
  induction alike generalizing depth with
  | nil => exact Or.inl ⟨rfl, rfl⟩
  | cons token rest ih =>
      rename_i left right _ _
      simp only [closingParen?, token.isSymbol_eq]
      by_cases opens : left.isSymbol "(" = true
      · simp only [opens, ↓reduceIte]
        exact ih _
      · by_cases closes : left.isSymbol ")" = true
        · simp only [opens, closes, Bool.false_eq_true, ↓reduceIte]
          by_cases last : depth ≤ 1
          · have same := token.eq (Or.inr (Token.ne_finish_of_isSymbol closes))
            simp only [last, ↓reduceIte]
            exact Or.inr ⟨left, _, _, rfl, by rw [same], rest⟩
          · simp only [last, ↓reduceIte]
            exact ih _
        · simp only [opens, closes, Bool.false_eq_true, ↓reduceIte]
          exact ih _

theorem atOutputParens_eq (near : Near pairing settled left right) :
    right.atOutputParens = left.atOutputParens := by
  simp only [Cursor.atOutputParens, near.isAtSymbol_eq]
  congr 1
  rcases closingParen?_alike near.rest 0 with ⟨none, none'⟩ |
    ⟨close, rest, rest', found, found', alike⟩
  · rw [none, none']
  · rw [found, found']
    cases alike with
    | nil => rfl
    | cons token _ =>
        simp only [token.isBoundary_eq]
        rename_i after _ _ _ _
        by_cases finish : after.kind = .finish
        · simp [Token.isBoundary, finish]
        · rw [token.eq (Or.inr finish)]

/-- The token ahead is passed alike, and what follows is settled. -/
theorem advance (near : Near pairing settled left right) :
    Near pairing true left.advance right.advance := by
  obtain ⟨tokens, lastStop⟩ := left
  obtain ⟨tokens', lastStop'⟩ := right
  have alike := near.rest
  cases alike with
  | nil => exact ⟨List.Forall₂.nil, fun _ => Or.inr rfl⟩
  | cons token rest =>
      rename_i first first' _ _
      simp only [Cursor.advance, token.kind_eq]
      by_cases finish : first.kind = .finish
      · simp only [finish, ↓reduceIte]
        refine ⟨List.Forall₂.cons token rest, fun _ => Or.inr ?_⟩
        simp [Cursor.isAtSymbol, Cursor.current, Cursor.ahead, Token.isSymbol, finish]
      · simp only [finish, ↓reduceIte]
        exact ⟨rest, fun _ => Or.inl (by rw [token.eq (Or.inr finish)])⟩

end Near

theorem Cursor.ahead_advance (cursor : Cursor) (count : Nat)
    (here : cursor.current.kind ≠ .finish) :
    cursor.advance.ahead count = cursor.ahead (count + 1) := by
  obtain ⟨tokens, lastStop⟩ := cursor
  cases tokens with
  | nil => simp [Cursor.ahead, Cursor.advance]
  | cons token rest =>
      have other : token.kind ≠ .finish := here
      simp [Cursor.ahead, Cursor.advance, other]

theorem Cursor.advance_suffix (cursor : Cursor) : cursor.advance.rest <:+ cursor.rest := by
  obtain ⟨tokens, lastStop⟩ := cursor
  cases tokens with
  | nil => exact List.suffix_rfl
  | cons token rest =>
      simp only [Cursor.advance]
      split
      · exact List.suffix_rfl
      · exact List.suffix_cons token rest

theorem Cursor.advance_shorter (cursor : Cursor) (open' : cursor.atEnd = false) :
    cursor.advance.rest.length < cursor.rest.length := by
  obtain ⟨tokens, lastStop⟩ := cursor
  cases tokens with
  | nil => cases open'
  | cons token rest =>
      have other : token.kind ≠ .finish := of_decide_eq_false open'
      simp [Cursor.advance, other]

end Grammar

end Parlance
