import Parlance.Grammar.Statement
import Parlance.Proofs.Spelling.Canonical

/-!
Tokens spelled anew. A keyword may be replaced by another spelling of it; no test on the tokens
ahead, and no search among them, tells the two lists apart.
-/

namespace Parlance

namespace Token

/-- The same token, or a keyword in another spelling. Type words serve as names too, and the word
`put` turns an assignment around, so neither is exchanged for another word. -/
inductive Respelt : Token → Token → Prop
  | same (token : Token) : Respelt token token
  | synonym {token : Token} {keyword : Keyword} (word : String) (kind : token.kind = .keyword)
      (spelling : Keyword.ofSpelling? token.lexeme = some keyword)
      (spelling' : Keyword.ofSpelling? word = some keyword) (other : keyword ≠ .typeWord)
      (put : Unicode.lower word = "put" ↔ Unicode.lower token.lexeme = "put") :
      Respelt token { token with lexeme := word }

abbrev AllRespelt : List Token → List Token → Prop := List.Forall₂ Respelt

instance : Std.Refl Respelt := ⟨Respelt.same⟩

namespace Respelt

variable {left right : Token}

theorem kind_eq (respelt : Respelt left right) : right.kind = left.kind := by
  cases respelt <;> rfl

theorem offset_eq (respelt : Respelt left right) : right.offset = left.offset := by
  cases respelt <;> rfl

theorem place_eq (respelt : Respelt left right) : right.place = left.place := by
  cases respelt <;> rfl

theorem stop_eq (respelt : Respelt left right) : right.stop = left.stop := by
  cases respelt <;> rfl

theorem line_eq (respelt : Respelt left right) : right.line = left.line :=
  congrArg Place.line respelt.place_eq

theorem keyword?_eq (respelt : Respelt left right) : right.keyword? = left.keyword? := by
  cases respelt with
  | same => rfl
  | synonym word kind spelling spelling' => simp [keyword?, kind, spelling, spelling']

theorem iff_keyword (left right : Token) : Respelt left right ↔ right = left ∨
    left.kind = .keyword ∧ left.keyword? ≠ none ∧ left.keyword? ≠ some .typeWord ∧
      right = { left with lexeme := right.lexeme } ∧ right.keyword? = left.keyword? ∧
        (Unicode.lower right.lexeme = "put" ↔ Unicode.lower left.lexeme = "put") := by
  constructor
  · intro respelt
    have keyword := respelt.keyword?_eq
    cases respelt with
    | same => exact Or.inl rfl
    | @synonym found word kind spelling spelling' other put =>
        have spelt : left.keyword? = some found := by simpa [keyword?, kind] using spelling
        exact Or.inr ⟨kind, by simp [spelt], by simpa [spelt] using other, rfl, keyword, put⟩
  · rintro (rfl | ⟨kind, spelt, other, same, keyword, put⟩)
    · exact .same right
    · obtain ⟨found, spelling⟩ := Option.ne_none_iff_exists'.mp spelt
      have spelling' : right.keyword? = some found := keyword.trans spelling
      rw [same] at spelling' ⊢
      exact .synonym right.lexeme kind (by simpa [keyword?, kind] using spelling)
        (by simpa [keyword?, kind] using spelling') (by simpa [spelling] using other) put

instance (left right : Token) : Decidable (Respelt left right) :=
  decidable_of_iff _ (iff_keyword left right).symm

theorem eq_or_keyword (respelt : Respelt left right) :
    right = left ∨ left.kind = .keyword ∧ left.keyword? ≠ some .typeWord := by
  cases respelt with
  | same => exact Or.inl rfl
  | synonym word kind spelling _ other =>
      exact Or.inr ⟨kind, by simpa [keyword?, kind, spelling] using other⟩

theorem eq_of_kind (respelt : Respelt left right) (kind : left.kind ≠ .keyword) : right = left :=
  respelt.eq_or_keyword.resolve_right fun word => kind word.1

theorem eq_of_isName (respelt : Respelt left right) (name : left.isName = true) :
    right = left := by
  rcases respelt.eq_or_keyword with same | ⟨kind, other⟩
  · exact same
  · simp [isName, kind, other] at name

theorem isSymbol_eq (respelt : Respelt left right) (symbol : String) :
    right.isSymbol symbol = left.isSymbol symbol := by
  by_cases kind : left.kind = .keyword
  · simp [isSymbol, kind, respelt.kind_eq]
  · rw [respelt.eq_of_kind kind]

theorem isBoundary_eq (respelt : Respelt left right) : right.isBoundary = left.isBoundary := by
  by_cases kind : left.kind = .keyword
  · simp [isBoundary, isBoundarySymbol, kind, respelt.kind_eq, respelt.keyword?_eq]
  · rw [respelt.eq_of_kind kind]

theorem startsExpression_eq (respelt : Respelt left right) :
    right.startsExpression = left.startsExpression := by
  by_cases kind : left.kind = .keyword
  · simp [startsExpression, kind, respelt.kind_eq, respelt.keyword?_eq]
  · rw [respelt.eq_of_kind kind]

theorem startsArgument_eq (respelt : Respelt left right) :
    right.startsArgument = left.startsArgument := by
  simp [startsArgument, respelt.startsExpression_eq, respelt.isSymbol_eq]

theorem isName_eq (respelt : Respelt left right) : right.isName = left.isName := by
  simp [isName, respelt.kind_eq, respelt.keyword?_eq]

theorem isMethodWord_eq (respelt : Respelt left right) :
    right.isMethodWord = left.isMethodWord := by
  simp [isMethodWord, respelt.kind_eq, respelt.keyword?_eq]

theorem isMapKey_eq (respelt : Respelt left right) : right.isMapKey = left.isMapKey := by
  simp [isMapKey, respelt.kind_eq, respelt.keyword?_eq]

theorem opening_eq (respelt : Respelt left right) :
    Grammar.opening right = Grammar.opening left := by
  by_cases kind : left.kind = .keyword
  · simp [Grammar.opening, kind, respelt.kind_eq, respelt.keyword?_eq, respelt.isSymbol_eq]
  · rw [respelt.eq_of_kind kind]

theorem eq_of_opening (respelt : Respelt left right) (opens : Grammar.opening left = .name) :
    right = left := by
  rcases respelt.eq_or_keyword with same | ⟨kind, other⟩
  · exact same
  · simp only [Grammar.opening, kind] at opens
    split at opens
    case h_5 typeWord => exact absurd typeWord other
    all_goals repeat' first
      | cases opens
      | split at opens

theorem lead_eq (respelt : Respelt left right) : Grammar.lead right = Grammar.lead left := by
  simp [Grammar.lead, respelt.keyword?_eq]

theorem putsValueFirst_eq (respelt : Respelt left right) :
    Grammar.putsValueFirst right = Grammar.putsValueFirst left := by
  cases respelt with
  | same => rfl
  | synonym word _ _ _ _ put => simp [Grammar.putsValueFirst, put]

theorem lexeme_same (respelt : Respelt left right) : Same left.lexeme right.lexeme := by
  cases respelt with
  | same => rfl
  | synonym word _ spelling spelling' =>
      simp [Same, Canonical.canonical, Keyword.canonical, spelling, spelling']

theorem keyOf_same (respelt : Respelt left right) :
    Same (Grammar.keyOf left) (Grammar.keyOf right) := by
  by_cases kind : left.kind = .keyword
  · have lexeme : Keyword.canonical right.lexeme = Keyword.canonical left.lexeme :=
      respelt.lexeme_same
    simp [Same, Canonical.canonical, MapKey.canonical, Grammar.keyOf, kind, respelt.kind_eq,
      respelt.place_eq, lexeme]
  · rw [respelt.eq_of_kind kind]
    exact Same.refl _

end Respelt

theorem AllRespelt.getLast? {tokens tokens' : List Token} (respelt : AllRespelt tokens tokens') :
    Option.Rel Respelt tokens.getLast? tokens'.getLast? := by
  induction respelt with
  | nil => exact .none
  | cons token tail ih =>
      cases tail with
      | nil => exact .some token
      | cons _ _ => simpa only [List.getLast?_cons_cons] using ih

theorem AllRespelt.close {tokens tokens' : List Token} (respelt : AllRespelt tokens tokens') :
    AllRespelt (Token.close tokens) (Token.close tokens') := by
  have lasts := respelt.getLast?
  simp only [Token.close]
  generalize tokens.getLast? = last, tokens'.getLast? = last' at lasts
  cases lasts with
  | none => exact List.forall₂_refl _
  | some token =>
      simp only [token.kind_eq, token.offset_eq, token.place_eq, token.stop_eq]
      split
      · exact respelt
      · exact List.rel_append respelt (.cons (.same _) .nil)

end Token

namespace Grammar

/-! ### Cursors -/

structure Cursor.Respelt (left right : Cursor) : Prop where
  rest : Token.AllRespelt left.rest right.rest
  lastStop_eq : right.lastStop = left.lastStop

namespace Cursor.Respelt

variable {left right : Cursor}

theorem length_eq (near : left.Respelt right) : right.rest.length = left.rest.length :=
  near.rest.length_eq.symm

theorem ahead (near : left.Respelt right) (count : Nat) :
    Token.Respelt (left.ahead count) (right.ahead count) := by
  have dropped := List.forall₂_drop count near.rest
  simp only [Cursor.ahead]
  generalize left.rest.drop count = tokens, right.rest.drop count = tokens' at dropped
  cases dropped with
  | nil => exact .same _
  | cons token _ => exact token

theorem current (near : left.Respelt right) : Token.Respelt left.current right.current :=
  near.ahead 0

theorem advance (near : left.Respelt right) : left.advance.Respelt right.advance := by
  obtain ⟨tokens, lastStop⟩ := left
  obtain ⟨tokens', lastStop'⟩ := right
  have rest := near.rest
  cases rest with
  | nil => exact near
  | @cons first first' _ _ token tail =>
      simp only [Cursor.advance, token.kind_eq]
      split
      · exact near
      · exact ⟨tail, token.stop_eq⟩

theorem isAt_eq (near : left.Respelt right) (keyword : Keyword) :
    right.isAt keyword = left.isAt keyword := by
  simp [isAt, near.current.keyword?_eq]

theorem isAtSymbol_eq (near : left.Respelt right) (symbol : String) :
    right.isAtSymbol symbol = left.isAtSymbol symbol :=
  near.current.isSymbol_eq symbol

theorem atEnd_eq (near : left.Respelt right) : right.atEnd = left.atEnd := by
  simp [atEnd, near.current.kind_eq]

theorem isOnLine_eq (near : left.Respelt right) (line : Nat) :
    right.isOnLine line = left.isOnLine line := by
  simp [isOnLine, near.current.line_eq]

theorem touches_eq (near : left.Respelt right) : right.touches = left.touches := by
  simp [touches, near.lastStop_eq, near.current.offset_eq]

theorem atMap_eq (near : left.Respelt right) : right.atMap = left.atMap := by
  simp [atMap, near.isAtSymbol_eq, (near.ahead 1).isMapKey_eq, (near.ahead 2).isSymbol_eq]

theorem binaryOp?_eq (near : left.Respelt right) : right.binaryOp? = left.binaryOp? := by
  simp [binaryOp?, near.current.keyword?_eq]

theorem unaryOp?_eq (near : left.Respelt right) : right.unaryOp? = left.unaryOp? := by
  simp [unaryOp?, near.current.keyword?_eq]

theorem callsImplicitly_eq (near : left.Respelt right) (capabilities : Capabilities)
    (name : Token) :
    right.callsImplicitly capabilities name = left.callsImplicitly capabilities name := by
  simp [callsImplicitly, near.isOnLine_eq, near.isAtSymbol_eq, near.current.isMethodWord_eq,
    near.current.startsExpression_eq]

theorem atPointMethod_eq (near : left.Respelt right) :
    right.atPointMethod = left.atPointMethod := by
  simp [atPointMethod, near.isAtSymbol_eq, (near.ahead 1).isMethodWord_eq]

theorem atBareMethod_eq (near : left.Respelt right) (capabilities : Capabilities)
    (name : Token) :
    right.atBareMethod capabilities name = left.atBareMethod capabilities name := by
  simp [atBareMethod, near.isOnLine_eq, near.current.isMethodWord_eq]

/-- The searches for a closing parenthesis end at respelt tokens, or both find none. -/
theorem closingParen?_respelt {tokens tokens' : List Token}
    (respelt : Token.AllRespelt tokens tokens') (depth : Nat) :
    (closingParen? depth tokens = none ∧ closingParen? depth tokens' = none) ∨
      ∃ close close' rest rest', closingParen? depth tokens = some (close, rest) ∧
        closingParen? depth tokens' = some (close', rest') ∧ Token.Respelt close close' ∧
          Token.AllRespelt rest rest' := by
  induction respelt generalizing depth with
  | nil => exact Or.inl ⟨rfl, rfl⟩
  | @cons first first' rest rest' token tail ih =>
      simp only [closingParen?, token.isSymbol_eq]
      split
      · exact ih _
      · split
        · split
          · exact Or.inr ⟨first, first', rest, rest', rfl, rfl, token, tail⟩
          · exact ih _
        · exact ih _

theorem atOutputParens_eq (near : left.Respelt right) :
    right.atOutputParens = left.atOutputParens := by
  simp only [Cursor.atOutputParens, near.isAtSymbol_eq]
  congr 1
  rcases closingParen?_respelt near.rest 0 with ⟨none, none'⟩ |
    ⟨close, close', rest, rest', found, found', closes, tail⟩
  · rw [none, none']
  · rw [found, found']
    cases tail with
    | nil => exact closes.isBoundary_eq
    | cons token _ => simp only [token.isBoundary_eq, token.line_eq, closes.line_eq]

end Cursor.Respelt

/-! ### Extents of blocks -/

namespace Extent

structure Respelt (left right : Extent) : Prop where
  body : Token.AllRespelt left.body right.body
  rest : Token.AllRespelt left.rest right.rest
  closer_eq : right.closer = left.closer

variable {left right : Extent}

theorem Respelt.cons (respelt : left.Respelt right) {token token' : Token}
    (first : Token.Respelt token token') : (left.cons token).Respelt (right.cons token') :=
  ⟨.cons first respelt.body, respelt.rest, respelt.closer_eq⟩

theorem Respelt.boundary (respelt : left.Respelt right) :
    Token.Respelt left.boundary right.boundary := by
  have rest := respelt.rest
  simp only [Extent.boundary]
  generalize left.rest = tokens, right.rest = tokens' at rest
  cases rest with
  | nil => exact .same _
  | cons token _ => exact token

theorem Respelt.closedBody (respelt : left.Respelt right) :
    Token.AllRespelt left.closedBody right.closedBody := by
  simp only [Extent.closedBody, respelt.boundary.offset_eq, respelt.boundary.place_eq]
  exact List.rel_append respelt.body (.cons (.same _) .nil)

theorem Respelt.behind (respelt : left.Respelt right) (lastStop : Nat) :
    (left.behind lastStop).Respelt (right.behind lastStop) := by
  simp only [Extent.behind, respelt.closer_eq]
  cases left.closer with
  | closed =>
      have tail := List.forall₂_drop 1 respelt.rest
      exact ⟨by simpa using tail, respelt.boundary.stop_eq⟩
  | otherwise | endOfInput => exact ⟨respelt.rest, rfl⟩

theorem scan_respelt {tokens tokens' : List Token} (respelt : Token.AllRespelt tokens tokens')
    (stopAtElse : Bool) (depth : Nat) (fused : Bool) :
    (scan stopAtElse depth fused tokens).Respelt (scan stopAtElse depth fused tokens') := by
  induction respelt generalizing depth fused with
  | nil => exact ⟨.nil, .nil, rfl⟩
  | @cons first first' rest rest' token tail ih =>
      have ends : ∀ closer, Respelt ⟨[], first :: rest, closer⟩ ⟨[], first' :: rest', closer⟩ :=
        fun _ => ⟨.nil, .cons token tail, rfl⟩
      have goes := fun depth fused => (ih depth fused).cons token
      simp only [scan, token.kind_eq, token.keyword?_eq, token.isSymbol_eq]
      split
      · exact ends _
      · split
        · exact goes _ _
        · cases depth with
          | zero => exact ends _
          | succ depth => exact goes _ _
        · split
          · exact ends _
          · exact goes _ _
        · split
          · exact ends _
          · exact goes _ _
        · exact goes _ _

end Extent

end Grammar

end Parlance
