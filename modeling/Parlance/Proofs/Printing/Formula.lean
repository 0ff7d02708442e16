import Parlance.Proofs.Printing.Extent

/-!
Formulas to be printed with as few parentheses as may be: literals, names, operations, lists, maps,
calls and indexes. What binds looser than its position allows stands in parentheses, and so does
every map, since a brace outside of brackets opens a block.
-/

namespace Parlance.Printing

variable {capabilities : Capabilities}

/-- A word that may stand behind the word for a call: it is no keyword, but may be on any list. -/
structure Callee where
  first : Char
  rest : List Char
  start : Piece.isWordStart first = true
  inner : ∀ c ∈ rest, Piece.isWordChar c = true
  noKeyword : Keyword.isWordSpelling (Unicode.lower (String.ofList (first :: rest))) = false

def Callee.text (callee : Callee) : String := String.ofList (callee.first :: callee.rest)

inductive Formula (capabilities : Capabilities) where
  | number (numeral : Numeral)
  | text (content : String)
  | boolean (value : Bool)
  | nothing
  | name (name : Name capabilities)
  | binary (op : BinaryOp) (left right : Formula capabilities)
  | unary (op : UnaryOp) (operand : Formula capabilities)
  | list (items : List (Formula capabilities))
  | map (entries : List (String × Formula capabilities))
  | call (callee : Callee) (arguments : List (Formula capabilities))
  | index (target position : Formula capabilities)

/-- What a token of a printed formula is: an item that other sentences have too, or one of these.
The bracket of an index touches what is indexed. -/
inductive Sign (capabilities : Capabilities) where
  | item (item : Item capabilities)
  | callee (word : Callee)
  | call | not
  | openList | openIndex | closeBracket | colon

namespace Sign

def kind : Sign capabilities → Token.Kind
  | .item word => word.kind
  | .callee _ => .identifier
  | .call | .not => .keyword
  | .openList | .openIndex | .closeBracket | .colon => .symbol

def lexeme : Sign capabilities → String
  | .item word => word.lexeme
  | .callee word => word.text
  | .call => "call"
  | .not => "not"
  | .openList | .openIndex => "["
  | .closeBracket => "]"
  | .colon => ":"

def keyword? : Sign capabilities → Option Keyword
  | .item word => word.keyword?
  | .call => some .call
  | .not => some .not
  | .callee _ | .openList | .openIndex | .closeBracket | .colon => none

def fixed (word : Fixed) : Sign capabilities := .item (.fixed word)

def touches : Sign capabilities → Bool
  | .openIndex => true
  | _ => false

structure Spells (sign : Sign capabilities) (token : Token) : Prop where
  kind : token.kind = sign.kind
  lexeme : token.lexeme = sign.lexeme

variable {sign : Sign capabilities} {token : Token}

instance (sign : Sign capabilities) (token : Token) : Decidable (sign.Spells token) :=
  decidable_of_iff (token.kind = sign.kind ∧ token.lexeme = sign.lexeme)
    ⟨fun both => ⟨both.1, both.2⟩, fun spells => ⟨spells.kind, spells.lexeme⟩⟩

theorem Spells.item {word : Item capabilities} (spells : (Sign.item word).Spells token) :
    word.Spells token := ⟨spells.kind, spells.lexeme⟩

theorem Spells.keyword?_eq (spells : sign.Spells token) : token.keyword? = sign.keyword? := by
  cases sign with
  | item word => exact spells.item.keyword?_eq
  | callee word => simp only [Token.keyword?, spells.kind, Sign.kind, Sign.keyword?]
  | _ =>
      simp only [Token.keyword?, spells.kind, spells.lexeme, Sign.kind, Sign.lexeme, Sign.keyword?]
      decide +kernel

theorem Spells.isSymbol_eq (spells : sign.Spells token) (symbol : String) :
    token.isSymbol symbol = (sign.kind = .symbol && sign.lexeme = symbol) := by
  simp only [Token.isSymbol, spells.kind, spells.lexeme]

theorem Spells.open' (spells : sign.Spells token) : token.kind ≠ .finish := by
  cases sign with
  | item word => exact spells.item.open'
  | _ => simp [spells.kind, Sign.kind]

end Sign

/-! ### Signs of a formula -/

def parenthesised (signs : List (Sign capabilities)) : List (Sign capabilities) :=
  .fixed .openParen :: (signs ++ [.fixed .closeParen])

def enclosed (level least : Nat) (signs : List (Sign capabilities)) : List (Sign capabilities) :=
  if level < least then parenthesised signs else signs

/-- Above all precedences: the level of a prefix operator, and that of what may be indexed. -/
def prefixLevel : Nat := 7

def indexLevel : Nat := 8

def Formula.level : Formula capabilities → Nat
  | .binary op _ _ => op.precedence
  | .unary _ _ => prefixLevel
  | _ => indexLevel

def prefixSign : UnaryOp → Sign capabilities
  | .not => .not
  | .negate => .fixed (.binary .sub)

mutual

/-- A left operand may be of the same precedence, a right one may not. -/
def Formula.signs : Formula capabilities → List (Sign capabilities)
  | .number numeral => [.item (.number numeral)]
  | .text content => [.item (.text content)]
  | .boolean value => [.fixed (if value then .yes else .no)]
  | .nothing => [.fixed .nothing]
  | .name word => [.item (.name word)]
  | .binary op left right =>
      enclosed left.level op.precedence left.signs ++
        .fixed (.binary op) :: enclosed right.level (op.precedence + 1) right.signs
  | .unary op operand => prefixSign op :: enclosed operand.level prefixLevel operand.signs
  | .list items => .openList :: (listedSigns items ++ [.closeBracket])
  | .map entries =>
      parenthesised (.fixed .openBrace :: (entrySigns entries ++ [.fixed .closeBrace]))
  | .call callee arguments =>
      .call :: .callee callee :: parenthesised (listedSigns arguments)
  | .index target position =>
      enclosed target.level indexLevel target.signs ++
        .openIndex :: (position.signs ++ [.closeBracket])

def listedSigns : List (Formula capabilities) → List (Sign capabilities)
  | [] => []
  | formula :: rest => formula.signs ++ furtherSigns rest

def furtherSigns : List (Formula capabilities) → List (Sign capabilities)
  | [] => []
  | formula :: rest => .fixed .comma :: (formula.signs ++ furtherSigns rest)

def entrySigns : List (String × Formula capabilities) → List (Sign capabilities)
  | [] => []
  | (key, formula) :: rest =>
      .item (.text key) :: .colon :: (formula.signs ++ furtherEntries rest)

def furtherEntries : List (String × Formula capabilities) → List (Sign capabilities)
  | [] => []
  | (key, formula) :: rest =>
      .fixed .comma :: .item (.text key) :: .colon :: (formula.signs ++ furtherEntries rest)

end

mutual

def Formula.denote : Formula capabilities → Expr
  | .number numeral => .literal (.number numeral.value) .start
  | .text content => .literal (.text content) .start
  | .boolean value => .literal (.boolean value) .start
  | .nothing => .literal .void .start
  | .name word => .ident word.text .start
  | .binary op left right => .binary op left.denote right.denote .start
  | .unary op operand => .unary op operand.denote .start
  | .list items => .list (denoteAll items) .start
  | .map entries => .map (denoteEntries entries) .start
  | .call callee arguments => .call callee.text none (denoteAll arguments) .start
  | .index target position => .index target.denote position.denote .start

def denoteAll : List (Formula capabilities) → List Expr
  | [] => []
  | formula :: rest => formula.denote :: denoteAll rest

def denoteEntries : List (String × Formula capabilities) → List (MapKey × Expr)
  | [] => []
  | (key, formula) :: rest => (⟨key, .start⟩, formula.denote) :: denoteEntries rest

end

/-! ### Tokens -/

/-- The tokens stand for the signs, one for each. They begin where something stopped, and the last
one stops where it is said; in between only the bracket of an index needs to touch what is before
it. -/
def Written (first : Nat) : List (Sign capabilities) → List Token → (last : Nat) → Prop
  | [], tokens, last => tokens = [] ∧ last = first
  | sign :: signs, tokens, last =>
      ∃ token behind, tokens = token :: behind ∧ sign.Spells token ∧
        (sign.touches = true → token.offset = first) ∧ Written token.stop signs behind last

theorem written_cons_iff {first last : Nat} {sign : Sign capabilities}
    {signs : List (Sign capabilities)} {token : Token} {behind : List Token} :
    Written first (sign :: signs) (token :: behind) last ↔
      sign.Spells token ∧ (sign.touches = true → token.offset = first) ∧
        Written token.stop signs behind last := by
  constructor
  · rintro ⟨_, _, same, written⟩
    cases same
    exact written
  · intro written
    exact ⟨token, behind, rfl, written⟩

instance decidableWritten : (first : Nat) → (signs : List (Sign capabilities)) →
    (tokens : List Token) → (last : Nat) → Decidable (Written first signs tokens last)
  | first, [], tokens, last => inferInstanceAs (Decidable (tokens = [] ∧ last = first))
  | _, _ :: _, [], _ => .isFalse fun ⟨_, _, same, _⟩ => nomatch same
  | _, _ :: signs, token :: behind, last =>
      have := decidableWritten token.stop signs behind last
      decidable_of_iff _ written_cons_iff.symm

theorem written_append {first last : Nat} {front back : List (Sign capabilities)}
    {tokens : List Token} (written : Written first (front ++ back) tokens last) :
    ∃ early late middle, tokens = early ++ late ∧ Written first front early middle ∧
      Written middle back late last := by
  -- where the next sign begins is where the last one stopped, so it varies with the signs
  induction front generalizing first tokens with
  | nil => exact ⟨[], tokens, first, rfl, ⟨rfl, rfl⟩, written⟩
  | cons sign signs ih =>
      obtain ⟨token, behind, rfl, spells, touches, written⟩ := written
      obtain ⟨early, late, middle, rfl, writtenEarly, writtenLate⟩ := ih written
      exact ⟨token :: early, late, middle, rfl, ⟨token, early, rfl, spells, touches, writtenEarly⟩,
        writtenLate⟩

theorem written_cons {first last : Nat} {sign : Sign capabilities}
    {signs : List (Sign capabilities)} {tokens : List Token}
    (written : Written first (sign :: signs) tokens last) :
    ∃ token behind, tokens = token :: behind ∧ sign.Spells token ∧
      Written token.stop signs behind last := by
  obtain ⟨token, behind, same, spells, _, later⟩ := written
  exact ⟨token, behind, same, spells, later⟩

theorem written_openIndex {first last : Nat} {signs : List (Sign capabilities)} {token : Token}
    {behind : List Token} (written : Written first (.openIndex :: signs) (token :: behind) last) :
    token.offset = first :=
  (written_cons_iff.mp written).2.1 rfl

theorem written_between {first last : Nat} {opener closer : Sign capabilities}
    {inside : List (Sign capabilities)} {tokens : List Token}
    (written : Written first (opener :: (inside ++ [closer])) tokens last) :
    ∃ opening middle closing stop, tokens = opening :: (middle ++ [closing]) ∧
      opener.Spells opening ∧ Written opening.stop inside middle stop ∧
      closer.Spells closing ∧ closing.stop = last := by
  obtain ⟨opening, _, rfl, opens, written⟩ := written_cons written
  obtain ⟨middle, _, stop, rfl, within, written⟩ := written_append written
  obtain ⟨closing, _, rfl, closes, rfl, rfl⟩ := written_cons written
  exact ⟨opening, middle, closing, stop, rfl, opens, within, closes, rfl⟩

def packed (first : Nat) : List (Sign capabilities) → List Token
  | [] => []
  | sign :: signs =>
      ⟨sign.kind, sign.lexeme, first, .start, first + sign.lexeme.length⟩ ::
        packed (first + sign.lexeme.length) signs

theorem written_packed (first : Nat) (signs : List (Sign capabilities)) :
    ∃ last, Written first signs (packed first signs) last := by
  induction signs generalizing first with
  | nil => exact ⟨first, rfl, rfl⟩
  | cons sign signs ih =>
      obtain ⟨last, later⟩ := ih (first + sign.lexeme.length)
      exact ⟨last, _, _, rfl, ⟨rfl, rfl⟩, fun _ => rfl, later⟩

end Parlance.Printing
