import Mathlib.Algebra.Order.Group.Multiset
import Parlance.Program.Node
import Parlance.Proofs.Reading.Derivation

/-!
What programs hold of their tokens. A number, a text or a name in the tokens is shown by a literal,
a key or a name of the node that is made of them. An expression shows each such token that
spells it, in a place of its own.
-/

namespace Parlance

/-- What a token or a node says beyond its kind. -/
inductive Content where
  | text (value : String)
  | number (value : Float)

@[simp] def Content.ofName : Option String → Multiset Content
  | none => 0
  | some name => {.text name}

namespace Literal

def contents : Literal → Multiset Content
  | .text value => {.text value}
  | .number value => {.number value}
  | _ => 0

end Literal

namespace Node

/-- The scalar of such a node is a payload or a name; that of any other one is a fixed word. -/
def Kind.speaks : Kind → Bool
  | .literal | .identifier | .declaration | .assignment | .functionDefinition | .call => true
  | _ => false

mutual

/-- The payloads, keys and names in a node, each as often as it is there. -/
def contents : Node → Multiset Content
  | .mk kind scalar boundName _ children =>
      (if kind.speaks then scalar.contents else 0) + Content.ofName boundName + allContents children

def allContents : List Node → Multiset Content
  | [] => 0
  | node :: rest => node.contents + allContents rest

end

theorem allContents_append (front back : List Node) :
    allContents (front ++ back) = allContents front + allContents back := by
  induction front with
  | nil => simp [allContents]
  | cons node rest ih => simp [allContents, ih, add_assoc]

end Node

namespace Token

def speaks (token : Token) : Bool :=
  token.kind = .number || token.kind = .string || token.kind = .identifier

/-- A number is shown as it is, or by the key that is its text; a text, as it is; a name, as it is
too, or, if it is a word for a number, by that. -/
def ShownBy (token : Token) (content : Content) : Prop :=
  match token.kind with
  | .number => content = .number (Grammar.numberValue token.lexeme) ∨
      content = .text (numberText (Grammar.numberValue token.lexeme))
  | .identifier => content = .text token.lexeme ∨
      ∃ value, numberWord? token.lexeme = some value ∧ content = .number value
  | _ => content = .text token.lexeme

/-- Each of the tokens that says something is shown among the contents, in a place of its own. -/
def Kept (tokens : List Token) (contents : Multiset Content) : Prop :=
  ∃ shown ≤ contents, Multiset.Rel ShownBy (tokens.filter speaks : List Token) shown

namespace Kept

variable {token : Token} {front back tokens : List Token} {early late : Multiset Content}

theorem nil (contents : Multiset Content) : Kept [] contents :=
  ⟨0, Multiset.zero_le contents, .zero⟩

theorem append (first : Kept front early) (second : Kept back late) :
    Kept (front ++ back) (early + late) := by
  obtain ⟨shown, within, related⟩ := first
  obtain ⟨shown', within', related'⟩ := second
  refine ⟨shown + shown', add_le_add within within', ?_⟩
  rw [List.filter_append, ← Multiset.coe_add]
  exact related.add related'

theorem mute (silent : token.speaks = false) (kept : Kept tokens late) :
    Kept (token :: tokens) late := by
  obtain ⟨shown, within, related⟩ := kept
  refine ⟨shown, within, ?_⟩
  rwa [List.filter_cons_of_neg (by simp [silent])]

theorem one {content : Content} (shown : token.ShownBy content) : Kept [token] {content} := by
  cases speaks : token.speaks with
  | false => exact mute speaks (nil _)
  | true =>
      refine ⟨{content}, le_rfl, ?_⟩
      rw [List.filter_cons_of_pos speaks]
      exact .cons shown .zero

theorem cons {content : Content} (shown : token.ShownBy content) (kept : Kept tokens late) :
    Kept (token :: tokens) ({content} + late) := (one shown).append kept

theorem between {opener closer : Token} (opens : opener.speaks = false) (kept : Kept tokens late)
    (closes : closer.speaks = false) : Kept (opener :: (tokens ++ [closer])) late := by
  have closed := kept.append (mute closes (nil 0))
  rw [add_zero] at closed
  exact mute opens closed

theorem length_le_card (kept : Kept tokens late) : (tokens.filter speaks).length ≤ late.card := by
  obtain ⟨shown, within, related⟩ := kept
  rw [← Multiset.coe_card, Multiset.card_eq_card_of_rel related]
  exact Multiset.card_le_card within

end Kept

theorem silent_of_isSymbol {token : Token} {symbol : String}
    (found : token.isSymbol symbol = true) : token.speaks = false := by
  simp only [isSymbol, Bool.and_eq_true, decide_eq_true_eq] at found
  simp [speaks, found.1]

theorem silent_of_keyword? {token : Token} {keyword : Keyword}
    (spelt : token.keyword? = some keyword) : token.speaks = false := by
  unfold keyword? at spelt
  split at spelt
  · rename_i kind
    simp [speaks, kind]
  · rename_i kind
    simp [speaks, kind]
  · cases spelt

end Token

namespace Grammar

open Token

def Phrase.contents : Phrase → Multiset Content
  | .expression value => value.toNode.contents
  | .items values | .enclosed values | .arguments values => Node.allContents (Expr.toNodes values)
  | .entries pairs => Node.allContents (Expr.entryNodes pairs)

theorem kept_literal {token : Token} {value : Literal} (opens : opening token = .literal value) :
    Kept [token] value.contents := by
  unfold opening at opens
  split at opens
  · rename_i kind
    obtain rfl := Opening.literal.inj opens
    exact .one (by simp [ShownBy, kind])
  · rename_i kind
    obtain rfl := Opening.literal.inj opens
    exact .one (by simp [ShownBy, kind])
  · cases opens
  · rename_i number text name
    have silent : token.speaks = false := by
      simp only [speaks, Bool.or_eq_false_iff, decide_eq_false_iff_not]
      exact ⟨⟨number, text⟩, name⟩
    exact .mute silent (.nil _)

theorem shownBy_name {token : Token} (opens : opening token = .name) :
    token.ShownBy (.text token.lexeme) := by
  unfold opening at opens
  unfold ShownBy
  split at opens <;> simp_all

theorem kept_numberWord {token : Token} {value : Float} (opens : opening token = .name)
    (word : numberWord? token.lexeme = some value) : Kept [token] {.number value} := by
  cases speaks : token.speaks with
  | false => exact .mute speaks (.nil _)
  | true =>
      have kind : token.kind = .identifier := by
        unfold opening at opens
        simp only [Token.speaks, Bool.or_eq_true, decide_eq_true_eq] at speaks
        rcases speaks with (kind | kind) | kind <;> simp [kind] at opens ⊢
      exact .one (by simp [ShownBy, kind, word])

theorem kept_method {way : List Token} {method : Option String} (chooses : Chooses way method) :
    Kept way (Content.ofName method) := by
  have shown : ∀ {word : Token}, word.isMethodWord = true → word.ShownBy (.text word.lexeme) := by
    intro word found
    simp only [isMethodWord, Bool.or_eq_true, Bool.and_eq_true, decide_eq_true_eq] at found
    rcases found with kind | ⟨kind, _⟩ <;> simp [ShownBy, kind]
  cases chooses with
  | none => exact .nil _
  | bare word => exact .one (shown word)
  | point dot word => exact .mute (silent_of_isSymbol dot) (.one (shown word))

theorem shownBy_key {key : Token} (isKey : key.isMapKey = true) :
    key.ShownBy (.text (keyOf key).text) := by
  unfold isMapKey at isKey
  unfold ShownBy keyOf
  split at isKey <;> simp_all

theorem silent_of_call {word : Token} (opens : opening word = .call) : word.speaks = false := by
  unfold opening at opens
  split at opens
  · cases opens
  · cases opens
  · cases opens
  · rename_i number text name
    simp only [speaks, Bool.or_eq_false_iff, decide_eq_false_iff_not]
    exact ⟨⟨number, text⟩, name⟩

theorem silent_of_isColon {colon : Token} (isColon : IsColon colon) : colon.speaks = false :=
  isColon.elim silent_of_isSymbol silent_of_keyword?

section

variable {tokens : List Token} {value : Expr} {values : List Expr} {place : Place}

theorem contents_expression : (Phrase.expression value).contents =
    match value with
    | .literal payload _ => payload.contents
    | .ident name _ => {.text name}
    | .call callee method arguments _ =>
        {.text callee} + (Content.ofName method + (Phrase.arguments arguments).contents)
    | .binary _ left right _ =>
        (Phrase.expression left).contents + (Phrase.expression right).contents
    | .unary _ operand _ => (Phrase.expression operand).contents
    | .list items _ => (Phrase.items items).contents
    | .map pairs _ => (Phrase.entries pairs).contents
    | .index target position _ =>
        (Phrase.expression target).contents + (Phrase.expression position).contents := by
  cases value <;>
    simp [Phrase.contents, Expr.toNode, Node.named, Node.plain, Node.contents, Node.allContents,
      Node.Kind.speaks, Literal.contents]

theorem contents_items : (Phrase.items (value :: values)).contents =
    (Phrase.expression value).contents + (Phrase.items values).contents := rfl

theorem contents_entries {key : MapKey} {pairs : List (MapKey × Expr)} :
    (Phrase.entries ((key, value) :: pairs)).contents =
      {.text key.text} +
        ((Phrase.expression value).contents + (Phrase.entries pairs).contents) := by
  simp [Phrase.contents, Expr.entryNodes, Node.allContents, Node.contents, Node.named,
    Node.Kind.speaks, Literal.contents]

end

theorem Spells.kept {tokens : List Token} {phrase : Phrase} (spells : Spells tokens phrase) :
    Kept tokens phrase.contents := by
  -- by the way the tokens spell the phrase: what is in brackets is kept by induction
  have inside : ∀ {opener closer : Token} {opening closing : String} {tokens : List Token}
      {contents : Multiset Content}, opener.isSymbol opening = true → Kept tokens contents →
        closer.isSymbol closing = true → Kept (opener :: (tokens ++ [closer])) contents :=
    fun opens kept closes => .between (silent_of_isSymbol opens) kept (silent_of_isSymbol closes)
  induction spells with
  | literal opens => exact contents_expression ▸ kept_literal opens
  | numberWord opens word => exact contents_expression ▸ kept_numberWord opens word
  | name opens => exact contents_expression ▸ .one (shownBy_name opens)
  | call opens chooses _ ih =>
      rw [contents_expression]
      exact .cons (shownBy_name opens) ((kept_method chooses).append ih)
  | worded opens _ ih => exact .mute (silent_of_call opens) ih
  | group opens _ closes ih => exact inside opens ih closes
  | list opens _ closes ih => exact contents_expression ▸ inside opens ih closes
  | map opens _ closes ih => exact contents_expression ▸ inside opens ih closes
  | index _ opens _ closes ih ih' => exact contents_expression ▸ ih.append (inside opens ih' closes)
  | unary operator _ ih =>
      obtain ⟨_, spelt, _⟩ := Option.bind_eq_some_iff.mp operator
      exact contents_expression ▸ .mute (silent_of_keyword? spelt) ih
  | binary _ operator _ ih ih' =>
      obtain ⟨_, spelt, _⟩ := Option.bind_eq_some_iff.mp operator
      exact contents_expression ▸ ih.append (.mute (silent_of_keyword? spelt) ih')
  | noItem => exact .nil _
  | comma found _ ih => exact .mute (silent_of_isSymbol found) ih
  | item _ _ ih ih' => exact ih.append ih'
  | enclosed opens _ closes ih => exact inside opens ih closes
  | inParens _ ih => exact ih
  | spaced _ ih => exact ih
  | noEntry => exact .nil _
  | entryComma found _ ih => exact .mute (silent_of_isSymbol found) ih
  | entry isKey colon _ _ ih ih' =>
      rw [contents_entries]
      exact .cons (shownBy_key isKey) (.mute (silent_of_isColon colon) (ih.append ih'))
  | bareKey isKey colon _ ih =>
      rw [contents_entries]
      exact .cons (shownBy_key isKey)
        (.mute (silent_of_isColon colon) ((Kept.nil _).append ih))

end Grammar

end Parlance
