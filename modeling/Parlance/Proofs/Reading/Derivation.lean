import Parlance.Proofs.Reading.Taking

/-!
Derivations of expressions. The grammar of what is read without a note is written down as a relation
between tokens and what they spell. Whatever a rule for expressions reads in silence, the tokens it
takes spell.
-/

namespace Parlance.Grammar

open Rule

/-- What tokens in a row may spell. -/
inductive Phrase where
  | expression (value : Expr)
  /-- Expressions, with any commas between them. -/
  | items (values : List Expr)
  /-- Items in parentheses. -/
  | enclosed (values : List Expr)
  | arguments (values : List Expr)
  | entries (entries : List (MapKey × Expr))

inductive Chooses : List Token → Option String → Prop where
  | none : Chooses [] none
  | bare {word : Token} : word.isMethodWord = true → Chooses [word] (some word.lexeme)
  | point {point word : Token} : point.isSymbol "." = true → word.isMethodWord = true →
      Chooses [point, word] (some word.lexeme)

def IsColon (token : Token) : Prop :=
  token.isSymbol ":" = true ∨ token.keyword? = some .assignOp

inductive Spells : List Token → Phrase → Prop where
  | literal {token : Token} {value : Literal} : opening token = .literal value →
      Spells [token] (.expression (.literal value token.place))
  | numberWord {token : Token} {value : Float} : opening token = .name →
      numberWord? token.lexeme = some value →
        Spells [token] (.expression (.literal (.number value) token.place))
  | name {token : Token} : opening token = .name →
      Spells [token] (.expression (.ident token.lexeme token.place))
  | call {callee : Token} {way tokens : List Token} {method : Option String}
      {values : List Expr} : opening callee = .name → Chooses way method →
        Spells tokens (.arguments values) →
          Spells (callee :: (way ++ tokens))
            (.expression (.call callee.lexeme method values callee.place))
  | worded {word : Token} {tokens : List Token} {callee : String} {method : Option String}
      {values : List Expr} {place : Place} : opening word = .call →
        Spells tokens (.expression (.call callee method values place)) →
          Spells (word :: tokens) (.expression (.call callee method values place))
  | group {opener closer : Token} {inside : List Token} {value : Expr} :
      opener.isSymbol "(" = true → Spells inside (.expression value) →
        closer.isSymbol ")" = true → Spells (opener :: (inside ++ [closer])) (.expression value)
  | list {opener closer : Token} {inside : List Token} {values : List Expr} :
      opener.isSymbol "[" = true → Spells inside (.items values) →
        closer.isSymbol "]" = true →
          Spells (opener :: (inside ++ [closer])) (.expression (.list values opener.place))
  | map {opener closer : Token} {inside : List Token} {entries : List (MapKey × Expr)} :
      opener.isSymbol "\x7b" = true → Spells inside (.entries entries) →
        closer.isSymbol "\x7d" = true →
          Spells (opener :: (inside ++ [closer])) (.expression (.map entries opener.place))
  | index {front inside : List Token} {opener closer : Token} {target position : Expr} :
      Spells front (.expression target) → opener.isSymbol "[" = true →
        Spells inside (.expression position) → closer.isSymbol "]" = true →
          Spells (front ++ opener :: (inside ++ [closer]))
            (.expression (.index target position opener.place))
  | unary {sign : Token} {tokens : List Token} {op : UnaryOp} {operand : Expr} :
      sign.keyword?.bind (·.unaryOp?) = some op → Spells tokens (.expression operand) →
        Spells (sign :: tokens) (.expression (.unary op operand sign.place))
  | binary {front back : List Token} {sign : Token} {op : BinaryOp} {left right : Expr} :
      Spells front (.expression left) → sign.keyword?.bind (·.binaryOp?) = some op →
        Spells back (.expression right) →
          Spells (front ++ sign :: back) (.expression (.binary op left right sign.place))
  | noItem : Spells [] (.items [])
  | comma {comma : Token} {tokens : List Token} {values : List Expr} :
      comma.isSymbol "," = true → Spells tokens (.items values) →
        Spells (comma :: tokens) (.items values)
  | item {first rest : List Token} {value : Expr} {values : List Expr} :
      Spells first (.expression value) → Spells rest (.items values) →
        Spells (first ++ rest) (.items (value :: values))
  | enclosed {opener closer : Token} {inside : List Token} {values : List Expr} :
      opener.isSymbol "(" = true → Spells inside (.items values) →
        closer.isSymbol ")" = true → Spells (opener :: (inside ++ [closer])) (.enclosed values)
  | inParens {tokens : List Token} {values : List Expr} :
      Spells tokens (.enclosed values) → Spells tokens (.arguments values)
  | spaced {tokens : List Token} {values : List Expr} :
      Spells tokens (.items values) → Spells tokens (.arguments values)
  | noEntry : Spells [] (.entries [])
  | entryComma {comma : Token} {tokens : List Token} {entries : List (MapKey × Expr)} :
      comma.isSymbol "," = true → Spells tokens (.entries entries) →
        Spells (comma :: tokens) (.entries entries)
  | entry {key colon : Token} {tokens rest : List Token} {value : Expr}
      {entries : List (MapKey × Expr)} : key.isMapKey = true → IsColon colon →
        Spells tokens (.expression value) → Spells rest (.entries entries) →
          Spells (key :: colon :: (tokens ++ rest)) (.entries ((keyOf key, value) :: entries))
  | bareKey {key colon : Token} {rest : List Token} {entries : List (MapKey × Expr)} :
      key.isMapKey = true → IsColon colon → Spells rest (.entries entries) →
        Spells (key :: colon :: rest)
          (.entries ((keyOf key, .literal .void key.place) :: entries))

theorem Spells.ne_nil {tokens : List Token} {value : Expr}
    (spells : Spells tokens (.expression value)) : tokens ≠ [] := by
  cases spells <;> simp

/-! ### The rules for expressions -/

@[simp] def SpeltAs {α : Type} (phrase : α → Phrase) (taken : List Token) (value : α) : Prop :=
  Spells taken (phrase value)

/-- Of the cursors with fewer tokens ahead than the bound, the rule takes what spells its value. -/
def Faithful (mode : Mode) (bound : Nat) (expression : Rule Expr) : Prop :=
  ∀ ⦃cursor⦄, cursor.rest.length < bound → Takes mode cursor expression (SpeltAs .expression)

section

variable {mode : Mode} {cursor : Cursor} {bound : Nat} {inner : Rule Expr}

theorem closing_takes {symbol : String} (bracket : Bracket) :
    Takes mode cursor (closing symbol bracket)
      fun taken _ => ∃ closer, taken = [closer] ∧ closer.isSymbol symbol = true := by
  apply Takes.acceptSymbol
  · intro closes _
    exact .pure ⟨_, rfl, closes⟩
  · exact fun _ _ read => absurd read recover_noted

/-- The tokens spell items, and the bracket behind them. -/
def Shut (symbol : String) (taken : List Token) (values : List Expr) : Prop :=
  ∃ inside closer, taken = inside ++ [closer] ∧ closer.isSymbol symbol = true ∧
    Spells inside (.items values)

variable (inners : Faithful mode bound inner)

include inners in
theorem items_takes {symbol : String} (bracket : Bracket) (inside : Inside)
    (below : cursor.rest.length < bound) :
    Takes mode cursor (items inner symbol bracket inside) (Shut symbol) := by
  refine Takes.tie (fun _ => Shut symbol) ?_ () below
  intro cursor below self selves _
  apply Takes.acceptSymbol
  · intro closes _
    exact .pure ⟨[], _, rfl, closes, .noItem⟩
  simp only [Bool.false_eq_true, ↓reduceIte]
  apply Takes.acceptSymbol
  · intro comma shorter
    apply (selves () _ shorter).mono
    rintro _ values ⟨inside, closer, rfl, closes, spells⟩
    exact ⟨_ :: inside, closer, rfl, closes, .comma comma spells⟩
  simp only [Bool.false_eq_true, ↓reduceIte]
  apply Takes.here
  split
  · apply Takes.bind (inners below)
    intro first item next split spells
    apply Takes.bind (selves () next (length_lt_of_taken split spells.ne_nil))
    rintro _ more _ _ ⟨inside, closer, rfl, closes, spells'⟩
    refine .pure ⟨first ++ inside, closer, ?_, closes, .item spells spells'⟩
    simp
  · split
    · exact .recover
    · exact .recover

include inners in
theorem parenArguments_takes (paren : cursor.isAtSymbol "(" = true)
    (near : cursor.rest.length ≤ bound) :
    Takes mode cursor (parenArguments inner) (SpeltAs .enclosed) := by
  apply Takes.next (Token.ne_finish_of_isSymbol paren)
  intro shorter
  apply (items_takes inners .arguments .arguments (Nat.lt_of_lt_of_le shorter near)).mono
  rintro _ values ⟨inside, closer, rfl, closes, spells⟩
  exact .enclosed paren spells closes

include inners in
theorem spacedArgument?_takes (line : Nat) (below : cursor.rest.length < bound) :
    Takes mode cursor (argument? inner line) fun taken argument =>
      (argument = none ∧ taken = []) ∨
        ∃ value, argument = some value ∧ Spells taken (.expression value) := by
  apply Takes.here
  split
  · apply Takes.bind (inners below)
    intro taken value next _ spells
    exact .pure (Or.inr ⟨value, rfl, by simpa using spells⟩)
  · exact .pure (Or.inl ⟨rfl, rfl⟩)

include inners in
theorem spacedArguments_takes (line : Nat) (below : cursor.rest.length < bound) :
    Takes mode cursor (spacedArguments inner line) (SpeltAs .items) := by
  refine Takes.tie (fun _ => SpeltAs .items) ?_ () below
  intro cursor below self selves _
  apply Takes.bind (spacedArgument?_takes inners line below)
  rintro taken argument next split (⟨rfl, rfl⟩ | ⟨value, rfl, spells⟩)
  · exact .pure .noItem
  · apply Takes.bind (selves () next (length_lt_of_taken split spells.ne_nil))
    intro rest more _ _ spells'
    exact .pure (by simpa using Spells.item spells spells')

include inners in
theorem callArguments_takes (line : Nat) (below : cursor.rest.length < bound) :
    Takes mode cursor (callArguments inner line) (SpeltAs .arguments) := by
  apply Takes.here
  split
  · rename_i paren
    exact (parenArguments_takes inners paren (Nat.le_of_lt below)).mono
      fun _ _ spells => .inParens spells
  · exact (spacedArguments_takes inners line below).mono fun _ _ spells => .spaced spells

theorem method?_takes (callee : Token) :
    Takes mode cursor (method? callee) Chooses := by
  apply Takes.here
  apply Takes.knowing
  split
  · rename_i point
    simp only [Cursor.atPointMethod, Bool.and_eq_true] at point
    have here := Token.ne_finish_of_isSymbol point.1
    apply Takes.next here
    intro _
    have method : cursor.advance.current.isMethodWord = true := by
      rw [Cursor.current, Cursor.ahead_advance _ 0 here]
      exact point.2
    apply Takes.next (Token.ne_finish_of_isMethodWord method)
    intro _
    exact .pure (.point point.1 method)
  · split
    · rename_i bare
      simp only [Cursor.atBareMethod, Bool.and_eq_true] at bare
      apply Takes.next (Token.ne_finish_of_isMethodWord bare.1.2)
      intro _
      exact .pure (.bare bare.1.2)
    · exact .pure .none

include inners in
theorem callOf_takes {callee : Token} (named : opening callee = .name)
    (below : cursor.rest.length < bound) :
    Takes mode cursor (callOf inner callee) fun taken value =>
      Spells (callee :: taken) (.expression value) ∧
        ∃ method values, value = .call callee.lexeme method values callee.place := by
  -- the callee is read already
  apply Takes.bind (method?_takes callee)
  intro way method next split chooses
  have below := Nat.lt_of_le_of_lt (length_le_of_taken split) below
  apply Takes.bind (callArguments_takes inners callee.line below)
  intro tokens values _ _ spells
  exact .pure ⟨by simpa using Spells.call named chooses spells, method, values, rfl⟩

/-- Lists and maps begin with their brackets. -/
theorem isSymbol_of_opening_bracket (token : Token) :
    (opening token = .list → token.isSymbol "[" = true) ∧
      (opening token = .map → token.isSymbol "\x7b" = true) := by
  simp only [opening]
  repeat' split
  all_goals simp_all

theorem opening_of_isName {token : Token} (named : token.isName = true) :
    opening token = .name := by
  simp only [Token.isName, Bool.or_eq_true, Bool.and_eq_true, decide_eq_true_eq] at named
  rcases named with kind | ⟨kind, spelt⟩
  · simp [opening, kind]
  · simp [opening, kind, spelt]

include inners in
theorem explicitCall_takes (below : cursor.rest.length < bound) :
    Takes mode cursor (explicitCall inner) fun taken value =>
      Spells taken (.expression value) ∧
        ∃ callee method values place, value = .call callee method values place := by
  apply Takes.here
  split
  · rename_i name
    apply Takes.next (Token.ne_finish_of_isName name)
    intro shorter
    apply (callOf_takes inners (opening_of_isName name) (Nat.lt_trans shorter below)).mono
    rintro taken value ⟨spells, method, values, rfl⟩
    exact ⟨spells, _, method, values, _, rfl⟩
  · exact .recover

theorem colon_takes (key : Token) :
    Takes mode cursor (colon key) fun taken _ => ∃ colon, taken = [colon] ∧ IsColon colon := by
  apply Takes.acceptSymbol
  · intro found _
    exact .pure ⟨_, rfl, Or.inl found⟩
  simp only [Bool.false_eq_true, ↓reduceIte]
  apply Takes.accept
  · intro found _
    exact .pure ⟨_, rfl, Or.inr found⟩
  · exact fun _ _ read => absurd read recover_noted

include inners in
theorem mapValue_takes (key : Token) (below : cursor.rest.length < bound) :
    Takes mode cursor (mapValue inner key) fun taken value =>
      (taken = [] ∧ value = .literal .void key.place) ∨ Spells taken (.expression value) := by
  apply Takes.here
  split
  · exact (inners below).mono fun _ _ spells => Or.inr spells
  · exact .pure (Or.inl ⟨rfl, rfl⟩)

include inners in
theorem mapEntries_takes (below : cursor.rest.length < bound) :
    Takes mode cursor (mapEntries inner) fun taken entries =>
      ∃ inside closer, taken = inside ++ [closer] ∧ closer.isSymbol "\x7d" = true ∧
        Spells inside (.entries entries) := by
  refine Takes.tie (fun _ taken entries => ∃ inside closer, taken = inside ++ [closer] ∧
    closer.isSymbol "\x7d" = true ∧ Spells inside (.entries entries)) ?_ () below
  intro cursor below self selves _
  apply Takes.acceptSymbol
  · intro closes _
    exact .pure ⟨[], _, rfl, closes, .noEntry⟩
  simp only [Bool.false_eq_true, ↓reduceIte]
  apply Takes.acceptSymbol
  · intro comma shorter
    apply (selves () _ shorter).mono
    rintro _ entries ⟨inside, closer, rfl, closes, spells⟩
    exact ⟨_ :: inside, closer, rfl, closes, .entryComma comma spells⟩
  simp only [Bool.false_eq_true, ↓reduceIte]
  apply Takes.here
  split
  · exact .recover
  -- a key and its colon spell an entry, with or without a value; anything else is noted
  · split
    · rename_i isKey
      apply Takes.next (Token.ne_finish_of_isMapKey isKey)
      intro shorter
      apply Takes.bind (colon_takes _)
      rintro _ _ next split ⟨colon, rfl, isColon⟩
      have shorter : next.rest.length < cursor.rest.length :=
        Nat.lt_of_le_of_lt (length_le_of_taken split) shorter
      apply Takes.bind (mapValue_takes inners _ (Nat.lt_trans shorter below))
      intro tokens value last split spells
      have shorter := Nat.lt_of_le_of_lt (length_le_of_taken split) shorter
      apply Takes.bind (selves () last shorter)
      rintro _ more _ _ ⟨inside, closer, rfl, closes, spells'⟩
      rcases spells with ⟨rfl, rfl⟩ | spells
      · exact .pure ⟨_ :: colon :: inside, closer, by simp, closes, .bareKey isKey isColon spells'⟩
      · exact .pure ⟨_ :: colon :: (tokens ++ inside), closer, by simp, closes,
          .entry isKey isColon spells spells'⟩
    · exact .recover

section

variable (near : cursor.rest.length ≤ bound)

include inners near

theorem nameExpr_takes (opens : opening cursor.current = .name) :
    Takes mode cursor (nameExpr inner) (SpeltAs .expression) := by
  apply Takes.next (Token.ne_finish_of_opening (by simp [opens]))
  intro shorter
  apply Takes.here
  apply Takes.knowing
  split
  · exact (callOf_takes inners opens (Nat.lt_of_lt_of_le shorter near)).mono
      fun _ _ spells => spells.1
  · split
    · rename_i word
      exact .pure (.numberWord opens word)
    · exact .pure (.name opens)

theorem group_takes (paren : cursor.isAtSymbol "(" = true) :
    Takes mode cursor (group inner) (SpeltAs .expression) := by
  apply Takes.next (Token.ne_finish_of_isSymbol paren)
  intro shorter
  apply Takes.bind (inners (Nat.lt_of_lt_of_le shorter near))
  intro inside value next _ spells
  apply Takes.bind (closing_takes .group)
  rintro _ _ _ _ ⟨closer, rfl, closes⟩
  exact .pure (by simpa using Spells.group paren spells closes)

theorem listExpr_takes (bracket : cursor.isAtSymbol "[" = true) :
    Takes mode cursor (listExpr inner) (SpeltAs .expression) := by
  apply Takes.next (Token.ne_finish_of_isSymbol bracket)
  intro shorter
  apply Takes.bind (items_takes inners .list .list (Nat.lt_of_lt_of_le shorter near))
  rintro _ values _ _ ⟨inside, closer, rfl, closes, spells⟩
  exact .pure (by simpa using Spells.list bracket spells closes)

theorem mapExpr_takes (brace : cursor.isAtSymbol "\x7b" = true) :
    Takes mode cursor (mapExpr inner) (SpeltAs .expression) := by
  apply Takes.next (Token.ne_finish_of_isSymbol brace)
  intro shorter
  apply Takes.bind (mapEntries_takes inners (Nat.lt_of_lt_of_le shorter near))
  rintro _ entries _ _ ⟨inside, closer, rfl, closes, spells⟩
  exact .pure (by simpa using Spells.map brace spells closes)

theorem primary_takes : Takes mode cursor (primary inner) (SpeltAs .expression) := by
  -- an operand begins with a token that says of which sort it is
  apply Takes.here
  cases opens : opening cursor.current with
  | nothing =>
      apply Takes.here
      exact .recover
  | literal value =>
      apply Takes.next (Token.ne_finish_of_opening (by simp [opens]))
      intro _
      exact .pure (.literal opens)
  | name => exact nameExpr_takes inners near opens
  | call =>
      apply Takes.next (Token.ne_finish_of_opening (by simp [opens]))
      intro shorter
      apply (explicitCall_takes inners (Nat.lt_of_lt_of_le shorter near)).mono
      rintro taken _ ⟨spells, callee, method, values, place, rfl⟩
      exact .worded opens spells
  | group => exact group_takes inners near (Token.isSymbol_of_opening opens)
  | list => exact listExpr_takes inners near ((isSymbol_of_opening_bracket _).1 opens)
  | map => exact mapExpr_takes inners near ((isSymbol_of_opening_bracket _).2 opens)

theorem indexed_takes : Takes mode cursor (indexed inner) (SpeltAs .expression) := by
  apply Takes.bind (primary_takes inners near)
  intro front target next split spells
  have below := Nat.lt_of_lt_of_le (length_lt_of_taken split spells.ne_nil) near
  -- what is read so far goes along with the target it spells
  have indexes : Takes mode next (indexes inner target) fun taken value =>
      ∀ front, Spells front (.expression target) → Spells (front ++ taken) (.expression value) := by
    refine Takes.tie (fun target taken value => ∀ front, Spells front (.expression target) →
      Spells (front ++ taken) (.expression value)) ?_ target below
    intro cursor below self selves target
    apply Takes.here
    split
    · rename_i touching
      simp only [Bool.and_eq_true] at touching
      apply Takes.next (Token.ne_finish_of_isSymbol touching.1)
      intro shorter
      apply Takes.bind (inners (Nat.lt_trans shorter below))
      intro inside position next split spells
      apply Takes.bind (closing_takes .index)
      rintro _ _ last split' ⟨closer, rfl, closes⟩
      have shorter : last.rest.length < cursor.rest.length :=
        Nat.lt_of_le_of_lt (length_le_of_taken split')
          (Nat.lt_of_le_of_lt (length_le_of_taken split) shorter)
      apply (selves _ last shorter).mono
      intro rest value goesOn front spells'
      simpa using goesOn _ (.index spells' touching.1 spells closes)
    · exact .pure fun front spells => by simpa using spells
  exact indexes.mono fun taken value goesOn => goesOn front spells

theorem unary_takes : Takes mode cursor (unary inner) (SpeltAs .expression) := by
  refine Takes.tie (fun _ => SpeltAs .expression) ?_ () (Nat.lt_succ_of_le near)
  intro cursor below self selves _
  have near := Nat.le_of_lt_succ below
  apply Takes.here
  split
  · rename_i op found
    split
    · obtain ⟨keyword, spelt, _⟩ := Option.bind_eq_some_iff.mp found
      apply Takes.next (Token.ne_finish_of_keyword? spelt)
      intro shorter
      apply Takes.bind (selves () _ shorter)
      intro tokens operand _ _ spells
      exact .pure (by simpa using Spells.unary found spells)
    · exact indexed_takes inners near
  · exact indexed_takes inners near

end

end

section

variable {mode : Mode} {cursor : Cursor} {bound : Nat}

theorem operators_takes {inner : Nat → Rule Expr}
    (inners : ∀ least, Faithful mode bound (inner least)) (least : Nat) (left : Expr)
    (below : cursor.rest.length < bound) :
    Takes mode cursor (operators inner least left) fun taken value =>
      ∀ front, Spells front (.expression left) → Spells (front ++ taken) (.expression value) := by
  refine Takes.tie (fun left taken value => ∀ front,
    Spells front (.expression left) → Spells (front ++ taken) (.expression value)) ?_ left below
  intro cursor below self selves left
  apply Takes.here
  split
  · rename_i op found
    split
    · obtain ⟨keyword, spelt, _⟩ := Option.bind_eq_some_iff.mp found
      apply Takes.next (Token.ne_finish_of_keyword? spelt)
      intro shorter
      apply Takes.bind (inners _ (Nat.lt_trans shorter below))
      intro back right next split spells
      apply (selves _ next (Nat.lt_of_le_of_lt (length_le_of_taken split) shorter)).mono
      intro rest value goesOn front spells'
      simpa using goesOn _ (.binary spells' found spells)
    · exact .pure fun front spells => by simpa using spells
  · exact .pure fun front spells => by simpa using spells

/-- The tokens taken for an expression spell it, if nothing is noted. -/
theorem expressionOf_takes (least : Nat) (mode : Mode) (cursor : Cursor) :
    Takes mode cursor (expressionOf least) (SpeltAs .expression) := by
  refine Takes.tie (fun _ => SpeltAs .expression) ?_ least (Nat.lt_succ_self _)
  intro cursor _ self selves least
  have inners : ∀ least, Faithful mode cursor.rest.length (self least) :=
    fun least next shorter => selves least next shorter
  apply Takes.bind (unary_takes (inners 1) (Nat.le_refl _))
  intro front left next split spells
  have below := length_lt_of_taken split spells.ne_nil
  exact (operators_takes inners least left below).mono fun taken value goesOn => goesOn front spells

end

end Parlance.Grammar
