import Parlance.Proofs.Reading.Agree
import Parlance.Proofs.Reading.Operand

/-!
Parentheses in expressions. Whatever is read as an expression without a note takes a token at
least, and parentheses in pairs only: the search for the one that closes those around it comes to
the same behind the expression as in front of it.
-/

namespace Parlance

namespace Token

def isParen (token : Token) : Bool := token.isSymbol "(" || token.isSymbol ")"

variable {token : Token}

theorem isParen_of_isSymbol {symbol : String} (found : token.isSymbol symbol = true)
    (other : (symbol = "(" || symbol = ")") = false) : token.isParen = false := by
  simp only [isSymbol, Bool.and_eq_true, decide_eq_true_eq] at found
  simpa only [isParen, isSymbol, found.1, found.2, decide_true, Bool.true_and] using other

theorem isParen_of_ne_symbol (other : token.kind ≠ .symbol) : token.isParen = false := by
  simp [isParen, isSymbol, other]

theorem isParen_of_isMethodWord (found : token.isMethodWord = true) : token.isParen = false :=
  isParen_of_ne_symbol fun symbol => by simp [isMethodWord, symbol] at found

theorem isParen_of_isName (found : token.isName = true) : token.isParen = false :=
  isParen_of_ne_symbol fun symbol => by simp [isName, symbol] at found

theorem isParen_of_isMapKey (found : token.isMapKey = true) : token.isParen = false :=
  isParen_of_ne_symbol fun symbol => by simp [isMapKey, symbol] at found

theorem eq_of_isParen (paren : token.isParen = true) :
    token.kind = .symbol ∧ (token.lexeme = "(" ∨ token.lexeme = ")") := by
  simpa only [isParen, isSymbol, Bool.or_eq_true, Bool.and_eq_true, decide_eq_true_eq,
    ← and_or_left] using paren

theorem isParen_of_keyword? {keyword : Keyword} (spelt : token.keyword? = some keyword) :
    token.isParen = false := by
  refine Bool.eq_false_iff.mpr fun paren => ?_
  have opens : Keyword.ofSpelling? "(" = none := Keyword.ofSpelling?_of_mark (by decide)
  have closes : Keyword.ofSpelling? ")" = none := Keyword.ofSpelling?_of_mark (by decide)
  obtain ⟨kind, lexeme | lexeme⟩ := eq_of_isParen paren
  · simp [keyword?, kind, lexeme, opens] at spelt
  · simp [keyword?, kind, lexeme, closes] at spelt

theorem keyword?_of_paren (paren : token.isSymbol "(" = true) : token.keyword? = none := by
  refine Option.eq_none_iff_forall_ne_some.mpr fun keyword spelt => ?_
  have plain := isParen_of_keyword? spelt
  rw [isParen, paren] at plain
  cases plain

theorem isSymbol_of_opening (opens : Grammar.opening token = .group) :
    token.isSymbol "(" = true := by
  simp only [Grammar.opening] at opens
  split at opens
  case h_4 =>
    split at opens
    case h_6 =>
      split at opens
      · assumption
      · split at opens
        · cases opens
        · split at opens <;> cases opens
    all_goals cases opens
  all_goals cases opens

theorem isParen_of_opening (some' : Grammar.opening token ≠ .nothing)
    (noGroup : Grammar.opening token ≠ .group) : token.isParen = false := by
  refine Bool.eq_false_iff.mpr fun paren => ?_
  have opens : Keyword.ofSpelling? "(" = none := Keyword.ofSpelling?_of_mark (by decide)
  have closes : Keyword.ofSpelling? ")" = none := Keyword.ofSpelling?_of_mark (by decide)
  obtain ⟨kind, lexeme | lexeme⟩ := eq_of_isParen paren
  · simp [Grammar.opening, keyword?, isSymbol, kind, lexeme, opens] at noGroup
  · simp [Grammar.opening, keyword?, isSymbol, kind, lexeme, closes] at some'

end Token

namespace Grammar

open Rule

namespace Cursor

variable {cursor : Cursor}

theorem advance_lt (other : cursor.current.kind ≠ .finish) :
    cursor.advance.rest.length < cursor.rest.length :=
  cursor.advance_shorter (by simpa [atEnd] using other)

theorem rest_eq_cons (other : cursor.current.kind ≠ .finish) :
    cursor.rest = cursor.current :: cursor.advance.rest := by
  obtain ⟨tokens, lastStop⟩ := cursor
  cases tokens with
  | nil => exact absurd rfl other
  | cons token rest =>
      have open' : token.kind ≠ .finish := other
      rw [advance_cons open', current_cons]

theorem closingParen?_advance (other : cursor.current.kind ≠ .finish)
    (plain : cursor.current.isParen = false) (depth : Nat) :
    closingParen? depth cursor.rest = closingParen? depth cursor.advance.rest := by
  obtain ⟨opens, closes⟩ := Bool.or_eq_false_iff.mp plain
  rw [rest_eq_cons other, closingParen?]
  simp only [opens, closes, Bool.false_eq_true, ↓reduceIte]

theorem closingParen?_open (paren : cursor.isAtSymbol "(" = true) (depth : Nat) :
    closingParen? depth cursor.rest = closingParen? (depth + 1) cursor.advance.rest := by
  have opens : cursor.current.isSymbol "(" = true := paren
  rw [rest_eq_cons (Token.ne_finish_of_isSymbol opens), closingParen?]
  simp only [opens, ↓reduceIte]

theorem closingParen?_close (paren : cursor.isAtSymbol ")" = true) (depth : Nat) :
    closingParen? (depth + 2) cursor.rest = closingParen? (depth + 1) cursor.advance.rest := by
  have closes : cursor.current.isSymbol ")" = true := paren
  have opens : cursor.current.isSymbol "(" = false := by
    simp only [Token.isSymbol, Bool.and_eq_true, decide_eq_true_eq] at closes
    simp [Token.isSymbol, closes]
  rw [rest_eq_cons (Token.ne_finish_of_isSymbol closes), closingParen?]
  simp [opens, closes]

end Cursor

/-- If nothing is noted, the rule takes at least so many tokens, and the search for a closing
parenthesis counts so many open ones in front of them and so many behind. -/
def Counts (mode : Mode) (cursor : Cursor) (few before after : Nat) {α : Type} (rule : Rule α) :
    Prop :=
  ∀ ⦃value next⦄, rule mode cursor = .done value next [] →
    next.rest.length + few ≤ cursor.rest.length ∧ ∀ depth,
      closingParen? (depth + before) cursor.rest = closingParen? (depth + after) next.rest

section

variable {α β : Type} {mode : Mode} {cursor : Cursor} {few before middle after count : Nat}

namespace Counts

theorem pure (value : α) : Counts mode cursor 0 count count (Pure.pure value) := by
  intro _ _ read
  obtain ⟨_, rfl, _⟩ := Reading.done.inj read
  exact ⟨Nat.le_refl _, fun _ => rfl⟩

theorem weaken {rule : Rule α} (counts : Counts mode cursor few before after rule) :
    Counts mode cursor 0 before after rule :=
  fun _ _ read => ⟨Nat.le_trans (Nat.le_add_right _ _) (counts read).1, (counts read).2⟩

theorem deepen {rule : Rule α} (counts : Counts mode cursor few before after rule) :
    Counts mode cursor few (before + 1) (after + 1) rule := by
  intro value next read
  obtain ⟨shorter, same⟩ := counts read
  refine ⟨shorter, fun depth => ?_⟩
  have deeper := same (depth + 1)
  rwa [Nat.add_assoc, Nat.add_assoc, Nat.add_comm 1, Nat.add_comm 1] at deeper

theorem bind {rule : Rule α} {more : α → Rule β}
    (first : Counts mode cursor few before middle rule)
    (later : ∀ value next, next.rest.length + few ≤ cursor.rest.length →
      Counts mode next 0 middle after (more value)) :
    Counts mode cursor few before after (rule >>= more) := by
  intro value next read
  obtain ⟨_, between, read, goesOn⟩ := Reading.andThen_clean read
  obtain ⟨shorter, same⟩ := first read
  obtain ⟨no_longer, same'⟩ := later _ between shorter goesOn
  exact ⟨Nat.le_trans (Nat.add_le_add_right no_longer few) shorter,
    fun depth => (same depth).trans (same' depth)⟩

theorem here {more : Cursor → Rule β} (later : Counts mode cursor few before after (more cursor)) :
    Counts mode cursor few before after (Rule.here >>= more) := by
  intro value next read
  rw [bind_apply, Rule.here, Reading.done_andThen] at read
  exact later read

theorem knowing {more : Capabilities → Rule β}
    (later : Counts mode cursor few before after (more mode.capabilities)) :
    Counts mode cursor few before after (Rule.capabilities >>= more) := by
  intro value next read
  rw [bind_apply, Rule.capabilities, Reading.done_andThen] at read
  exact later read

theorem taking {rule : Rule α} {more : α → Rule β} {value : α}
    (reads : rule mode cursor = .done value cursor.advance [])
    (other : cursor.current.kind ≠ .finish)
    (same : ∀ depth, closingParen? (depth + before) cursor.rest =
      closingParen? (depth + middle) cursor.advance.rest)
    (later : cursor.advance.rest.length < cursor.rest.length →
      Counts mode cursor.advance 0 middle after (more value)) :
    Counts mode cursor 1 before after (rule >>= more) := by
  have shorter := Cursor.advance_lt other
  intro last next read
  rw [bind_apply, reads, Reading.done_andThen] at read
  obtain ⟨no_longer, same'⟩ := later shorter read
  exact ⟨Nat.lt_of_le_of_lt no_longer shorter, fun depth => (same depth).trans (same' depth)⟩

theorem next {more : Token → Rule β} (other : cursor.current.kind ≠ .finish)
    (plain : cursor.current.isParen = false)
    (later : cursor.advance.rest.length < cursor.rest.length →
      Counts mode cursor.advance 0 count after (more cursor.current)) :
    Counts mode cursor 1 count after (Rule.next >>= more) :=
  taking rfl other (fun _ => Cursor.closingParen?_advance other plain _) later

theorem nextParen {more : Token → Rule β} (paren : cursor.isAtSymbol "(" = true)
    (later : cursor.advance.rest.length < cursor.rest.length →
      Counts mode cursor.advance 0 (count + 1) after (more cursor.current)) :
    Counts mode cursor 1 count after (Rule.next >>= more) :=
  taking rfl (Token.ne_finish_of_isSymbol paren) (fun _ => Cursor.closingParen?_open paren _) later

theorem tested {test : Bool} {rule : Rule Bool} {more : Bool → Rule β}
    (reads : rule mode cursor =
      if test then .done true cursor.advance [] else .done false cursor [])
    (yes : test = true → Counts mode cursor 1 before after (rule >>= more))
    (no : Counts mode cursor 0 before after (more false)) :
    Counts mode cursor 0 before after (rule >>= more) := by
  cases test with
  | true => exact (yes rfl).weaken
  | false =>
      intro last next read
      rw [bind_apply, reads] at read
      exact no (by simpa using read)

theorem accept {keyword : Keyword} {more : Bool → Rule β}
    (yes : cursor.advance.rest.length < cursor.rest.length →
      Counts mode cursor.advance 0 count after (more true))
    (no : Counts mode cursor 0 count after (more false)) :
    Counts mode cursor 0 count after (Rule.accept keyword >>= more) := by
  refine tested rfl (fun found => ?_) no
  have spelt : cursor.current.keyword? = some keyword := of_decide_eq_true found
  have other := Token.ne_finish_of_keyword? spelt
  refine taking (by simp [Rule.accept, found]) other ?_ yes
  exact fun _ => Cursor.closingParen?_advance other (Token.isParen_of_keyword? spelt) _

theorem acceptSymbol {symbol : String} {more : Bool → Rule β}
    (plain : (symbol = "(" || symbol = ")") = false)
    (yes : cursor.advance.rest.length < cursor.rest.length →
      Counts mode cursor.advance 0 count after (more true))
    (no : Counts mode cursor 0 count after (more false)) :
    Counts mode cursor 0 count after (Rule.acceptSymbol symbol >>= more) := by
  refine tested rfl (fun found => ?_) no
  have other := Token.ne_finish_of_isSymbol found
  refine taking (by simp [Rule.acceptSymbol, found]) other ?_ yes
  exact fun _ => Cursor.closingParen?_advance other (Token.isParen_of_isSymbol found plain) _

theorem acceptParen {more : Bool → Rule β}
    (yes : Counts mode cursor.advance 0 1 after (more true))
    (no : Counts mode cursor 0 2 after (more false)) :
    Counts mode cursor 0 2 after (Rule.acceptSymbol ")" >>= more) := by
  refine tested rfl (fun found => ?_) no
  refine taking (by simp [Rule.acceptSymbol, found]) (Token.ne_finish_of_isSymbol found) ?_
    fun _ => yes
  exact fun _ => Cursor.closingParen?_close found _

theorem recover {flaw : Flaw} {more : Unit → Rule β} :
    Counts mode cursor few before after (Rule.recover flaw >>= more) := by
  intro value next read
  obtain ⟨_, _, read, _⟩ := Reading.andThen_clean read
  exact absurd read recover_noted

theorem tie {γ : Type} {resort : γ → Rule β} {round : (γ → Rule β) → γ → Rule β} {bound : Nat}
    (rounds : ∀ cursor, cursor.rest.length < bound → ∀ self,
      (∀ goal next, next.rest.length < cursor.rest.length →
        Counts mode next few before after (self goal)) →
          ∀ goal, Counts mode cursor few before after (round self goal))
    (goal : γ) (below : cursor.rest.length < bound) :
    Counts mode cursor few before after (Rule.tie resort round goal) := by
  -- the induction is on the number of tokens ahead: what is granted to a round has fewer
  induction ahead : cursor.rest.length using Nat.strongRecOn generalizing goal cursor with
  | ind length ih =>
      subst ahead
      have granted : ∀ goal next, next.rest.length < cursor.rest.length →
          Counts mode next few before after
            (granted cursor (Rule.tie resort round) resort goal) := by
        intro goal next shorter value last read
        simp only [Rule.granted, shorter, ↓reduceIte] at read
        exact ih _ shorter goal (Nat.lt_trans shorter below) rfl read
      intro value next read
      rw [tie_apply] at read
      exact rounds cursor below _ granted goal read

end Counts

end

/-! ### The rules for expressions -/

/-- Of the cursors with fewer tokens ahead than the bound, an expression takes a token, and leaves
the count as it was. -/
def Level (mode : Mode) (bound : Nat) (expression : Rule Expr) : Prop :=
  ∀ ⦃cursor⦄, cursor.rest.length < bound → Counts mode cursor 1 1 1 expression

section

variable {mode : Mode} {cursor : Cursor} {bound : Nat} {inner : Rule Expr}

theorem closing_counts {symbol : String} (plain : (symbol = "(" || symbol = ")") = false)
    (bracket : Bracket) : Counts mode cursor 0 1 1 (closing symbol bracket) := by
  apply Counts.acceptSymbol plain
  · intro _
    exact .pure ()
  · exact fun _ _ read => absurd read recover_noted

theorem closing_clean {symbol : String} {bracket : Bracket} {value : Unit} {next : Cursor}
    (clean : closing symbol bracket mode cursor = .done value next []) :
    cursor.isAtSymbol symbol = true := by
  by_contra other
  simp only [closing, bind_apply, acceptSymbol, other, Bool.false_eq_true, ↓reduceIte,
    Reading.done_andThen] at clean
  exact recover_noted clean

theorem closing_paren_counts (bracket : Bracket) :
    Counts mode cursor 0 2 1 (closing ")" bracket) := by
  apply Counts.acceptParen
  · exact .pure ()
  · exact fun _ _ read => absurd read recover_noted

/-- Items up to a bracket of any kind, inside parentheses or not. -/
theorem items_counts {symbol : String} {before after : Nat} (bracket : Bracket) (inside : Inside)
    (inners : ∀ cursor, cursor.rest.length < bound → Counts mode cursor 1 before before inner)
    (closes : ∀ cursor (more : Bool → Rule (List Expr)),
      Counts mode cursor.advance 0 after after (more true) →
        Counts mode cursor 0 before after (more false) →
          Counts mode cursor 0 before after (acceptSymbol symbol >>= more))
    (below : cursor.rest.length < bound) :
    Counts mode cursor 0 before after (items inner symbol bracket inside) := by
  refine Counts.tie ?_ () below
  intro cursor below self selves _
  apply closes
  · exact .pure []
  simp only [Bool.false_eq_true, ↓reduceIte]
  apply Counts.acceptSymbol rfl
  · exact selves () _
  simp only [Bool.false_eq_true, ↓reduceIte]
  apply Counts.here
  split
  · -- an item takes a token, so the round behind it is granted
    refine Counts.weaken (Counts.bind (inners cursor below) fun item next shorter => ?_)
    apply Counts.bind (selves () next shorter)
    intro more _ _
    exact .pure (item :: more)
  · split
    · exact .recover
    · exact .recover

variable (inners : Level mode bound inner)

include inners in
theorem parenArguments_counts (paren : cursor.isAtSymbol "(" = true)
    (near : cursor.rest.length ≤ bound) :
    Counts mode cursor 1 1 1 (parenArguments inner) := by
  apply Counts.nextParen paren
  intro shorter
  apply items_counts
  · exact fun _ below => (inners below).deepen
  · exact fun _ _ yes no => .acceptParen yes no
  · exact Nat.lt_of_lt_of_le shorter near

include inners in
theorem argument?_bind_counts {β : Type} {line : Nat} {more : Option Expr → Rule β}
    (below : cursor.rest.length < bound)
    (some' : ∀ argument next, next.rest.length < cursor.rest.length →
      Counts mode next 0 1 1 (more (some argument)))
    (none' : Counts mode cursor 0 1 1 (more none)) :
    Counts mode cursor 0 1 1 (argument? inner line >>= more) := by
  intro value last read
  simp only [argument?, bind_apply, here, Reading.done_andThen] at read
  split at read
  · have both : Counts mode cursor 1 1 1 (inner >>= fun value => more (some value)) :=
      Counts.bind (inners below) some'
    exact both.weaken (by simpa only [bind_apply, Reading.andThen_assoc, pure_apply,
      Reading.done_andThen] using read)
  · exact none' (by simpa using read)

include inners in
theorem spacedArguments_counts (line : Nat) (below : cursor.rest.length < bound) :
    Counts mode cursor 0 1 1 (spacedArguments inner line) := by
  refine Counts.tie ?_ () below
  intro cursor below self selves _
  apply argument?_bind_counts inners below
  · intro argument next shorter
    apply Counts.bind (selves () next shorter)
    intro more _ _
    exact .pure (argument :: more)
  · exact .pure []

include inners in
theorem callArguments_counts (line : Nat) (below : cursor.rest.length < bound) :
    Counts mode cursor 0 1 1 (callArguments inner line) := by
  apply Counts.here
  split
  · rename_i paren
    exact (parenArguments_counts inners paren (Nat.le_of_lt below)).weaken
  · exact spacedArguments_counts inners line below

theorem method?_counts (callee : Token) : Counts mode cursor 0 1 1 (method? callee) := by
  apply Counts.here
  apply Counts.knowing
  split
  · rename_i point
    simp only [Cursor.atPointMethod, Bool.and_eq_true] at point
    have here := Token.ne_finish_of_isSymbol point.1
    apply Counts.weaken
    apply Counts.next here (Token.isParen_of_isSymbol point.1 rfl)
    intro _
    have method : cursor.advance.current.isMethodWord = true := by
      rw [Cursor.current, Cursor.ahead_advance _ 0 here]
      exact point.2
    apply Counts.weaken
    apply Counts.next (Token.ne_finish_of_isMethodWord method)
      (Token.isParen_of_isMethodWord method)
    intro _
    exact .pure _
  · split
    · rename_i bare
      simp only [Cursor.atBareMethod, Bool.and_eq_true] at bare
      apply Counts.weaken
      apply Counts.next (Token.ne_finish_of_isMethodWord bare.1.2)
        (Token.isParen_of_isMethodWord bare.1.2)
      intro _
      exact .pure _
    · exact .pure none

include inners in
theorem callOf_counts (callee : Token) (below : cursor.rest.length < bound) :
    Counts mode cursor 0 1 1 (callOf inner callee) := by
  apply Counts.bind (method?_counts callee)
  intro method next no_longer
  apply Counts.bind (callArguments_counts inners callee.line (Nat.lt_of_le_of_lt no_longer below))
  intro arguments _ _
  exact .pure _

include inners in
theorem explicitCall_counts (below : cursor.rest.length < bound) :
    Counts mode cursor 0 1 1 (explicitCall inner) := by
  apply Counts.here
  split
  · rename_i name
    apply Counts.weaken
    apply Counts.next (Token.ne_finish_of_isName name) (Token.isParen_of_isName name)
    intro shorter
    exact callOf_counts inners _ (Nat.lt_trans shorter below)
  · exact .recover

theorem colon_counts (key : Token) : Counts mode cursor 0 1 1 (colon key) := by
  apply Counts.acceptSymbol rfl
  · intro _
    exact .pure ()
  simp only [Bool.false_eq_true, ↓reduceIte]
  apply Counts.accept
  · intro _
    exact .pure ()
  · exact fun _ _ read => absurd read recover_noted

include inners in
theorem mapValue_counts (key : Token) (below : cursor.rest.length < bound) :
    Counts mode cursor 0 1 1 (mapValue inner key) := by
  apply Counts.here
  split
  · exact (inners below).weaken
  · exact .pure _

include inners in
theorem mapEntries_counts (below : cursor.rest.length < bound) :
    Counts mode cursor 0 1 1 (mapEntries inner) := by
  refine Counts.tie ?_ () below
  intro cursor below self selves _
  apply Counts.acceptSymbol rfl
  · intro _
    exact .pure []
  simp only [Bool.false_eq_true, ↓reduceIte]
  apply Counts.acceptSymbol rfl
  · exact selves () _
  simp only [Bool.false_eq_true, ↓reduceIte]
  apply Counts.here
  split
  · exact .recover
  · split
    · rename_i isKey
      apply Counts.weaken
      apply Counts.next (Token.ne_finish_of_isMapKey isKey) (Token.isParen_of_isMapKey isKey)
      intro shorter
      apply Counts.bind (colon_counts _)
      intro _ next no_longer
      have shorter : next.rest.length < cursor.rest.length := Nat.lt_of_le_of_lt no_longer shorter
      apply Counts.bind (mapValue_counts inners _ (Nat.lt_trans shorter below))
      intro value last no_longer
      apply Counts.bind (selves () last (Nat.lt_of_le_of_lt no_longer shorter))
      intro more _ _
      exact .pure _
    · exact .recover

section

variable (other : cursor.current.kind ≠ .finish) (plain : cursor.current.isParen = false)
  (near : cursor.rest.length ≤ bound)

include inners other plain near

theorem nameExpr_counts : Counts mode cursor 1 1 1 (nameExpr inner) := by
  apply Counts.next other plain
  intro shorter
  apply Counts.here
  apply Counts.knowing
  split
  · exact callOf_counts inners _ (Nat.lt_of_lt_of_le shorter near)
  · split
    · exact .pure _
    · exact .pure _

theorem listExpr_counts : Counts mode cursor 1 1 1 (listExpr inner) := by
  apply Counts.next other plain
  intro shorter
  have below := Nat.lt_of_lt_of_le shorter near
  have entries : Counts mode cursor.advance 0 1 1 (items inner "]" .list .list) := by
    apply items_counts
    · exact fun _ below => inners below
    · exact fun _ _ yes no => .acceptSymbol rfl (fun _ => yes) no
    · exact below
  apply Counts.bind entries
  intro entries _ _
  exact .pure _

theorem mapExpr_counts : Counts mode cursor 1 1 1 (mapExpr inner) := by
  apply Counts.next other plain
  intro shorter
  apply Counts.bind (mapEntries_counts inners (Nat.lt_of_lt_of_le shorter near))
  intro entries _ _
  exact .pure _

end

include inners in
theorem group_counts (paren : cursor.isAtSymbol "(" = true) (near : cursor.rest.length ≤ bound) :
    Counts mode cursor 1 1 1 (group inner) := by
  apply Counts.nextParen paren
  intro shorter
  refine Counts.bind (inners (Nat.lt_of_lt_of_le shorter near)).deepen.weaken ?_
  intro value next _
  apply Counts.bind (closing_paren_counts .group)
  intro _ _ _
  exact .pure value

include inners in
theorem primary_counts (near : cursor.rest.length ≤ bound) :
    Counts mode cursor 1 1 1 (primary inner) := by
  -- an operand takes its first token, and what is in its brackets is counted by induction
  apply Counts.here
  cases opens : opening cursor.current with
  | nothing =>
      apply Counts.here
      exact .recover
  | group => exact group_counts inners (Token.isSymbol_of_opening opens) near
  | literal _ | name | call | list | map =>
      have other : cursor.current.kind ≠ .finish := Token.ne_finish_of_opening (by simp [opens])
      have plain : cursor.current.isParen = false :=
        Token.isParen_of_opening (by simp [opens]) (by simp [opens])
      first
      | exact Counts.next other plain fun _ => .pure _
      | exact nameExpr_counts inners other plain near
      | exact listExpr_counts inners other plain near
      | exact mapExpr_counts inners other plain near
      | exact Counts.next other plain fun shorter =>
          explicitCall_counts inners (Nat.lt_of_lt_of_le shorter near)

include inners in
theorem indexed_counts (near : cursor.rest.length ≤ bound) :
    Counts mode cursor 1 1 1 (indexed inner) := by
  apply Counts.bind (primary_counts inners near)
  intro target next shorter
  refine Counts.tie ?_ target (Nat.lt_of_lt_of_le shorter near)
  intro cursor below self selves target
  apply Counts.here
  split
  · rename_i touching
    simp only [Bool.and_eq_true] at touching
    have bracket : cursor.current.isSymbol "[" = true := touching.1
    apply Counts.weaken
    apply Counts.next (Token.ne_finish_of_isSymbol bracket)
      (Token.isParen_of_isSymbol bracket rfl)
    intro shorter
    apply Counts.bind (inners (Nat.lt_trans shorter below)).weaken
    intro position next no_longer
    apply Counts.bind (closing_counts rfl .index)
    intro _ last no_longer'
    exact selves _ last (by omega)
  · exact .pure target

include inners in
theorem unary_counts (near : cursor.rest.length ≤ bound) :
    Counts mode cursor 1 1 1 (unary inner) := by
  refine Counts.tie ?_ () (Nat.lt_succ_of_le near)
  intro cursor below self selves _
  have near := Nat.le_of_lt_succ below
  apply Counts.here
  split
  · rename_i op found
    split
    · obtain ⟨keyword, spelt, _⟩ := Option.bind_eq_some_iff.mp found
      apply Counts.next (Token.ne_finish_of_keyword? spelt) (Token.isParen_of_keyword? spelt)
      intro shorter
      apply Counts.bind (selves () _ shorter).weaken
      intro operand _ _
      exact .pure _
    · exact indexed_counts inners near
  · exact indexed_counts inners near

end

section

variable {mode : Mode} {cursor : Cursor} {bound : Nat}

theorem operators_counts {inner : Nat → Rule Expr}
    (inners : ∀ least, Level mode bound (inner least)) (least : Nat) (left : Expr)
    (below : cursor.rest.length < bound) :
    Counts mode cursor 0 1 1 (operators inner least left) := by
  refine Counts.tie ?_ left below
  intro cursor below self selves left
  apply Counts.here
  split
  · rename_i op found
    split
    · obtain ⟨keyword, spelt, _⟩ := Option.bind_eq_some_iff.mp found
      apply Counts.weaken
      apply Counts.next (Token.ne_finish_of_keyword? spelt) (Token.isParen_of_keyword? spelt)
      intro shorter
      apply Counts.bind (inners _ (Nat.lt_trans shorter below)).weaken
      intro right next no_longer
      exact selves _ next (Nat.lt_of_le_of_lt no_longer shorter)
    · exact .pure left
  · exact .pure left

/-- An expression that is read without a note takes a token and leaves the count of parentheses as
it was. -/
theorem expressionOf_counts (least : Nat) (mode : Mode) (cursor : Cursor) :
    Counts mode cursor 1 1 1 (expressionOf least) := by
  refine Counts.tie ?_ least (Nat.lt_succ_self _)
  intro cursor _ self selves least
  have inners : ∀ least, Level mode cursor.rest.length (self least) :=
    fun least next shorter => selves least next shorter
  apply Counts.bind (unary_counts (inners 1) (Nat.le_refl _))
  intro left next shorter
  exact operators_counts inners least left shorter

/-- The parenthesis that an expression begins with is closed where it is read without a note. -/
theorem closingParen?_of_expression {value : Expr} {next : Cursor}
    (paren : cursor.isAtSymbol "(" = true)
    (clean : expression mode cursor = .done value next []) :
    closingParen? 0 cursor.rest ≠ none := by
  have spelt : cursor.current.keyword? = none := Token.keyword?_of_paren paren
  have operator : cursor.unaryOp? = none := by simp [Cursor.unaryOp?, spelt]
  have opens : opening cursor.current = .group := by
    have symbol : cursor.current.isSymbol "(" = true := paren
    have kind : cursor.current.kind = .symbol := by
      simp only [Token.isSymbol, Bool.and_eq_true, decide_eq_true_eq] at symbol
      exact symbol.1
    simp [opening, kind, spelt, symbol]
  rw [expression, expressionOf_apply] at clean
  obtain ⟨left, _, read, _⟩ := Reading.andThen_clean clean
  rw [unary, tie_apply] at read
  simp only [unary.round, bind_apply, here, Reading.done_andThen, operator, indexed] at read
  obtain ⟨_, _, read, _⟩ := Reading.andThen_clean read
  simp only [primary, bind_apply, here, Reading.done_andThen, opens, group, Rule.next] at read
  obtain ⟨_, inside, read, closes⟩ := Reading.andThen_clean read
  obtain ⟨_, _, closes, _⟩ := Reading.andThen_clean closes
  have shorter := Cursor.advance_lt (Token.ne_finish_of_isSymbol paren)
  rw [expressionWithin_shorter shorter] at read
  have same := (expressionOf_counts 1 mode cursor.advance read).2 0
  have found : inside.current.isSymbol ")" = true := closing_clean closes
  have plain : inside.current.isSymbol "(" = false := by
    simp only [Token.isSymbol, Bool.and_eq_true, decide_eq_true_eq] at found
    simp [Token.isSymbol, found]
  rw [Cursor.closingParen?_open paren, same,
    Cursor.rest_eq_cons (Token.ne_finish_of_isSymbol found), closingParen?]
  simp [plain, found]

end

end Grammar

end Parlance
