import Parlance.Proofs.Reading.Content

/-!
Accounts of tokens. The tokens of statements are words, symbols, names and what spells expressions.
An account says what of them is shown, and what is left out: of the values in parentheses behind a
word for output, all but two. Whatever is not left out is kept. Along a rule an account is gathered
part by part.
-/

namespace Parlance

namespace Grammar

open Rule Token

/-- What tokens in a row show, and what outputs leave out of it: of the values in the parentheses
behind a word for output, those behind the second. -/
inductive Accounts : List Token → Multiset Content → List Expr → Prop where
  | nil : Accounts [] 0 []
  | mute {token : Token} {tokens : List Token} {shown : Multiset Content} {lost : List Expr} :
      token.speaks = false → Accounts tokens shown lost → Accounts (token :: tokens) shown lost
  | name {token : Token} {tokens : List Token} {shown : Multiset Content} {lost : List Expr} :
      opening token = .name → Accounts tokens shown lost →
        Accounts (token :: tokens) ({.text token.lexeme} + shown) lost
  | phrase {front back : List Token} {phrase : Phrase} {shown : Multiset Content}
      {lost : List Expr} : Spells front phrase → Accounts back shown lost →
        Accounts (front ++ back) (phrase.contents + shown) lost
  | output {head : Token} {front back : List Token} {values : List Expr}
      {shown : Multiset Content} {lost : List Expr} : head.keyword? = some .output →
        Spells front (.enclosed values) → Accounts back shown lost →
          Accounts (head :: (front ++ back)) ((Phrase.items (values.take 2)).contents + shown)
            (values.drop 2 ++ lost)

theorem Accounts.append {front back : List Token} {early late : Multiset Content}
    {lost missing : List Expr} (first : Accounts front early lost)
    (second : Accounts back late missing) :
    Accounts (front ++ back) (early + late) (lost ++ missing) := by
  induction first with
  | nil => simpa using second
  | mute silent _ ih => exact .mute silent ih
  | name opens _ ih =>
      rw [add_assoc]
      exact .name opens ih
  | phrase spells _ ih =>
      rw [add_assoc, List.append_assoc]
      exact .phrase spells ih
  | output word spells _ ih =>
      rw [add_assoc, List.cons_append, List.append_assoc, List.append_assoc]
      exact .output word spells ih

theorem contents_take_drop (values : List Expr) (count : Nat) :
    (Phrase.items values).contents =
      (Phrase.items (values.take count)).contents +
        (Phrase.items (values.drop count)).contents := by
  simp only [Phrase.contents, Expr.toNodes_eq_map]
  rw [← Node.allContents_append, ← List.map_append, List.take_append_drop]

theorem Accounts.kept {tokens : List Token} {shown : Multiset Content} {lost : List Expr}
    (accounts : Accounts tokens shown lost) :
    Kept tokens (shown + (Phrase.items lost).contents) := by
  induction accounts with
  | nil => exact .nil _
  | mute silent _ ih => exact .mute silent ih
  | name opens _ ih =>
      rw [add_assoc]
      exact .cons (shownBy_name opens) ih
  | phrase spells _ ih =>
      rw [add_assoc]
      exact spells.kept.append ih
  | @output head front back values shown lost word spells _ ih =>
      have all : (Phrase.items (values.take 2)).contents + shown +
          (Phrase.items (values.drop 2 ++ lost)).contents =
            (Phrase.enclosed values).contents + (shown + (Phrase.items lost).contents) := by
        have parts : (Phrase.enclosed values).contents = _ := contents_take_drop values 2
        have both : (Phrase.items (values.drop 2 ++ lost)).contents =
            (Phrase.items (values.drop 2)).contents + (Phrase.items lost).contents := by
          simp only [Phrase.contents, Expr.toNodes_eq_map, List.map_append, Node.allContents_append]
        rw [parts, both]
        ac_rfl
      rw [all]
      exact .mute (silent_of_keyword? word) (spells.kept.append ih)

def OutputsBare (tokens : List Token) : Prop :=
  ∀ head opener, [head, opener] <:+: tokens → head.keyword? = some .output →
    opener.isSymbol "(" = false

theorem Accounts.nothing_lost {tokens : List Token} {shown : Multiset Content} {lost : List Expr}
    (accounts : Accounts tokens shown lost) (bare : OutputsBare tokens) : lost = [] := by
  induction accounts with
  | nil => rfl
  | mute _ _ ih => exact ih fun head opener found => bare head opener (List.infix_cons found)
  | name _ _ ih => exact ih fun head opener found => bare head opener (List.infix_cons found)
  | phrase _ _ ih =>
      exact ih fun head opener found =>
        bare head opener (found.trans (List.suffix_append _ _).isInfix)
  | output word spells _ _ =>
      cases spells with
      | enclosed opens _ _ =>
          have plain := bare _ _ ⟨[], _, rfl⟩ word
          rw [opens] at plain
          cases plain

def Shows (tokens : List Token) (contents : Multiset Content) : Prop :=
  ∃ lost, Accounts tokens contents lost

namespace Shows

variable {token : Token} {front back tokens : List Token} {early late contents : Multiset Content}

theorem nil : Shows [] 0 := ⟨[], .nil⟩

theorem append (first : Shows front early) (second : Shows back late) :
    Shows (front ++ back) (early + late) := by
  obtain ⟨lost, accounts⟩ := first
  obtain ⟨missing, accounts'⟩ := second
  exact ⟨lost ++ missing, accounts.append accounts'⟩

theorem mute (silent : token.speaks = false) : Shows [token] 0 := ⟨[], .mute silent .nil⟩

theorem name (opens : opening token = .name) : Shows [token] {.text token.lexeme} :=
  ⟨[], by simpa using Accounts.name opens .nil⟩

theorem phrase {phrase : Phrase} (spells : Spells tokens phrase) :
    Shows tokens phrase.contents :=
  ⟨[], by simpa using Accounts.phrase spells .nil⟩

end Shows

/-! ### What rules add -/

def Adds (mode : Mode) (cursor : Cursor) {α : Type} (rule : Rule α)
    (contents : α → Multiset Content) : Prop :=
  Takes mode cursor rule fun taken value => Shows taken (contents value)

def Gathers (mode : Mode) (cursor : Cursor) (had : Multiset Content) {α : Type} (rule : Rule α)
    (contents : α → Multiset Content) : Prop :=
  Takes mode cursor rule fun taken value =>
    ∃ more, Shows taken more ∧ contents value = had + more

section

variable {α β : Type} {mode : Mode} {cursor : Cursor} {had : Multiset Content}
variable {contents : β → Multiset Content}

theorem Gathers.adds {rule : Rule β} (gathers : Gathers mode cursor 0 rule contents) :
    Adds mode cursor rule contents := by
  apply Takes.mono gathers
  rintro taken value ⟨more, shows, same⟩
  rw [same, zero_add]
  exact shows

theorem Adds.start {rule : Rule β} (adds : Adds mode cursor rule contents) :
    Gathers mode cursor 0 rule contents :=
  Takes.mono adds fun _ _ shows => ⟨_, shows, (zero_add _).symm⟩

theorem Adds.gathers {rule : Rule β} (adds : Adds mode cursor rule contents) :
    Gathers mode cursor had rule fun value => had + contents value :=
  Takes.mono adds fun _ value shows => ⟨contents value, shows, rfl⟩

namespace Gathers

theorem pure {value : β} (same : contents value = had) :
    Gathers mode cursor had (Pure.pure value) contents :=
  Takes.pure ⟨0, .nil, by rw [same, add_zero]⟩

theorem here {more : Cursor → Rule β} (later : Gathers mode cursor had (more cursor) contents) :
    Gathers mode cursor had (Rule.here >>= more) contents :=
  Takes.here later

theorem recover {flaw : Flaw} {more : Unit → Rule β} :
    Gathers mode cursor had (Rule.recover flaw >>= more) contents :=
  Takes.recover

/-- What follows a rule goes on from what is gathered so far, and may count on how the rule was
read. -/
theorem bind_read {rule : Rule α} {more : α → Rule β} {between : α → Multiset Content}
    (first : Gathers mode cursor had rule between)
    (later : ∀ value next, rule mode cursor = .done value next [] →
      next.rest.length ≤ cursor.rest.length →
        Gathers mode next (between value) (more value) contents) :
    Gathers mode cursor had (rule >>= more) contents := by
  apply Takes.bind_read first
  rintro taken value next read split ⟨added, shows, same⟩
  apply Takes.mono (later value next read (length_le_of_taken split))
  rintro rest last ⟨added', shows', same'⟩
  exact ⟨added + added', shows.append shows', by rw [same', same, add_assoc]⟩

theorem bind {rule : Rule α} {more : α → Rule β} {between : α → Multiset Content}
    (first : Adds mode cursor rule between)
    (later : ∀ value next, next.rest.length ≤ cursor.rest.length →
      Gathers mode next (had + between value) (more value) contents) :
    Gathers mode cursor had (rule >>= more) contents :=
  bind_read first.gathers fun value next _ => later value next

theorem next {more : Token → Rule β} {keyword : Keyword}
    (spelt : cursor.current.keyword? = some keyword)
    (later : cursor.advance.rest.length < cursor.rest.length →
      Gathers mode cursor.advance had (more cursor.current) contents) :
    Gathers mode cursor had (Rule.next >>= more) contents := by
  apply Takes.next (ne_finish_of_keyword? spelt)
  intro shorter
  apply Takes.mono (later shorter)
  rintro rest value ⟨added, shows, same⟩
  exact ⟨added, by simpa using (Shows.mute (silent_of_keyword? spelt)).append shows, same⟩

theorem nextName {more : Token → Rule β} (named : cursor.current.isName = true)
    (later : cursor.advance.rest.length < cursor.rest.length →
      Gathers mode cursor.advance (had + {.text cursor.current.lexeme}) (more cursor.current)
        contents) :
    Gathers mode cursor had (Rule.next >>= more) contents := by
  apply Takes.next (ne_finish_of_isName named)
  intro shorter
  apply Takes.mono (later shorter)
  rintro rest value ⟨added, shows, same⟩
  exact ⟨_, (Shows.name (opening_of_isName named)).append shows, by rw [same, add_assoc]⟩

theorem accept {keyword : Keyword} {more : Bool → Rule β}
    (yes : cursor.advance.rest.length < cursor.rest.length →
      Gathers mode cursor.advance had (more true) contents)
    (no : Gathers mode cursor had (more false) contents) :
    Gathers mode cursor had (Rule.accept keyword >>= more) contents := by
  refine Takes.accept (fun spelt shorter => ?_) no
  apply Takes.mono (yes shorter)
  rintro rest value ⟨added, shows, same⟩
  exact ⟨added, by simpa using (Shows.mute (silent_of_keyword? spelt)).append shows, same⟩

theorem acceptSymbol {symbol : String} {more : Bool → Rule β}
    (yes : cursor.advance.rest.length < cursor.rest.length →
      Gathers mode cursor.advance had (more true) contents)
    (no : Gathers mode cursor had (more false) contents) :
    Gathers mode cursor had (Rule.acceptSymbol symbol >>= more) contents := by
  refine Takes.acceptSymbol (fun found shorter => ?_) no
  apply Takes.mono (yes shorter)
  rintro rest value ⟨added, shows, same⟩
  exact ⟨added, by simpa using (Shows.mute (silent_of_isSymbol found)).append shows, same⟩

theorem expression {more : Expr → Rule β}
    (later : ∀ value next, next.rest.length ≤ cursor.rest.length →
      Gathers mode next (had + value.toNode.contents) (more value) contents) :
    Gathers mode cursor had (Grammar.expression >>= more) contents :=
  bind (Takes.mono (expressionOf_takes 1 mode cursor) fun _ _ spells => .phrase spells) later

theorem nameFor {role : Named} {more : Option Token → Rule β}
    (later : ∀ name next, next.rest.length ≤ cursor.rest.length →
      Gathers mode next (had + {.text name.lexeme}) (more (some name)) contents) :
    Gathers mode cursor had (Grammar.nameFor role >>= more) contents := by
  have named : Takes mode cursor (Grammar.nameFor role) fun taken name =>
      ∃ token, name = some token ∧ Shows taken {.text token.lexeme} := by
    apply Takes.here
    split
    · rename_i named
      apply Takes.next (ne_finish_of_isName named)
      intro _
      exact .pure ⟨_, rfl, .name (opening_of_isName named)⟩
    · exact .recover
  apply Takes.bind named
  rintro taken _ next split ⟨name, rfl, shows⟩
  apply Takes.mono (later name next (length_le_of_taken split))
  rintro rest value ⟨added, shows', same⟩
  exact ⟨_, shows.append shows', by rw [same, add_assoc]⟩

end Gathers

end

end Grammar

end Parlance
