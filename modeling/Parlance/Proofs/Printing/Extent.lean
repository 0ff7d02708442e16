import Parlance.Proofs.Printing.Layout
import Parlance.Proofs.Printing.Sentence
import Parlance.Proofs.Reading.Extent

/-!
Extents in printed programs. Counting goes past every sentence whose words for "else" it may pass,
so braces are found to belong together as they were printed. Where it may not, the block ends at
the first such word.
-/

namespace Parlance.Printing

open Grammar

variable {capabilities : Capabilities}

namespace Item

def keyword? : Item capabilities → Option Keyword
  | .fixed word => word.keyword?
  | _ => none

/-- Counting passes the item whatever is open. -/
def inert (item : Item capabilities) : Bool :=
  match item.keyword? with
  | some .blockOpen | some .blockClose | some .otherwise | some .elseIf => false
  | _ => true

variable {item : Item capabilities} {token : Token}

theorem Spells.keyword?_eq (spells : item.Spells token) : token.keyword? = item.keyword? := by
  obtain ⟨kind, lexeme⟩ := spells
  cases item with
  | fixed word =>
      have spelling := word.ofSpelling?_spelling
      simp only [Item.kind, Fixed.kind, Item.lexeme] at kind lexeme
      simp only [Token.keyword?, kind, lexeme, spelling, keyword?]
      split <;> simp_all
  | name | number | text => simp [Token.keyword?, kind, Item.kind, keyword?]

theorem Spells.isSymbol_eq (spells : item.Spells token) (symbol : String) :
    token.isSymbol symbol = (item.kind = .symbol && item.lexeme = symbol) := by
  simp only [Token.isSymbol, spells.kind, spells.lexeme]

theorem Spells.open' (spells : item.Spells token) : token.kind ≠ .finish := by
  rw [spells.kind]
  cases item with
  | fixed word =>
      simp only [Item.kind, Fixed.kind]
      split <;> simp
  | name | number | text => simp [Item.kind]

end Item

theorem spelt_append {first second : List (Item capabilities)} {tokens : List Token}
    (spelt : Spelt (first ++ second) tokens) :
    ∃ front back, tokens = front ++ back ∧ Spelt first front ∧ Spelt second back := by
  induction first generalizing tokens with
  | nil => exact ⟨[], tokens, rfl, rfl, spelt⟩
  | cons item items ih =>
      obtain ⟨token, behind, rfl, spells, line, spelt⟩ := spelt
      obtain ⟨front, back, rfl, spelt, spelt'⟩ := ih spelt
      refine ⟨token :: front, back, rfl, ⟨token, front, rfl, spells, ?_, spelt⟩, spelt'⟩
      intro giveBack next head
      exact line giveBack next (by simp [List.head?_append, Option.mem_def.mp head])

theorem spelt_cons {item : Item capabilities} {items : List (Item capabilities)}
    {tokens : List Token} (spelt : Spelt (item :: items) tokens) :
    ∃ token behind, tokens = token :: behind ∧ item.Spells token ∧ Spelt items behind := by
  obtain ⟨token, behind, same, spells, _, spelt⟩ := spelt
  exact ⟨token, behind, same, spells, spelt⟩

theorem spelt_braced {items : List (Item capabilities)} {tokens : List Token}
    (spelt : Spelt (braced items) tokens) :
    ∃ opener inside closer, tokens = opener :: (inside ++ [closer]) ∧
      (Item.fixed .openBrace : Item capabilities).Spells opener ∧ Spelt items inside ∧
      (Item.fixed .closeBrace : Item capabilities).Spells closer := by
  obtain ⟨opener, behind, rfl, opens, spelt⟩ := spelt_cons spelt
  obtain ⟨inside, back, rfl, within, last⟩ := spelt_append spelt
  obtain ⟨closer, _, rfl, closes, rfl⟩ := spelt_cons last
  exact ⟨opener, inside, closer, rfl, opens, within, closes⟩

/-! ### Counting -/

/-- Counting goes past the items if so many blocks are open. -/
def Passes (stopAtElse : Bool) (depth : Nat) (items : List (Item capabilities)) : Prop :=
  ∀ tokens rest, Spelt items tokens →
    Extent.scan stopAtElse depth false (tokens ++ rest) =
      (Extent.scan stopAtElse depth false rest).prepend tokens

section

variable {stopAtElse : Bool} {depth : Nat} {items items' : List (Item capabilities)}

theorem passes_nil : Passes stopAtElse depth ([] : List (Item capabilities)) := by
  rintro _ rest rfl
  rfl

theorem Passes.append (first : Passes stopAtElse depth items)
    (second : Passes stopAtElse depth items') : Passes stopAtElse depth (items ++ items') := by
  intro tokens rest spelt
  obtain ⟨front, back, rfl, spelt, spelt'⟩ := spelt_append spelt
  rw [List.append_assoc, first _ _ spelt, second _ _ spelt']
  simp [Extent.prepend]

theorem Passes.cons {item : Item capabilities} (inert : item.inert = true)
    (later : Passes stopAtElse depth items) : Passes stopAtElse depth (item :: items) := by
  intro tokens rest spelt
  obtain ⟨token, behind, rfl, spells, spelt⟩ := spelt_cons spelt
  have goes := congrArg (Extent.cons token) (later behind rest spelt)
  simp only [Item.inert, ← spells.keyword?_eq] at inert
  simp only [List.cons_append, Extent.scan, spells.open', ↓reduceIte]
  split
  case h_5 => exact goes
  all_goals
    rename_i word
    simp [word] at inert

theorem passes_inert (inert : ∀ item ∈ items, item.inert = true) :
    Passes stopAtElse depth items := by
  induction items with
  | nil => exact passes_nil
  | cons item items ih =>
      obtain ⟨here, later⟩ := List.forall_mem_cons.mp inert
      exact (ih later).cons here

theorem Passes.braced (inside : Passes stopAtElse (depth + 1) items) :
    Passes stopAtElse depth (braced items) := by
  -- inside braces one more block is open
  intro tokens rest spelt
  obtain ⟨opener, body, closer, rfl, opens, spelt, closes⟩ := spelt_braced spelt
  have opens' : opener.keyword? = some .blockOpen := opens.keyword?_eq
  have closes' : closer.keyword? = some .blockClose := closes.keyword?_eq
  have symbol : opener.kind = .symbol := opens.kind
  have goes := inside body (closer :: rest) spelt
  simp [Extent.scan, opens', symbol, goes, closes', closes.open', Extent.cons, Extent.prepend]

theorem Passes.otherwise (free : (stopAtElse && decide (depth = 0)) = false)
    (later : Passes stopAtElse depth items) :
    Passes stopAtElse depth (.fixed .otherwise :: items) := by
  intro tokens rest spelt
  obtain ⟨token, behind, rfl, spells, spelt⟩ := spelt_cons spelt
  have word : token.keyword? = some .otherwise := spells.keyword?_eq
  have goes := later behind rest spelt
  simp only [List.cons_append, Extent.scan, spells.open', word, free, goes, Bool.false_eq_true,
    ↓reduceIte]
  rfl

end

theorem Term.items_inert (term : Term capabilities) : ∀ item ∈ term.items, item.inert = true := by
  induction term with
  | number | text | nothing | name => simp [Term.items, Item.inert, Item.keyword?, Fixed.keyword?]
  | boolean value => cases value <;> simp [Term.items, Item.inert, Item.keyword?, Fixed.keyword?]
  | binary op left right ih ih' =>
      have operator : (Item.fixed (.binary op) : Item capabilities).inert = true := by
        cases op <;> rfl
      intro item found
      simp only [Term.items, List.mem_cons, List.mem_append, List.mem_nil_iff, or_false] at found
      rcases found with rfl | found | rfl | found | rfl
      · rfl
      · exact ih item found
      · exact operator
      · exact ih' item found
      · rfl

theorem listed_inert (names : List (Name capabilities)) :
    ∀ item ∈ listed names, item.inert = true := by
  induction names with
  | nil => exact fun _ found => nomatch found
  | cons name rest ih =>
      cases rest with
      | nil => simp [listed, Item.inert, Item.keyword?]
      | cons other rest =>
          refine List.forall_mem_cons.mpr ⟨rfl, List.forall_mem_cons.mpr ⟨rfl, ih⟩⟩

/-- Counting may pass a word for "else" unless it stops at such words with no block open. -/
def Free (stopAtElse : Bool) (depth : Nat) : Prop := (stopAtElse && decide (depth = 0)) = false

theorem free_inside (stopAtElse : Bool) (depth : Nat) : Free stopAtElse (depth + 1) := by
  simp [Free]

mutual

/-- A sentence is passed unless a word for "else" in it would end the block. -/
theorem Sentence.passes (sentence : Sentence capabilities) {stopAtElse : Bool} {depth : Nat}
    (free : Free stopAtElse depth ∨ sentence.hasElse = false) :
    Passes stopAtElse depth sentence.items := by
  cases sentence with
  | declare name value | assign name value =>
      exact (((passes_inert value.items_inert).cons rfl).cons rfl).cons rfl
  | say value =>
      exact (((passes_inert value.items_inert).append (passes_nil.cons rfl)).cons rfl).cons rfl
  | giveBack value => exact (passes_inert value.items_inert).cons rfl
  | expression value =>
      exact ((passes_inert value.items_inert).append (passes_nil.cons rfl)).cons rfl
  | block body => exact (body.passes (Or.inl (free_inside _ _))).braced
  | loop rounds body =>
      have inside := body.passes (Or.inl (free_inside stopAtElse depth))
      exact ((passes_inert rounds.items_inert).append inside.braced).cons rfl
  | whileLoop guard body =>
      have inside := body.passes (Or.inl (free_inside stopAtElse depth))
      exact ((passes_inert guard.items_inert).append inside.braced).cons rfl
  | each item list body =>
      have inside := body.passes (Or.inl (free_inside stopAtElse depth))
      exact ((((passes_inert list.items_inert).append inside.braced).cons rfl).cons rfl).cons rfl
  | function name params body =>
      have inside := body.passes (Or.inl (free_inside stopAtElse depth))
      exact ((((passes_inert (listed_inert params)).append (inside.braced.cons rfl)).cons
        rfl).cons rfl).cons rfl
  | conditional guard body otherwise =>
      -- between the braces any word for "else" is passed, behind them one that is free
      have inside := body.passes (Or.inl (free_inside stopAtElse depth))
      have behind : Passes stopAtElse depth otherwise.items := by
        refine otherwise.passes (free.imp_right fun none => ?_)
        cases otherwise with
        | absent => rfl
        | block | conditional => cases none
      exact ((passes_inert guard.items_inert).append (inside.braced.append behind)).cons rfl

theorem Body.passes (body : Body capabilities) {stopAtElse : Bool} {depth : Nat}
    (free : Free stopAtElse depth ∨ body.hasElse = false) :
    Passes stopAtElse depth body.items := by
  cases body with
  | nil => exact passes_nil
  | cons first rest =>
      have here := first.passes (free.imp_right fun none => (Bool.or_eq_false_iff.mp none).1)
      have later := rest.passes (free.imp_right fun none => (Bool.or_eq_false_iff.mp none).2)
      exact here.append (later.cons rfl)

theorem Otherwise.passes (otherwise : Otherwise capabilities) {stopAtElse : Bool} {depth : Nat}
    (free : Free stopAtElse depth ∨ otherwise = .absent) :
    Passes stopAtElse depth otherwise.items := by
  cases otherwise with
  | absent => exact passes_nil
  | block body =>
      have inside := body.passes (Or.inl (free_inside stopAtElse depth))
      exact inside.braced.otherwise (free.resolve_right nofun)
  | conditional guard body otherwise =>
      have free := free.resolve_right nofun
      have inside := body.passes (Or.inl (free_inside stopAtElse depth))
      have behind := otherwise.passes (Or.inl free)
      exact (((passes_inert guard.items_inert).append (inside.braced.append behind)).cons
        rfl).otherwise free

end

/-- Items that are passed are a whole body in front of a closer. -/
theorem Passes.ofBody_closed {stopAtElse : Bool} {items : List (Item capabilities)}
    (passes : Passes stopAtElse 0 items) {tokens : List Token} (spelt : Spelt items tokens)
    {closer : Token} (closes : closer.keyword? = some .blockClose) (rest : List Token) :
    Extent.ofBody stopAtElse (tokens ++ closer :: rest) = ⟨tokens, closer :: rest, .closed⟩ := by
  rw [Extent.ofBody, passes tokens _ spelt]
  simp [Extent.scan, Token.ne_finish_of_keyword? closes, closes, Extent.prepend]

theorem Passes.ofBody_otherwise {items : List (Item capabilities)} (passes : Passes true 0 items)
    {tokens : List Token} (spelt : Spelt items tokens) {word : Token}
    (known : word.keyword? = some .otherwise) (rest : List Token) :
    Extent.ofBody true (tokens ++ word :: rest) = ⟨tokens, word :: rest, .otherwise⟩ := by
  rw [Extent.ofBody, passes tokens _ spelt]
  simp [Extent.scan, Token.ne_finish_of_keyword? known, known, Extent.prepend]

/-- A body is found whole unless a word for "else" in it ends the block. -/
theorem ofBody_whole {body : Body capabilities} {stopAtElse : Bool} {tokens rest : List Token}
    {closer : Token} (free : stopAtElse = false ∨ body.hasElse = false)
    (spelt : Spelt body.items tokens) (closes : closer.keyword? = some .blockClose) :
    Extent.ofBody stopAtElse (tokens ++ closer :: rest) = ⟨tokens, closer :: rest, .closed⟩ := by
  have free' : Free stopAtElse 0 ∨ body.hasElse = false :=
    free.imp_left fun never => by simp [Free, never]
  exact (body.passes free').ofBody_closed spelt closes rest

/-! ### Cut bodies -/

/-- The items of a sentence up to the first word for "else" outside its braces. -/
def Sentence.front : Sentence capabilities → List (Item capabilities)
  | .conditional guard body _ => .fixed .conditional :: (guard.items ++ braced body.items)
  | other => other.items

/-- What is found of a body that stops at the first word for "else". -/
def Body.cut : Body capabilities → List (Item capabilities)
  | .nil => []
  | .cons first rest =>
      if first.hasElse then first.front else first.items ++ .fixed .semicolon :: rest.cut

theorem Sentence.front_passes (sentence : Sentence capabilities) :
    Passes true 0 sentence.front := by
  cases sentence with
  | conditional guard body otherwise =>
      have inside := body.passes (Or.inl (free_inside true 0))
      exact ((passes_inert guard.items_inert).append inside.braced).cons rfl
  | _ => exact Sentence.passes _ (Or.inr rfl)

theorem Sentence.items_front (sentence : Sentence capabilities)
    (hasElse : sentence.hasElse = true) :
    ∃ behind, sentence.items = sentence.front ++ .fixed .otherwise :: behind := by
  cases sentence with
  | conditional guard body otherwise =>
      cases otherwise with
      | absent => cases hasElse
      | block | conditional =>
          simp only [Sentence.items, Sentence.front, Otherwise.items, List.cons_append,
            List.append_assoc]
          exact ⟨_, rfl⟩
  | _ => cases hasElse

theorem Body.cut_passes (body : Body capabilities) : Passes true 0 body.cut := by
  match body with
  | .nil => exact passes_nil
  | .cons first rest =>
      simp only [Body.cut]
      split
      · exact first.front_passes
      · rename_i none
        have here : Passes true 0 first.items := first.passes (Or.inr (Bool.not_eq_true _ ▸ none))
        exact here.append (rest.cut_passes.cons rfl)

theorem Body.items_cut (body : Body capabilities) (hasElse : body.hasElse = true) :
    ∃ behind, body.items = body.cut ++ .fixed .otherwise :: behind := by
  match body with
  | .nil => cases hasElse
  | .cons first rest =>
      simp only [Body.cut, Body.items]
      split
      · rename_i here
        obtain ⟨behind, split⟩ := first.items_front here
        exact ⟨behind ++ .fixed .semicolon :: rest.items, by simp [split]⟩
      · rename_i none
        have later : rest.hasElse = true := by
          simpa [Body.hasElse, Bool.not_eq_true _ ▸ none] using hasElse
        obtain ⟨behind, split⟩ := rest.items_cut later
        exact ⟨behind, by simp [split]⟩

theorem ofBody_cut {body : Body capabilities} (hasElse : body.hasElse = true)
    {tokens : List Token} (spelt : Spelt body.items tokens) (rest : List Token) :
    ∃ inside word behind, Spelt body.cut inside ∧
      Extent.ofBody true (tokens ++ rest) = ⟨inside, word :: behind, .otherwise⟩ := by
  obtain ⟨items, split⟩ := body.items_cut hasElse
  rw [split] at spelt
  obtain ⟨inside, _, rfl, cut, tail⟩ := spelt_append spelt
  obtain ⟨word, behind, rfl, spells, _⟩ := spelt_cons tail
  have known : word.keyword? = some .otherwise := spells.keyword?_eq
  refine ⟨inside, word, behind ++ rest, cut, ?_⟩
  rw [List.append_assoc]
  exact body.cut_passes.ofBody_otherwise cut known _

end Parlance.Printing
