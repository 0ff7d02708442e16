import Parlance.Proofs.Printing.Extent

/-!
Programs to be printed in words: phrases whose bodies stand between words. Both branches of a
conditional may share one closing word, and the word for "else" between them stands in the same
block as they do. So counting passes every phrase, whatever is open.
-/

namespace Parlance.Printing

open Grammar

variable {capabilities : Capabilities}

def Sentence.bodiless : Sentence capabilities → Bool
  | .declare .. | .assign .. | .say _ | .giveBack _ | .expression _ => true
  | _ => false

mutual

/-- Statements; what is in a body stands between words. -/
inductive Phrase (capabilities : Capabilities) where
  | plain (sentence : Sentence capabilities) (bodiless : sentence.bodiless = true)
  | block (body : Phrases capabilities)
  | headed (header : Header capabilities) (body : Phrases capabilities)
  | conditional (guard : Term capabilities) (body : Phrases capabilities)
  | alternative (guard : Term capabilities) (body other : Phrases capabilities)

/-- Phrases, each with a semicolon behind it. -/
inductive Phrases (capabilities : Capabilities) where
  | nil
  | cons (first : Phrase capabilities) (rest : Phrases capabilities)

end

def worded (opener : Fixed) (items : List (Item capabilities)) : List (Item capabilities) :=
  .fixed opener :: (items ++ [.fixed .wordEnd])

/-- The two branches of a conditional, before their shared closer. -/
def branched (items others : List (Item capabilities)) : List (Item capabilities) :=
  items ++ .fixed .otherwise :: .fixed .semicolon :: others

mutual

def Phrase.items : Phrase capabilities → List (Item capabilities)
  | .plain sentence _ => sentence.items
  | .block body => worded .wordBegin body.items
  | .headed header body => header.items ++ worded .wordDo body.items
  | .conditional guard body => .fixed .conditional :: (guard.items ++ worded .wordThen body.items)
  | .alternative guard body other =>
      .fixed .conditional :: (guard.items ++ worded .wordThen (branched body.items other.items))

def Phrases.items : Phrases capabilities → List (Item capabilities)
  | .nil => []
  | .cons first rest => first.items ++ .fixed .semicolon :: rest.items

end

mutual

def Phrase.denote : Phrase capabilities → Stmt
  | .plain sentence _ => sentence.denote
  | .block body => .block body.denote .start
  | .headed header body => header.denote body.denote
  | .conditional guard body => .conditional guard.denote body.denote .start .absent .start
  | .alternative guard body other =>
      .conditional guard.denote body.denote .start (.block other.denote .start) .start

def Phrases.denote : Phrases capabilities → List Stmt
  | .nil => []
  | .cons first rest => first.denote :: rest.denote

end

/-! ### Braces -/

/-- An opening brace behind a word that opens would belong to that word. -/
def Item.isBrace (item : Item capabilities) : Bool :=
  item.kind = .symbol && item.lexeme = "\x7b"

theorem Item.Spells.isBrace_eq {item : Item capabilities} {token : Token}
    (spells : item.Spells token) : token.isSymbol "\x7b" = item.isBrace :=
  spells.isSymbol_eq _

theorem Phrase.items_cons (phrase : Phrase capabilities) :
    ∃ item items, phrase.items = item :: items ∧ item.isBrace = false := by
  -- phrases begin with no brace
  cases phrase with
  | plain sentence bodiless =>
      cases sentence <;> first
        | exact ⟨_, _, rfl, rfl⟩
        | cases bodiless
  | headed header body =>
      cases header <;> exact ⟨_, _, rfl, rfl⟩
  | _ => exact ⟨_, _, rfl, rfl⟩

theorem Phrases.items_unbraced (body : Phrases capabilities) :
    ∀ item ∈ body.items.head?, item.isBrace = false := by
  cases body with
  | nil => rintro _ ⟨⟩
  | cons first rest =>
      obtain ⟨item, items, split, plain⟩ := first.items_cons
      rw [Phrases.items, split]
      rintro _ ⟨⟩
      exact plain

theorem unbraced_append {items others : List (Item capabilities)}
    (first : ∀ item ∈ items.head?, item.isBrace = false)
    (later : ∀ item ∈ others.head?, item.isBrace = false) :
    ∀ item ∈ (items ++ others).head?, item.isBrace = false := by
  cases items with
  | nil => exact later
  | cons item items => exact first

theorem branched_unbraced (body other : Phrases capabilities) :
    ∀ item ∈ (branched body.items other.items).head?, item.isBrace = false := by
  refine unbraced_append body.items_unbraced ?_
  rintro _ ⟨⟩
  rfl

/-! ### Counting -/

theorem spelt_worded {opener : Fixed} {items : List (Item capabilities)} {tokens : List Token}
    (spelt : Spelt (worded opener items) tokens) :
    ∃ first inside closer, tokens = first :: (inside ++ [closer]) ∧
      (Item.fixed opener : Item capabilities).Spells first ∧ Spelt items inside ∧
      (Item.fixed .wordEnd : Item capabilities).Spells closer := by
  obtain ⟨first, behind, rfl, opens, spelt⟩ := spelt_cons spelt
  obtain ⟨inside, back, rfl, within, last⟩ := spelt_append spelt
  obtain ⟨closer, _, rfl, closes, rfl⟩ := spelt_cons last
  exact ⟨first, inside, closer, rfl, opens, within, closes⟩

/-- In front of anything but a brace, no brace comes first. -/
theorem unbraced_spelt {items : List (Item capabilities)}
    (unbraced : ∀ item ∈ items.head?, item.isBrace = false) {inside : List Token}
    (spelt : Spelt items inside) {boundary : Token} (other : boundary.isSymbol "\x7b" = false)
    (rest : List Token) :
    ∃ first others, inside ++ boundary :: rest = first :: others ∧
      first.isSymbol "\x7b" = false := by
  cases items with
  | nil =>
      obtain rfl : inside = [] := spelt
      exact ⟨boundary, rest, rfl, other⟩
  | cons item items =>
      obtain ⟨first, others, rfl, spells, _⟩ := spelt_cons spelt
      exact ⟨first, others ++ boundary :: rest, rfl, spells.isBrace_eq.trans (unbraced item rfl)⟩

/-- Only a brace is counted differently behind a word that opens. -/
theorem scan_unbraced {token : Token} (plain : token.isSymbol "\x7b" = false) (stopAtElse : Bool)
    (depth : Nat) (fused : Bool) (rest : List Token) :
    Extent.scan stopAtElse depth fused (token :: rest) =
      Extent.scan stopAtElse depth false (token :: rest) := by
  simp only [Extent.scan, plain, Bool.and_false]

theorem Passes.worded {stopAtElse : Bool} {depth : Nat} {items : List (Item capabilities)}
    {opener : Fixed} (inside : Passes stopAtElse (depth + 1) items)
    (opens : opener.keyword? = some .blockOpen)
    (unbraced : ∀ item ∈ items.head?, item.isBrace = false) :
    Passes stopAtElse depth (worded opener items) := by
  -- between words one more block is open
  intro tokens rest spelt
  obtain ⟨first, body, closer, rfl, firsts, spelt, closes⟩ := spelt_worded spelt
  have opens' : first.keyword? = some .blockOpen := firsts.keyword?_eq.trans opens
  have closes' : closer.keyword? = some .blockClose := closes.keyword?_eq
  obtain ⟨next, others, split, plain⟩ := unbraced_spelt unbraced spelt closes.isBrace_eq rest
  have goes := inside body (closer :: rest) spelt
  have counts : ∀ fused, Extent.scan stopAtElse (depth + 1) fused (body ++ closer :: rest) =
      (Extent.scan stopAtElse (depth + 1) false (closer :: rest)).prepend body := by
    intro fused
    rw [← goes, split, scan_unbraced plain]
  simp [Extent.scan, firsts.open', opens', counts, closes', closes.open', Extent.cons,
    Extent.prepend]

theorem Header.items_inert (header : Header capabilities) :
    ∀ item ∈ header.items, item.inert = true := by
  cases header with
  | loop value | whileLoop value => exact List.forall_mem_cons.mpr ⟨rfl, value.items_inert⟩
  | each item list =>
      simp only [items, List.forall_mem_cons]
      exact ⟨rfl, rfl, rfl, list.items_inert⟩
  | function name params =>
      simp only [items, List.forall_mem_cons, List.forall_mem_append]
      exact ⟨rfl, rfl, rfl, listed_inert params, rfl, List.forall_mem_nil _⟩

mutual

theorem Phrase.passes (phrase : Phrase capabilities) (stopAtElse : Bool) (depth : Nat) :
    Passes stopAtElse depth phrase.items := by
  -- a phrase is passed whatever is open: a word for "else" in it is in a block of the phrase
  cases phrase with
  | plain sentence bodiless =>
      refine sentence.passes (Or.inr ?_)
      cases sentence <;> first
        | rfl
        | cases bodiless
  | block body =>
      exact (body.passes stopAtElse (depth + 1)).worded rfl body.items_unbraced
  | headed header body =>
      have inside : Passes stopAtElse depth (worded .wordDo body.items) :=
        (body.passes stopAtElse (depth + 1)).worded rfl body.items_unbraced
      exact (passes_inert header.items_inert).append inside
  | conditional guard body =>
      have inside : Passes stopAtElse depth (worded .wordThen body.items) :=
        (body.passes stopAtElse (depth + 1)).worded rfl body.items_unbraced
      exact ((passes_inert guard.items_inert).append inside).cons rfl
  | alternative guard body other =>
      have behind : Passes stopAtElse (depth + 1) (.fixed .semicolon :: other.items) :=
        (other.passes stopAtElse (depth + 1)).cons rfl
      have both : Passes stopAtElse (depth + 1) (branched body.items other.items) :=
        (body.passes stopAtElse (depth + 1)).append
          (behind.otherwise (free_inside stopAtElse depth))
      have inside : Passes stopAtElse depth (worded .wordThen (branched body.items other.items)) :=
        both.worded rfl (branched_unbraced body other)
      exact ((passes_inert guard.items_inert).append inside).cons rfl

theorem Phrases.passes (body : Phrases capabilities) (stopAtElse : Bool) (depth : Nat) :
    Passes stopAtElse depth body.items := by
  cases body with
  | nil => exact passes_nil
  | cons first rest =>
      exact (first.passes stopAtElse depth).append ((rest.passes stopAtElse depth).cons rfl)

end

end Parlance.Printing
