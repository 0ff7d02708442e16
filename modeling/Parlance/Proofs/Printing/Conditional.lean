import Parlance.Proofs.Printing.Block

/-!
Conditionals read back. A word for "else" belongs to the conditional whose brace it follows, unless
the body of another conditional was cut there.
-/

namespace Parlance

def Token.EndsStatement (token : Token) : Prop := token.kind = .finish ∨ token.isSymbol ";" = true

namespace Token.EndsStatement

variable {token : Token}

theorem keyword?_eq (ends : token.EndsStatement) : token.keyword? = none := by
  rcases ends with finish | separator
  · simp [keyword?, finish]
  · simp only [isSymbol, Bool.and_eq_true, decide_eq_true_eq] at separator
    simp only [keyword?, separator.1, separator.2]
    exact Keyword.ofSpelling?_of_mark (by decide)

theorem isSymbol_eq (ends : token.EndsStatement) {symbol : String} (other : symbol ≠ ";") :
    token.isSymbol symbol = false := by
  rcases ends with finish | separator
  · simp [isSymbol, finish]
  · simp only [isSymbol, Bool.and_eq_true, decide_eq_true_eq] at separator
    simp [isSymbol, separator.2, Ne.symm other]

theorem calm (ends : token.EndsStatement) : token.Calm :=
  ⟨ends.isSymbol_eq (by decide), by rw [ends.keyword?_eq]; rfl⟩

theorem isBoundary (ends : token.EndsStatement) : token.isBoundary = true := by
  rcases ends with finish | separator
  · simp [Token.isBoundary, finish]
  · simp only [isSymbol, Bool.and_eq_true, decide_eq_true_eq] at separator
    simp [Token.isBoundary, isBoundarySymbol, separator]

end Token.EndsStatement

namespace Printing

open Grammar Rule

variable {capabilities : Capabilities}

theorem calm_opener {token : Token} (opens : token.keyword? = some .blockOpen) : token.Calm := by
  constructor
  · by_contra bracket
    simp only [Token.isSymbol, Bool.not_eq_false, Bool.and_eq_true, decide_eq_true_eq] at bracket
    simp only [Token.keyword?, bracket.1, bracket.2,
      Keyword.ofSpelling?_of_mark (by decide : "[" ∈ Keyword.marks), reduceCtorEq] at opens
  · rw [opens]
    rfl

/-- A term in front of a block. -/
theorem Term.expression_before (term : Term capabilities) (strict : Bool) {tokens : List Token}
    (spelt : Spelt term.items tokens) {items : List (Item capabilities)} {block : List Token}
    (blockSpelt : Spelt (braced items) block) (rest : List Token) (lastStop : Nat) :
    ∃ value stop, expression ⟨strict, capabilities⟩ ⟨tokens ++ (block ++ rest), lastStop⟩ =
      .done value ⟨block ++ rest, stop⟩ [] ∧ value.unplaced = term.denote := by
  obtain ⟨opener, inside, closer, rfl, opens, _, _⟩ := spelt_braced blockSpelt
  exact term.expression_reads strict spelt (calm_opener opens.keyword?_eq) _ lastStop

section

variable {mode : Mode} {inner : Rule (List Stmt)} {body : Body capabilities}
variable {tokens rest rest' : List Token}

/-- The tails of conditionals that may be read by one that begins at the cursor, or behind it. -/
def tailWithin (inner : Rule (List Stmt)) (start : Cursor) : Token × Expr → Rule Conditional :=
  granted start (conditionalTail inner)
    fun (head, guard) => pure ⟨guard, [], head.place, .absent, head.place⟩

theorem tailWithin_shorter {start cursor : Cursor}
    (shorter : cursor.rest.length < start.rest.length) (goal : Token × Expr) :
    tailWithin inner start goal mode cursor = conditionalTail inner goal mode cursor := by
  simp [tailWithin, granted, shorter]

theorem conditionalTail_apply {cursor : Cursor} (opens : cursor.isAt .blockOpen = true)
    (head : Token) (guard : Expr) :
    conditionalTail inner (head, guard) mode cursor =
      (block inner true mode cursor).andThen fun read next =>
        if read.closer = .otherwise then
          (sharedBranch inner mode next).andThen fun otherwise last =>
            .done ⟨guard, read.body, read.place, otherwise, head.place⟩ last []
        else
          (conditionalTail.ownBranch inner (tailWithin inner cursor) mode next).andThen
            fun otherwise last =>
              .done ⟨guard, read.body, read.place, otherwise, head.place⟩ last [] := by
  rw [conditionalTail, tie_apply]
  simp only [conditionalTail.round, bind_apply, here, Reading.done_andThen, opens, ↓reduceIte]
  congr 1
  funext read next
  split
  · rfl
  · rfl

theorem tail_reads {right wrong : Branch → Prop} {sound : Bool} (reads : BodyReads mode body)
    (cut : BodyCut mode body) (serves : Serves inner mode (tokens ++ rest).length)
    (spelt : Spelt (braced body.items) tokens)
    (own : ∀ self stop, (∀ goal cursor, cursor.rest.length < rest.length →
      self goal mode cursor = conditionalTail inner goal mode cursor) →
        Reads (conditionalTail.ownBranch inner self mode ⟨rest, stop⟩) rest' right wrong sound)
    (head : Token) (guard : Expr) (lastStop : Nat) :
    Reads (conditionalTail inner (head, guard) mode ⟨tokens ++ rest, lastStop⟩) rest'
      (fun read => read.guard = guard ∧ Stmt.unplacedAll read.body = body.denote ∧
        right read.otherwise)
      (fun read => Stmt.unplacedAll read.body ≠ body.denote ∨ wrong read.otherwise)
      (!body.hasElse && body.shielded && sound) := by
  have whole := guardedBlock_reads reads cut serves spelt lastStop
  obtain ⟨opener, inside, closer, rfl, opens, _, _⟩ := spelt_braced spelt
  have known : opener.keyword? = some .blockOpen := opens.keyword?_eq
  have at' : Cursor.isAt ⟨opener :: (inside ++ [closer]) ++ rest, lastStop⟩ .blockOpen = true := by
    simp [Cursor.isAt, known]
  rw [conditionalTail_apply at']
  apply whole.andThen
  -- a body that was found whole has its own closer, so what follows is read apart from it
  · rintro read stop ⟨means, closed⟩
    have apart : read.closer ≠ .otherwise := by simp [closed]
    simp only [apart, ↓reduceIte]
    have branch := own (tailWithin inner ⟨opener :: (inside ++ [closer]) ++ rest, lastStop⟩) stop
      fun goal cursor shorter => tailWithin_shorter (by simp; omega) goal
    exact branch.map (fun _ holds => ⟨rfl, means, holds⟩) fun _ holds => Or.inr holds
  · intro read next value last wrong clean
    split at clean
    · obtain ⟨_, _, _, clean⟩ := Reading.andThen_clean clean
      obtain ⟨rfl, _⟩ := Reading.done.inj clean
      exact Or.inl wrong
    · obtain ⟨_, _, _, clean⟩ := Reading.andThen_clean clean
      obtain ⟨rfl, _⟩ := Reading.done.inj clean
      exact Or.inl wrong

theorem ownBranch_block {self : Token × Expr → Rule Conditional} {word opener : Token}
    (known : word.keyword? = some .otherwise) (opens : opener.keyword? = some .blockOpen)
    (rest : List Token) (lastStop : Nat) :
    conditionalTail.ownBranch inner self mode ⟨word :: opener :: rest, lastStop⟩ =
      (block inner false mode ⟨opener :: rest, word.stop⟩).andThen fun read next =>
        .done (.block read.body read.place) next [] := by
  simp [conditionalTail.ownBranch, here, Cursor.isAt, known, next,
    Cursor.advance_cons (Token.ne_finish_of_keyword? known), furtherHead?, opens]

theorem ownBranch_further {self : Token × Expr → Rule Conditional} {word head : Token}
    (known : word.keyword? = some .otherwise) (again : head.keyword? = some .conditional)
    {guard : Expr} {rest rest' : List Token} {stop : Nat}
    (read : expression mode ⟨rest, head.stop⟩ = .done guard ⟨rest', stop⟩ []) (lastStop : Nat) :
    conditionalTail.ownBranch inner self mode ⟨word :: head :: rest, lastStop⟩ =
      (self (head, guard) mode ⟨rest', stop⟩).andThen fun further next =>
        .done further.branch next [] := by
  simp [conditionalTail.ownBranch, here, Cursor.isAt, known, next,
    Cursor.advance_cons (Token.ne_finish_of_keyword? known), furtherHead?, again,
    Cursor.advance_cons (Token.ne_finish_of_keyword? again), read]

theorem ownBranch_absent {self : Token × Expr → Rule Conditional} {after : Token}
    (ends : after.EndsStatement) (rest : List Token) (lastStop : Nat) :
    conditionalTail.ownBranch inner self mode ⟨after :: rest, lastStop⟩ =
      .done .absent ⟨after :: rest, lastStop⟩ [] := by
  simp [conditionalTail.ownBranch, here, Cursor.isAt, ends.keyword?_eq]

end

def BranchReads (mode : Mode) (otherwise : Otherwise capabilities) : Prop :=
  ∀ inner self tokens after rest lastStop, after.EndsStatement →
    Serves inner mode (tokens ++ after :: rest).length →
    (∀ goal cursor, cursor.rest.length < (tokens ++ after :: rest).length →
      self goal mode cursor = conditionalTail inner goal mode cursor) →
    Spelt otherwise.items tokens →
    Reads (conditionalTail.ownBranch inner self mode ⟨tokens ++ after :: rest, lastStop⟩)
      (after :: rest) (fun branch => branch.unplaced = otherwise.denote)
      (fun branch => branch.unplaced ≠ otherwise.denote) otherwise.shielded

theorem absent_reads (mode : Mode) : BranchReads mode (.absent : Otherwise capabilities) := by
  rintro inner self _ after rest lastStop ends _ _ rfl
  rw [List.nil_append, ownBranch_absent ends]
  exact .done rfl

theorem otherwiseBlock_reads {mode : Mode} {body : Body capabilities}
    (reads : BodyReads mode body) : BranchReads mode (.block body) := by
  intro inner self tokens after rest lastStop ends serves _ spelt
  obtain ⟨word, behind, rfl, words, spelt⟩ := spelt_cons spelt
  have known : word.keyword? = some .otherwise := words.keyword?_eq
  have behindServes : Serves inner mode (behind ++ after :: rest).length :=
    serves.mono (by simp)
  have whole := block_reads reads behindServes (Or.inl rfl) spelt word.stop
  obtain ⟨opener, inside, closer, rfl, opens, _, _⟩ := spelt_braced spelt
  rw [List.cons_append, List.cons_append, ownBranch_block known opens.keyword?_eq]
  apply whole.map
  · rintro read ⟨means, _⟩
    simp [Branch.unplaced, Otherwise.denote, means]
  · intro read wrong
    simpa [Branch.unplaced, Otherwise.denote] using wrong

theorem further_reads {strict : Bool} {guard : Term capabilities} {body : Body capabilities}
    {otherwise : Otherwise capabilities} (reads : BodyReads ⟨strict, capabilities⟩ body)
    (cut : BodyCut ⟨strict, capabilities⟩ body)
    (branch : BranchReads ⟨strict, capabilities⟩ otherwise) :
    BranchReads ⟨strict, capabilities⟩ (.conditional guard body otherwise) := by
  intro inner self tokens after rest lastStop ends serves selves spelt
  obtain ⟨word, _, rfl, words, spelt⟩ := spelt_cons spelt
  obtain ⟨head, _, rfl, heads, spelt⟩ := spelt_cons spelt
  obtain ⟨guardTokens, _, rfl, guardSpelt, spelt⟩ := spelt_append spelt
  obtain ⟨bodyTokens, others, rfl, bodySpelt, othersSpelt⟩ := spelt_append spelt
  obtain ⟨value, stop, read, means⟩ :=
    guard.expression_before strict guardSpelt bodySpelt (others ++ after :: rest) head.stop
  simp only [List.cons_append, List.append_assoc] at serves selves ⊢
  rw [ownBranch_further words.keyword?_eq heads.keyword?_eq read,
    selves _ _ (by simp; omega)]
  have whole := tail_reads reads cut (serves.mono (by simp; omega)) bodySpelt
    (fun self stop selves => branch inner self others after rest stop ends
      (serves.mono (by simp; omega)) selves othersSpelt) head value stop
  apply whole.map
  · rintro read ⟨rfl, bodyMeans, branchMeans⟩
    simp [Conditional.branch, Branch.unplaced, Otherwise.denote, means, bodyMeans, branchMeans]
  · intro read wrong same
    simp only [Conditional.branch, Branch.unplaced, Otherwise.denote, Branch.conditional.injEq]
      at same
    rcases wrong with wrong | wrong
    · exact wrong same.2.1
    · exact wrong same.2.2.2.1

end Printing

end Parlance
