import Parlance.Proofs.Printing.Term
import Parlance.Proofs.Reading.Program

/-!
Blocks read back. Whether a reading is right is known beforehand: a sound one gives what was printed
and notes nothing, and any other, if it notes nothing, gives something else.
-/

namespace Parlance.Printing

open Grammar Rule

/-- If it is sound, the reading is right and goes on at `rest`; otherwise it notes something or is
wrong. -/
structure Reads {α : Type} (reading : Reading α) (rest : List Token) (right wrong : α → Prop)
    (sound : Bool) : Prop where
  exact : sound = true → ∃ value stop, reading = .done value ⟨rest, stop⟩ [] ∧ right value
  off : sound = false → ∀ value last, reading = .done value last [] → wrong value

namespace Reads

variable {α β : Type} {rest rest' : List Token} {right wrong : α → Prop} {right' wrong' : β → Prop}
variable {sound sound' : Bool}

theorem done {value : α} {stop : Nat} (holds : right value) :
    Reads (.done value ⟨rest, stop⟩ []) rest right wrong true :=
  ⟨fun _ => ⟨value, stop, rfl, holds⟩, fun unsound => (Bool.false_ne_true unsound.symm).elim⟩

theorem unsound {reading : Reading α} (off : ∀ value last, reading = .done value last [] →
    wrong value) : Reads reading rest right wrong false :=
  ⟨fun sound => (Bool.false_ne_true sound).elim, fun _ => off⟩

theorem andThen {reading : Reading α} {more : α → Cursor → Reading β}
    (first : Reads reading rest right wrong sound)
    (later : ∀ value stop, right value → Reads (more value ⟨rest, stop⟩) rest' right' wrong' sound')
    (off : ∀ value next value' last, wrong value → more value next = .done value' last [] →
      wrong' value') :
    Reads (reading.andThen more) rest' right' wrong' (sound && sound') where
  exact both := by
    obtain ⟨here, behind⟩ := Bool.and_eq_true_iff.mp both
    obtain ⟨value, stop, read, holds⟩ := first.exact here
    rw [read, Reading.done_andThen]
    exact (later value stop holds).exact behind
  off either value' last clean := by
    obtain ⟨value, next, read, clean⟩ := Reading.andThen_clean clean
    cases sound with
    | false => exact off value next value' last (first.off rfl value next read) clean
    | true =>
        obtain ⟨value'', stop, read', holds⟩ := first.exact rfl
        rw [read] at read'
        obtain ⟨rfl, rfl, _⟩ := Reading.done.inj read'
        exact (later value stop holds).off (by simpa using either) value' last clean

theorem map {reading : Reading α} {f : α → β} (first : Reads reading rest right wrong sound)
    (keeps : ∀ value, right value → right' (f value))
    (spoils : ∀ value, wrong value → wrong' (f value)) :
    Reads (reading.andThen fun value next => .done (f value) next []) rest right' wrong' sound := by
  have later : ∀ value stop, right value →
      Reads (.done (f value) ⟨rest, stop⟩ []) rest right' wrong' true :=
    fun value _ holds => done (keeps value holds)
  have whole : Reads (reading.andThen fun value next => .done (f value) next []) rest right' wrong'
      (sound && true) := by
    refine first.andThen later ?_
    intro value next value' last holds clean
    obtain ⟨rfl, _⟩ := Reading.done.inj clean
    exact spoils value holds
  rwa [Bool.and_true] at whole

end Reads

/-- A rule for statement lists that serves cursors with fewer tokens ahead. -/
def Serves (inner : Rule (List Stmt)) (mode : Mode) (bound : Nat) : Prop :=
  ∀ cursor, cursor.rest.length < bound → inner mode cursor = statements mode cursor

theorem Serves.mono {inner : Rule (List Stmt)} {mode : Mode} {bound bound' : Nat}
    (serves : Serves inner mode bound) (le : bound' ≤ bound) : Serves inner mode bound' :=
  fun cursor shorter => serves cursor (Nat.lt_of_lt_of_le shorter le)

theorem statementsWithin_serves (start : Cursor) (mode : Mode) :
    Serves (statementsWithin start) mode start.rest.length :=
  fun _ shorter => statementsWithin_shorter shorter mode

variable {capabilities : Capabilities} {mode : Mode}

/-- What the statements of a body are, wherever its tokens are closed. -/
def BodyReads (mode : Mode) (body : Body capabilities) : Prop :=
  ∀ tokens finish lastStop, Spelt body.items tokens → finish.kind = .finish →
    Reads (statements mode ⟨tokens ++ [finish], lastStop⟩) [finish]
      (fun stmts => Stmt.unplacedAll stmts = body.denote)
      (fun stmts => Stmt.unplacedAll stmts ≠ body.denote) body.shielded

/-- A cut body is never read as the whole. -/
def BodyCut (mode : Mode) (body : Body capabilities) : Prop :=
  body.hasElse = true → ∀ tokens finish lastStop stmts last, Spelt body.cut tokens →
    finish.kind = .finish →
      statements mode ⟨tokens ++ [finish], lastStop⟩ = .done stmts last [] →
        Stmt.unplacedAll stmts ≠ body.denote

theorem blockBody_clean {inner : Rule (List Stmt)} {stopAtElse : Bool} {opener : Token}
    {cursor last : Cursor} {read : Block}
    (clean : blockBody inner stopAtElse opener mode cursor = .done read last []) :
    ∃ last', inner mode (.ofTokens (Extent.ofBody stopAtElse cursor.rest).closedBody) =
      .done read.body last' [] := by
  simp only [blockBody, bind_apply, here, Reading.done_andThen] at clean
  obtain ⟨body, next, inside, clean⟩ := Reading.andThen_clean clean
  obtain ⟨_, _, _, clean⟩ := Reading.andThen_clean clean
  obtain ⟨rfl, _, _⟩ := Reading.done.inj clean
  simp only [within] at inside
  split at inside
  · cases inside
  · rename_i value last' noted read
    obtain ⟨rfl, _, rfl⟩ := Reading.done.inj inside
    exact ⟨last', read⟩

section

variable {inner : Rule (List Stmt)} {body : Body capabilities} {tokens rest : List Token}
variable {opener closer after : Token} {stopAtElse : Bool}

theorem block_brace (symbol : opener.kind = .symbol) (inner : Rule (List Stmt)) (stopAtElse : Bool)
    (mode : Mode) (rest : List Token) (lastStop : Nat) :
    block inner stopAtElse mode ⟨opener :: rest, lastStop⟩ =
      blockBody inner stopAtElse opener mode ⟨rest, opener.stop⟩ := by
  have other : opener.kind ≠ .finish := by simp [symbol]
  simp [block, next, Cursor.advance_cons other, symbol]

/-- A body that notes nothing, in a block that something ends. -/
theorem blockBody_done {inside : List Token} {boundary : Token} {ended : Closer}
    (extent : Extent.ofBody stopAtElse tokens = ⟨inside, boundary :: rest, ended⟩)
    (ends : ended ≠ .endOfInput) {stmts : List Stmt} {last : Cursor}
    (read : inner mode (.ofTokens (inside ++
      [.finishAt boundary.offset boundary.place boundary.offset])) = .done stmts last [])
    (lastStop : Nat) :
    blockBody inner stopAtElse opener mode ⟨tokens, lastStop⟩ =
      .done ⟨stmts, opener.place, ended⟩
        ((⟨inside, boundary :: rest, ended⟩ : Extent).behind lastStop) [] := by
  simp [blockBody, here, within, extent, Extent.closedBody, Extent.boundary, read, leaveBlock,
    goTo, ends]

/-- A block whose end is where it was printed. -/
theorem block_reads (reads : BodyReads mode body)
    (serves : Serves inner mode (tokens ++ rest).length)
    (free : stopAtElse = false ∨ body.hasElse = false) (spelt : Spelt (braced body.items) tokens)
    (lastStop : Nat) :
    Reads (block inner stopAtElse mode ⟨tokens ++ rest, lastStop⟩) rest
      (fun read => Stmt.unplacedAll read.body = body.denote ∧ read.closer = .closed)
      (fun read => Stmt.unplacedAll read.body ≠ body.denote) body.shielded := by
  obtain ⟨opener, inside, closer, rfl, opens, spelt, closes⟩ := spelt_braced spelt
  have known : closer.keyword? = some .blockClose := closes.keyword?_eq
  have extent : Extent.ofBody stopAtElse (inside ++ closer :: rest) =
      ⟨inside, closer :: rest, .closed⟩ := ofBody_whole free spelt known
  have symbol : opener.kind = .symbol := opens.kind
  have ends : (Token.finishAt closer.offset closer.place closer.offset).kind = .finish := rfl
  have whole := reads inside _ 0 spelt ends
  -- the statements inside are read by the tied rule from the body that the scan has cut out
  have inner_eq : inner mode (.ofTokens (Extent.ofBody stopAtElse
      (inside ++ closer :: rest)).closedBody) = statements mode
        ⟨inside ++ [.finishAt closer.offset closer.place closer.offset], 0⟩ := by
    rw [serves, extent]
    · rfl
    · simp [extent, Cursor.ofTokens, Extent.closedBody]
  simp only [List.cons_append, List.append_assoc, List.nil_append]
  rw [block_brace symbol]
  constructor
  · intro sound
    obtain ⟨stmts, stop, read, holds⟩ := whole.exact sound
    refine ⟨⟨stmts, opener.place, .closed⟩, closer.stop, ?_, holds, rfl⟩
    rw [extent] at inner_eq
    exact blockBody_done extent (by decide) (inner_eq.trans read) opener.stop
  · intro unsound read last clean
    obtain ⟨last', clean⟩ := blockBody_clean clean
    exact whole.off unsound read.body last' (inner_eq.symm.trans clean)

/-- The block of a conditional. With a word for "else" directly in it, it is cut there. -/
theorem guardedBlock_reads (reads : BodyReads mode body) (cut : BodyCut mode body)
    (serves : Serves inner mode (tokens ++ rest).length) (spelt : Spelt (braced body.items) tokens)
    (lastStop : Nat) :
    Reads (block inner true mode ⟨tokens ++ rest, lastStop⟩) rest
      (fun read => Stmt.unplacedAll read.body = body.denote ∧ read.closer = .closed)
      (fun read => Stmt.unplacedAll read.body ≠ body.denote)
      (!body.hasElse && body.shielded) := by
  by_cases hasElse : body.hasElse = true
  -- the block ends at a word for "else", and its body is read from the items before that
  · rw [hasElse]
    refine .unsound fun read last clean => ?_
    obtain ⟨opener, inside, closer, rfl, opens, spelt, _⟩ := spelt_braced spelt
    obtain ⟨part, word, behind, partSpelt, extent⟩ := ofBody_cut hasElse spelt (closer :: rest)
    have symbol : opener.kind = .symbol := opens.kind
    have parts : part ++ word :: behind = inside ++ closer :: rest := by
      have whole := Extent.scan_append true 0 false (inside ++ closer :: rest)
      simp only [Extent.ofBody] at extent
      rwa [extent] at whole
    have length := congrArg List.length parts
    simp only [List.cons_append, List.append_assoc, List.nil_append, block_brace symbol] at clean
    obtain ⟨last', clean⟩ := blockBody_clean clean
    simp only [extent, Extent.closedBody] at clean
    rw [serves _ (by simp [Cursor.ofTokens] at length ⊢; omega)] at clean
    exact cut hasElse part _ 0 read.body last' partSpelt rfl clean
  · have none : body.hasElse = false := Bool.not_eq_true _ ▸ hasElse
    rw [none]
    exact block_reads reads serves (Or.inr none) spelt lastStop

end

end Parlance.Printing
