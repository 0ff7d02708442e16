import Parlance.Proofs.Progress.Rule
import Parlance.Proofs.Reading.Statement

/-!
Blocks make progress. Where the tokens close, the body of a block is a part of what is ahead, closed
where the block ends; the cursor goes on behind it, and what is noted inside comes before what is
noted there.
-/

namespace Parlance.Grammar

namespace Extent

/-- The tokens ahead are the body, the token that ends the block, and what follows that. -/
theorem ofBody_split {cursor : Cursor} (closed : cursor.Closed) (stopAtElse : Bool) :
    ∃ later, cursor.rest = (ofBody stopAtElse cursor.rest).body ++
      (ofBody stopAtElse cursor.rest).boundary :: later := by
  obtain ⟨finish, found, ends⟩ := closed
  have some' : (ofBody stopAtElse cursor.rest).rest ≠ [] := ofBody_rest_ne_nil found ends
  obtain ⟨token, later, rest⟩ := List.exists_cons_of_ne_nil some'
  have boundary : (ofBody stopAtElse cursor.rest).boundary = token := by
    simp [Extent.boundary, rest]
  refine ⟨later, ?_⟩
  rw [boundary, ← rest]
  exact (scan_append stopAtElse 0 false cursor.rest).symm

section

variable {cursor : Cursor} {extent : Extent} {later : List Token}
variable (split : cursor.rest = extent.body ++ extent.boundary :: later)

include split in
/-- The body with the token that closes it is no longer than what is ahead. -/
theorem closedBody_below {bound : Nat} (shorter : cursor.rest.length < bound) :
    (Cursor.ofTokens extent.closedBody).Below bound := by
  refine ⟨⟨_, List.mem_append_right _ List.mem_cons_self, rfl⟩, ?_⟩
  simp only [split, List.length_append, List.length_cons] at shorter
  simp only [Cursor.ofTokens, closedBody, List.length_append, List.length_singleton]
  omega

include split in
/-- The body begins where the cursor is, even if it has no token there. -/
theorem closedBody_place :
    (Cursor.ofTokens extent.closedBody).current.place = cursor.current.place := by
  obtain ⟨tokens, lastStop⟩ := cursor
  obtain rfl : tokens = _ := split
  simp only [Cursor.ofTokens, Cursor.current, Cursor.ahead, closedBody, List.drop_zero]
  cases extent.body with
  | nil => rfl
  | cons token body => rfl

include split in
theorem closedBody_inOrder (ordered : Token.InOrder cursor.rest) :
    Token.InOrder extent.closedBody := by
  rw [split] at ordered
  obtain ⟨inside, _, across⟩ := List.pairwise_append.mp ordered
  refine List.pairwise_append.mpr ⟨inside, List.pairwise_singleton _ _, ?_⟩
  intro token found finish ends
  rw [List.mem_singleton.mp ends]
  exact across token found extent.boundary List.mem_cons_self

theorem closedBody_le (ordered : Token.InOrder extent.closedBody) {token : Token}
    (found : token ∈ extent.closedBody) : token.place ≤ extent.boundary.place := by
  obtain ⟨_, _, across⟩ := List.pairwise_append.mp ordered
  rcases List.mem_append.mp found with inside | ends
  · have before := across token inside _ List.mem_cons_self
    exact before
  · rw [List.mem_singleton.mp ends]
    exact le_refl extent.boundary.place

end

def ending (extent : Extent) (lastStop : Nat) : Cursor := ⟨extent.rest, lastStop⟩

theorem ending_place (extent : Extent) (lastStop : Nat) :
    (extent.ending lastStop).current.place = extent.boundary.place := by
  simp only [ending, Cursor.current, Cursor.ahead, List.drop_zero, boundary]
  cases extent.rest with
  | nil => rfl
  | cons token rest => rfl

theorem reaches_ending (cursor : Cursor) (stopAtElse : Bool) :
    cursor.Reaches false ((ofBody stopAtElse cursor.rest).ending cursor.lastStop) :=
  ⟨(ofBody stopAtElse cursor.rest).body, (scan_append stopAtElse 0 false cursor.rest).symm,
    scan_body_open stopAtElse 0 false cursor.rest, by simp⟩

/-- Only a closer is passed with its block. -/
theorem ending_reaches {extent : Extent} (ended : extent.Ended) (lastStop : Nat) :
    (extent.ending lastStop).Reaches false (extent.behind lastStop) := by
  simp only [Ended] at ended
  simp only [Extent.behind]
  cases closer : extent.closer with
  | closed =>
      rw [closer] at ended
      obtain ⟨token, later, split, closes⟩ := ended
      refine ⟨[token], by simp [ending, split], ?_, by simp⟩
      exact List.forall_mem_singleton.mpr (Token.ne_finish_of_keyword? closes)
  | otherwise | endOfInput => exact .refl _

end Extent

open Rule

section

variable {capabilities : Capabilities} {bound : Nat} {cursor : Cursor}
variable {inner inner' : Rule (List Stmt)}

theorem noted_missing (extent : Extent) (lastStop : Nat) :
    Noted (extent.behind lastStop).current.place (extent.behind lastStop).current.place
      (extent.missing lastStop) := by
  simp only [Extent.missing]
  split
  · exact .one _ _
  · exact .none _ _

theorem noted_inside {extent : Extent} {later : List Token}
    (split : cursor.rest = extent.body ++ extent.boundary :: later) {last : Cursor}
    {noted : List Recovery}
    (reaches : (Cursor.ofTokens extent.closedBody).Reaches false last)
    (spread : Token.InOrder extent.closedBody →
      Noted (Cursor.ofTokens extent.closedBody).current.place last.current.place noted)
    (ordered : Token.InOrder cursor.rest) :
    Noted cursor.current.place extent.boundary.place noted := by
  have inside := Extent.closedBody_inOrder split ordered
  have begins := spread inside
  rw [Extent.closedBody_place split] at begins
  have closed := (Extent.closedBody_below split (Nat.lt_succ_self _)).closed
  exact begins.widen (Extent.closedBody_le inside (reaches.current_mem closed))

/-- A block is passed as a whole, whatever its body is. -/
theorem blockBody_steady (inners : SteadyLoop capabilities bound inner inner') (stopAtElse : Bool)
    (opener : Token) :
    SteadyLoop capabilities bound (blockBody inner stopAtElse opener)
      (blockBody inner' stopAtElse opener) := by
  intro cursor below
  obtain ⟨later, split⟩ := Extent.ofBody_split below.closed stopAtElse
  -- the rule for the body begins at a cursor of its own, with no more tokens ahead than here
  have inside := inners _ (Extent.closedBody_below split below.shorter)
  obtain ⟨body, last, noted, read, reaches, spread⟩ := inside.advances.done
  have read' := inside.same.trans read
  refine ⟨?_, by rw [blockBody_lenient rfl read, blockBody_lenient rfl read']⟩
  rw [blockBody_lenient rfl read]
  have toEnd := Extent.reaches_ending cursor stopAtElse
  have fromEnd := Extent.ending_reaches
    (Extent.scan_ended stopAtElse 0 false cursor.rest) cursor.lastStop
  refine ⟨toEnd.trans fromEnd, fun ordered => ?_⟩
  -- the token that ends the block is the last of the body and the first behind it
  have before := noted_inside split reaches spread ordered
  have first_le := toEnd.place_le below.closed ordered
  have le_last := fromEnd.place_le (toEnd.closed below.closed) (toEnd.inOrder ordered)
  rw [Extent.ending_place] at first_le le_last
  exact (before.widen le_last).append (noted_missing _ _) (le_trans first_le le_last) le_rfl

end

end Parlance.Grammar
