import Mathlib.Order.Defs.PartialOrder
import Parlance.Proofs.Reading.Near

/-!
How far cursors are. Places are ordered as a text is read. A cursor reaches another if only tokens
that close nothing stand between them; where the tokens close, it cannot get past that.
-/

namespace Parlance

namespace Place

/-- By line, and within a line by column. -/
instance : Preorder Place where
  le left right := left.line < right.line ∨ left.line = right.line ∧ left.column ≤ right.column
  le_refl _ := Or.inr ⟨rfl, Nat.le_refl _⟩
  le_trans := by
    rintro first second third (above | ⟨line, column⟩) (above' | ⟨line', column'⟩)
    · exact Or.inl (Nat.lt_trans above above')
    · exact Or.inl (line' ▸ above)
    · exact Or.inl (line ▸ above')
    · exact Or.inr ⟨line.trans line', Nat.le_trans column column'⟩

instance (left right : Place) : Decidable (left ≤ right) :=
  inferInstanceAs (Decidable (_ ∨ _ ∧ _))

end Place

def Token.InOrder (tokens : List Token) : Prop :=
  tokens.Pairwise fun earlier later => earlier.place ≤ later.place

instance (tokens : List Token) : Decidable (Token.InOrder tokens) :=
  inferInstanceAs (Decidable (tokens.Pairwise _))

theorem Token.InOrder.head_le {token other : Token} {tokens : List Token}
    (ordered : Token.InOrder (token :: tokens)) (found : other ∈ token :: tokens) :
    token.place ≤ other.place := by
  rcases List.mem_cons.mp found with rfl | later
  · exact le_rfl
  · exact (List.pairwise_cons.mp ordered).1 other later

namespace Grammar.Cursor

def Closed (cursor : Cursor) : Prop := ∃ token ∈ cursor.rest, token.kind = .finish

/-- The tokens from one cursor to another close nothing; if tokens are to be taken, there are
some. -/
def Reaches (taking : Bool) (start next : Cursor) : Prop :=
  ∃ taken, start.rest = taken ++ next.rest ∧ (∀ token ∈ taken, token.kind ≠ .finish) ∧
    (taking = true → taken ≠ [])

structure Below (bound : Nat) (cursor : Cursor) : Prop where
  closed : cursor.Closed
  shorter : cursor.rest.length < bound

theorem Closed.current_cons {cursor : Cursor} (closed : cursor.Closed) :
    ∃ rest, cursor.rest = cursor.current :: rest := by
  obtain ⟨tokens, lastStop⟩ := cursor
  cases tokens with
  | nil => obtain ⟨token, found, _⟩ := closed; cases found
  | cons token rest => exact ⟨rest, rfl⟩

theorem advance_atEnd {cursor : Cursor} (ends : cursor.atEnd = true) : cursor.advance = cursor := by
  obtain ⟨tokens, lastStop⟩ := cursor
  cases tokens with
  | nil => rfl
  | cons token rest =>
      have finish : token.kind = .finish := of_decide_eq_true ends
      simp [advance, finish]

namespace Reaches

variable {taking later : Bool} {start middle next : Cursor}

theorem refl (cursor : Cursor) : Reaches false cursor cursor :=
  ⟨[], rfl, List.forall_mem_nil _, by simp⟩

theorem weaken (reaches : Reaches taking start next) : Reaches false start next := by
  obtain ⟨taken, split, open', _⟩ := reaches
  exact ⟨taken, split, open', by simp⟩

theorem trans (first : Reaches taking start middle) (second : Reaches later middle next) :
    Reaches (taking || later) start next := by
  obtain ⟨taken, split, open', some'⟩ := first
  obtain ⟨more, split', open'', some''⟩ := second
  refine ⟨taken ++ more, by rw [split, split', List.append_assoc],
    List.forall_mem_append.mpr ⟨open', open''⟩, fun either none => ?_⟩
  obtain ⟨none, none'⟩ := List.append_eq_nil_iff.mp none
  rcases Bool.or_eq_true_iff.mp either with taking | later
  · exact some' taking none
  · exact some'' later none'

theorem advance {cursor : Cursor} (other : cursor.current.kind ≠ .finish) :
    Reaches true cursor cursor.advance := by
  obtain ⟨tokens, lastStop⟩ := cursor
  cases tokens with
  | nil => exact absurd rfl other
  | cons token rest =>
      have open' : token.kind ≠ .finish := other
      refine ⟨[token], by simp [Cursor.advance, open'], ?_, fun _ => List.cons_ne_nil _ _⟩
      intro found mem
      rwa [List.mem_singleton.mp mem]

theorem closed (reaches : Reaches taking start next) (closed : start.Closed) : next.Closed := by
  obtain ⟨taken, split, open', _⟩ := reaches
  obtain ⟨finish, found, ends⟩ := closed
  rw [split] at found
  rcases List.mem_append.mp found with early | late
  · exact absurd ends (open' finish early)
  · exact ⟨finish, late, ends⟩

theorem length_le (reaches : Reaches taking start next) :
    next.rest.length ≤ start.rest.length := by
  obtain ⟨taken, split, _⟩ := reaches
  simp [split]

theorem length_lt (reaches : Reaches true start next) : next.rest.length < start.rest.length := by
  obtain ⟨taken, split, _, some'⟩ := reaches
  have taken' := List.length_pos_iff.mpr (some' rfl)
  rw [split, List.length_append]
  omega

theorem inOrder (reaches : Reaches taking start next) (ordered : Token.InOrder start.rest) :
    Token.InOrder next.rest := by
  obtain ⟨taken, split, _⟩ := reaches
  rw [split] at ordered
  exact (List.pairwise_append.mp ordered).2.1

theorem current_mem (reaches : Reaches taking start next) (closed : start.Closed) :
    next.current ∈ start.rest := by
  obtain ⟨later, ahead⟩ := (reaches.closed closed).current_cons
  obtain ⟨taken, split, _⟩ := reaches
  rw [split, ahead]
  exact List.mem_append_right taken List.mem_cons_self

theorem place_le (reaches : Reaches taking start next) (closed : start.Closed)
    (ordered : Token.InOrder start.rest) : start.current.place ≤ next.current.place := by
  have found := reaches.current_mem closed
  obtain ⟨rest, here⟩ := closed.current_cons
  rw [here] at ordered found
  exact ordered.head_le found

end Reaches

namespace Below

variable {taking : Bool} {bound : Nat} {cursor next : Cursor}

theorem mono {bound' : Nat} (below : cursor.Below bound) (le : bound ≤ bound') :
    cursor.Below bound' :=
  ⟨below.closed, Nat.lt_of_lt_of_le below.shorter le⟩

theorem reached (below : cursor.Below bound) (reaches : cursor.Reaches taking next) :
    next.Below bound :=
  ⟨reaches.closed below.closed, Nat.lt_of_le_of_lt reaches.length_le below.shorter⟩

theorem succ (below : cursor.Below bound) : cursor.Below (bound + 1) :=
  below.mono (Nat.le_succ bound)

theorem here (below : cursor.Below bound) : cursor.Below (cursor.rest.length + 1) :=
  ⟨below.closed, Nat.lt_succ_self _⟩

theorem taken (below : cursor.Below (bound + 1)) (reaches : cursor.Reaches true next) :
    next.Below bound :=
  ⟨reaches.closed below.closed,
    Nat.lt_of_lt_of_le reaches.length_lt (Nat.lt_succ_iff.mp below.shorter)⟩

end Below

end Grammar.Cursor

end Parlance
