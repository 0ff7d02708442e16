import Parlance.Proofs.Reading.Near

/-!
Extents of blocks. Alike tokens give alike extents; a block ends at a closer, at a word for "else",
or at the latest where the tokens close.
-/

namespace Parlance.Grammar

namespace Extent

/-- The same body and the same end; only the tokens behind the block may differ. -/
structure Alike (exact : Bool) (left right : Extent) : Prop where
  body_eq : right.body = left.body
  closer_eq : right.closer = left.closer
  rest : TokensAlike exact left.rest right.rest

section

variable {exact : Bool} {left right : Extent}

theorem Alike.cons (alike : Alike exact left right) (token : Token) :
    Alike exact (left.cons token) (right.cons token) :=
  ⟨congrArg (token :: ·) alike.body_eq, alike.closer_eq, alike.rest⟩

theorem Alike.boundary (alike : Alike exact left right) :
    Token.Alike exact left.boundary right.boundary := by
  have rest := alike.rest
  simp only [Extent.boundary]
  generalize left.rest = tokens, right.rest = tokens' at rest
  cases rest with
  | nil => exact Token.Alike.refl _ _
  | cons token _ => exact token

theorem Alike.closedBody (alike : Alike exact left right) :
    TokensAlike exact left.closedBody right.closedBody := by
  have ends : Token.Alike exact
      (.finishAt left.boundary.offset left.boundary.place left.boundary.offset)
      (.finishAt right.boundary.offset right.boundary.place right.boundary.offset) := by
    cases exact with
    | true => exact Or.inl (by rw [alike.boundary.eq (Or.inl rfl)])
    | false => exact Or.inr ⟨rfl, rfl, rfl⟩
  simp only [Extent.closedBody, alike.body_eq]
  exact List.rel_append (tokensAlike_refl exact left.body) (List.Forall₂.cons ends .nil)

end

theorem scan_alike {exact : Bool} {tokens tokens' : List Token}
    (alike : TokensAlike exact tokens tokens') (stopAtElse : Bool) (depth : Nat) (fused : Bool) :
    Alike exact (scan stopAtElse depth fused tokens) (scan stopAtElse depth fused tokens') := by
  induction alike generalizing depth fused with
  | nil => exact ⟨rfl, rfl, .nil⟩
  | @cons first first' rest rest' token tail ih =>
      -- the mark of the end is the one token that may differ
      by_cases finish : first.kind = .finish
      · simp only [scan, token.kind_eq, finish, ↓reduceIte]
        exact ⟨rfl, rfl, .cons token tail⟩
      · obtain rfl := token.eq (Or.inr finish)
        have ends : ∀ closer, Alike exact ⟨[], first' :: rest, closer⟩
            ⟨[], first' :: rest', closer⟩ :=
          fun closer => ⟨rfl, rfl, .cons token tail⟩
        have goes := fun depth fused => (ih depth fused).cons first'
        simp only [scan, finish, ↓reduceIte]
        split
        · exact goes _ _
        · cases depth with
          | zero => exact ends _
          | succ depth => exact goes _ _
        · by_cases stops : (stopAtElse && decide (depth = 0)) = true
          · simp only [stops, ↓reduceIte]
            exact ends _
          · simp only [stops]
            exact goes _ _
        · by_cases stops : (stopAtElse && decide (depth = 0)) = true
          · simp only [stops, ↓reduceIte]
            exact ends _
          · simp only [stops]
            exact goes _ _
        · exact goes _ _

/-- A block ends at a closer, at a word for "else", or where the tokens do. -/
def Ended (extent : Extent) : Prop :=
  match extent.closer with
  | .closed => ∃ token rest, extent.rest = token :: rest ∧ token.keyword? = some .blockClose
  | .otherwise => ∃ token rest, extent.rest = token :: rest ∧
      (token.keyword? = some .otherwise ∨ token.keyword? = some .elseIf)
  | .endOfInput => extent.rest = [] ∨
      ∃ token rest, extent.rest = token :: rest ∧ token.kind = .finish

theorem scan_ended (stopAtElse : Bool) (depth : Nat) (fused : Bool) (tokens : List Token) :
    (scan stopAtElse depth fused tokens).Ended := by
  induction tokens generalizing depth fused with
  | nil => exact Or.inl rfl
  | cons token rest ih =>
      have goes : ∀ depth fused, ((scan stopAtElse depth fused rest).cons token).Ended := ih
      simp only [scan]
      split
      · rename_i finish
        exact Or.inr ⟨token, rest, rfl, finish⟩
      · split
        · exact goes _ _
        · rename_i closes
          cases depth with
          | zero => exact ⟨token, rest, rfl, closes⟩
          | succ depth => exact goes _ _
        · rename_i word
          split
          · exact ⟨token, rest, rfl, Or.inl word⟩
          · exact goes _ _
        · rename_i word
          split
          · exact ⟨token, rest, rfl, Or.inr word⟩
          · exact goes _ _
        · exact goes _ _

theorem scan_append (stopAtElse : Bool) (depth : Nat) (fused : Bool) (tokens : List Token) :
    (scan stopAtElse depth fused tokens).body ++ (scan stopAtElse depth fused tokens).rest =
      tokens := by
  induction tokens generalizing depth fused with
  | nil => rfl
  | cons token rest ih =>
      have goes := fun depth fused => congrArg (token :: ·) (ih depth fused)
      simp only [scan]
      repeat' split
      all_goals first
        | rfl
        | exact goes _ _

theorem scan_suffix (stopAtElse : Bool) (depth : Nat) (fused : Bool) (tokens : List Token) :
    (scan stopAtElse depth fused tokens).rest <:+ tokens :=
  ⟨_, scan_append stopAtElse depth fused tokens⟩

def prepend (tokens : List Token) (extent : Extent) : Extent :=
  { extent with body := tokens ++ extent.body }

theorem scan_body_open (stopAtElse : Bool) (depth : Nat) (fused : Bool) (tokens : List Token) :
    ∀ token ∈ (scan stopAtElse depth fused tokens).body, token.kind ≠ .finish := by
  induction tokens generalizing depth fused with
  | nil => exact fun _ found => nomatch found
  | cons token rest ih =>
      by_cases finish : token.kind = .finish
      · simp [scan, finish]
      · have goes : ∀ depth fused,
            ∀ other ∈ ((scan stopAtElse depth fused rest).cons token).body, other.kind ≠ .finish :=
          fun depth fused => List.forall_mem_cons.mpr ⟨finish, ih depth fused⟩
        simp only [scan, finish, ↓reduceIte]
        repeat' split
        all_goals first
          | exact goes _ _
          | exact fun _ found => nomatch found

theorem ofBody_rest_ne_nil {stopAtElse : Bool} {tokens : List Token} {finish : Token}
    (found : finish ∈ tokens) (ends : finish.kind = .finish) :
    (ofBody stopAtElse tokens).rest ≠ [] := by
  intro empty
  have parts := scan_append stopAtElse 0 false tokens
  simp only [ofBody] at empty
  rw [empty, List.append_nil] at parts
  have body : finish ∈ (scan stopAtElse 0 false tokens).body := by rwa [parts]
  exact scan_body_open stopAtElse 0 false tokens finish body ends

end Extent

end Parlance.Grammar
