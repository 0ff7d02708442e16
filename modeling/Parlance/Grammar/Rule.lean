import Parlance.Capabilities
import Parlance.Grammar.Cursor
import Parlance.Grammar.Recovery

/-!
Grammar rules. A rule reads from a cursor on and gives a value, the cursor behind what it read,
and the recoveries on the way; under a strict mode it is refused at the first flaw instead.

Rules that call themselves are tied by `Rule.tie`: the call is granted at a cursor with fewer
tokens ahead than the one the rule began at, and answered by a last resort elsewhere, so every
rule ends, and `tie_apply` unfolds it without a bound on the depth.
-/

namespace Parlance.Grammar

/-- What stays the same while a program is read. -/
structure Mode where
  strict : Bool
  capabilities : Capabilities
  deriving DecidableEq, Repr, Inhabited

inductive Reading (α : Type) where
  | done (value : α) (next : Cursor) (recoveries : List Recovery)
  | refused (first : Recovery)

def Rule (α : Type) := Mode → Cursor → Reading α

namespace Reading

variable {α β : Type}

/-- Reads on behind a reading; recoveries keep their order. -/
def andThen (reading : Reading α) (more : α → Cursor → Reading β) : Reading β :=
  match reading with
  | .refused first => .refused first
  | .done value next recoveries =>
      match more value next with
      | .refused first => .refused first
      | .done value next later => .done value next (recoveries ++ later)

@[simp] theorem done_andThen (value : α) (next : Cursor) (more : α → Cursor → Reading β) :
    (Reading.done value next []).andThen more = more value next := by
  cases h : more value next <;> simp [andThen, h]

@[simp] theorem refused_andThen (first : Recovery) (more : α → Cursor → Reading β) :
    (Reading.refused first : Reading α).andThen more = .refused first := rfl

end Reading

namespace Rule

variable {α β γ : Type}

instance : Monad Rule where
  pure value := fun _ cursor => .done value cursor []
  bind rule more := fun mode cursor =>
    (rule mode cursor).andThen fun value next => more value mode next

@[simp] theorem pure_apply (value : α) (mode : Mode) (cursor : Cursor) :
    (pure value : Rule α) mode cursor = .done value cursor [] := rfl

@[simp] theorem bind_apply (rule : Rule α) (more : α → Rule β) (mode : Mode) (cursor : Cursor) :
    (rule >>= more) mode cursor =
      (rule mode cursor).andThen fun value next => more value mode next := rfl

/-- The cursor, where nothing is read yet. -/
def here : Rule Cursor := fun _ cursor => .done cursor cursor []

def capabilities : Rule Capabilities := fun mode cursor => .done mode.capabilities cursor []

def next : Rule Token := fun _ cursor => .done cursor.current cursor.advance []

/-- Reads the current token if it is a spelling of the keyword; the answer says whether. -/
def accept (keyword : Keyword) : Rule Bool := fun _ cursor =>
  if cursor.isAt keyword then .done true cursor.advance [] else .done false cursor []

def acceptSymbol (symbol : String) : Rule Bool := fun _ cursor =>
  if cursor.isAtSymbol symbol then .done true cursor.advance [] else .done false cursor []

/-- Notes a flaw at a place, or refuses the program for it. -/
def recoverAt (place : Place) (flaw : Flaw) : Rule Unit := fun mode cursor =>
  if mode.strict then .refused ⟨flaw, place⟩ else .done () cursor [⟨flaw, place⟩]

def recover (flaw : Flaw) : Rule Unit := fun mode cursor =>
  recoverAt cursor.current.place flaw mode cursor

/-- Reads other tokens by a rule; the cursor itself stays. -/
def within (tokens : List Token) (rule : Rule α) : Rule α := fun mode cursor =>
  match rule mode (.ofTokens tokens) with
  | .refused first => .refused first
  | .done value _ recoveries => .done value cursor recoveries

def goTo (cursor : Cursor) : Rule Unit := fun _ _ => .done () cursor []

/-- The calls that a rule begun at `start` may make of itself. -/
def granted (start : Cursor) (self resort : γ → Rule β) : γ → Rule β :=
  fun goal mode cursor =>
    if cursor.rest.length < start.rest.length then self goal mode cursor
    else resort goal mode cursor

def tieWithin (resort : γ → Rule β) (step : (γ → Rule β) → γ → Rule β) :
    Nat → γ → Rule β
  | 0 => resort
  | depth + 1 => fun goal mode cursor =>
      step (granted cursor (tieWithin resort step depth) resort) goal mode cursor

/-- The rule that `step` describes in terms of itself. -/
def tie (resort : γ → Rule β) (step : (γ → Rule β) → γ → Rule β) : γ → Rule β :=
  fun goal mode cursor => tieWithin resort step (cursor.rest.length + 1) goal mode cursor

/-- The depth does not matter once it exceeds the number of tokens ahead. -/
theorem tieWithin_stable (resort : γ → Rule β) (step : (γ → Rule β) → γ → Rule β)
    {depth depth' : Nat} (goal : γ) (mode : Mode) (cursor : Cursor)
    (enough : cursor.rest.length < depth) (enough' : cursor.rest.length < depth') :
    tieWithin resort step depth goal mode cursor =
      tieWithin resort step depth' goal mode cursor := by
  induction depth generalizing depth' goal mode cursor with
  | zero => omega
  | succ depth ih =>
      obtain _ | depth' := depth'
      · omega
      · simp only [tieWithin]
        congr 1
        funext goal mode next
        simp only [granted]
        split
        · exact ih goal mode next (by omega) (by omega)
        · rfl

theorem tie_apply (resort : γ → Rule β) (step : (γ → Rule β) → γ → Rule β)
    (goal : γ) (mode : Mode) (cursor : Cursor) :
    tie resort step goal mode cursor =
      step (granted cursor (tie resort step) resort) goal mode cursor := by
  simp only [tie, tieWithin]
  congr 1
  funext goal mode next
  simp only [granted]
  split
  · exact tieWithin_stable resort step goal mode next (by omega) (by omega)
  · rfl

end Rule

end Parlance.Grammar
