import Parlance.Proofs.Progress.Cursor
import Parlance.Proofs.Reading.Agree

/-!
Rules that make progress. At a cursor where the tokens close, two lenient rules are steady if both
read the same there, and it ends ahead of the cursor with the notes in the order of their places.
A rule that calls itself is steady if each of its rounds is, given that the rule is steady where
fewer tokens are ahead; what would answer its other calls does not matter.
-/

namespace Parlance.Grammar

open Rule

/-- Notes in the order of their places, none before the first place or behind the last. -/
structure Noted (first last : Place) (noted : List Recovery) : Prop where
  sorted : noted.Pairwise fun earlier later => earlier.place ≤ later.place
  first_le : ∀ recovery ∈ noted, first ≤ recovery.place
  le_last : ∀ recovery ∈ noted, recovery.place ≤ last

theorem Noted.none (first last : Place) : Noted first last [] :=
  ⟨.nil, List.forall_mem_nil _, List.forall_mem_nil _⟩

theorem Noted.one (flaw : Flaw) (place : Place) : Noted place place [⟨flaw, place⟩] :=
  ⟨List.pairwise_singleton _ _, List.forall_mem_singleton.mpr le_rfl,
    List.forall_mem_singleton.mpr le_rfl⟩

theorem Noted.widen {first last last' : Place} {noted : List Recovery}
    (spread : Noted first last noted) (last_le : last ≤ last') : Noted first last' noted :=
  ⟨spread.sorted, spread.first_le,
    fun recovery found => le_trans (spread.le_last recovery found) last_le⟩

theorem Noted.append {first middle last : Place} {noted later : List Recovery}
    (early : Noted first middle noted) (late : Noted middle last later)
    (first_le : first ≤ middle) (le_last : middle ≤ last) :
    Noted first last (noted ++ later) where
  sorted := List.pairwise_append.mpr ⟨early.sorted, late.sorted, fun recovery found other found' =>
    le_trans (early.le_last recovery found) (late.first_le other found')⟩
  first_le := List.forall_mem_append.mpr
    ⟨early.first_le, fun recovery found => le_trans first_le (late.first_le recovery found)⟩
  le_last := List.forall_mem_append.mpr
    ⟨fun recovery found => le_trans (early.le_last recovery found) le_last, late.le_last⟩

namespace Reading

variable {α β : Type}

/-- The reading goes on ahead of the cursor, having taken a token if it is taking; its notes are
in the order of the tokens if these are in order. -/
def Advances (taking : Bool) (start : Cursor) : Reading α → Prop
  | .done _ next noted => start.Reaches taking next ∧
      (Token.InOrder start.rest → Noted start.current.place next.current.place noted)
  | .refused _ => False

theorem Advances.done {taking : Bool} {start : Cursor} {reading : Reading α}
    (advances : reading.Advances taking start) :
    ∃ value next noted, reading = .done value next noted ∧ start.Reaches taking next ∧
      (Token.InOrder start.rest → Noted start.current.place next.current.place noted) := by
  cases reading with
  | done value next noted => exact ⟨value, next, noted, rfl, advances⟩
  | refused first => exact advances.elim

theorem Advances.andThen {first second : Bool} {start next : Cursor} {value : α}
    {noted : List Recovery} (more : α → Cursor → Reading β) (closed : start.Closed)
    (advances : (Reading.done value next noted).Advances first start)
    (later : (more value next).Advances second next) :
    ((Reading.done value next noted).andThen more).Advances (first || second) start := by
  obtain ⟨reaches, spread⟩ := advances
  obtain ⟨last, end', noted', result, reaches', spread'⟩ := later.done
  simp only [Reading.andThen, result]
  refine ⟨reaches.trans reaches', fun ordered => ?_⟩
  have behind := reaches.inOrder ordered
  exact (spread ordered).append (spread' behind) (reaches.place_le closed ordered)
    (reaches'.place_le (reaches.closed closed) behind)

theorem Advances.behind {first second : Bool} {start next : Cursor} {reading : Reading α}
    (advances : reading.Advances second next) (reaches : start.Reaches first next)
    (closed : start.Closed) : reading.Advances (first || second) start := by
  have moves : (Reading.done () next []).Advances first start :=
    ⟨reaches, fun _ => .none _ _⟩
  simpa only [done_andThen] using moves.andThen (fun _ _ => reading) closed advances

end Reading

/-- At the cursor both rules read the same, and go on ahead of it. -/
structure Steady (capabilities : Capabilities) {α : Type} (taking : Bool) (cursor : Cursor)
    (left right : Rule α) : Prop where
  advances : (left ⟨false, capabilities⟩ cursor).Advances taking cursor
  same : right ⟨false, capabilities⟩ cursor = left ⟨false, capabilities⟩ cursor

/-- The rules are steady where fewer tokens are ahead than the bound. -/
def SteadyBelow (capabilities : Capabilities) {α : Type} (taking : Cursor → Bool) (bound : Nat)
    (left right : Rule α) : Prop :=
  ∀ cursor, cursor.Below bound → Steady capabilities (taking cursor) cursor left right

section

variable {α β : Type} {capabilities : Capabilities} {taking : Bool} {bound : Nat} {cursor : Cursor}

namespace Steady

theorem weaken {left right : Rule α} (steady : Steady capabilities taking cursor left right) :
    Steady capabilities false cursor left right := by
  obtain ⟨value, next, noted, result, reaches, spread⟩ := steady.advances.done
  refine ⟨?_, steady.same⟩
  rw [result]
  exact ⟨reaches.weaken, spread⟩

theorem taken {left right : Rule α} (steady : Steady capabilities true cursor left right) :
    Steady capabilities taking cursor left right := by
  cases taking with
  | true => exact steady
  | false => exact steady.weaken

theorem pure (value : α) :
    Steady capabilities false cursor (Pure.pure value) (Pure.pure value) :=
  ⟨⟨.refl cursor, fun _ => .none _ _⟩, rfl⟩

theorem bind_reached {left right : Rule α} {more more' : α → Rule β} (closed : cursor.Closed)
    (first : Steady capabilities taking cursor left right)
    (later : ∀ value next, cursor.Reaches taking next →
      Steady capabilities false next (more value) (more' value)) :
    Steady capabilities taking cursor (left >>= more) (right >>= more') := by
  obtain ⟨value, next, noted, result, reaches, _⟩ := first.advances.done
  have advances := first.advances
  rw [result] at advances
  have steady := later value next reaches
  refine ⟨?_, by simp only [bind_apply, first.same, result, Reading.andThen, steady.same]⟩
  rw [bind_apply, result]
  have both := advances.andThen (fun value next => more value ⟨false, capabilities⟩ next) closed
    steady.advances
  rwa [Bool.or_false] at both

theorem bind {left right : Rule α} {more more' : α → Rule β} (below : cursor.Below bound)
    (first : Steady capabilities taking cursor left right)
    (later : ∀ value next, next.Below bound →
      Steady capabilities false next (more value) (more' value)) :
    Steady capabilities taking cursor (left >>= more) (right >>= more') :=
  bind_reached below.closed first fun value next reaches => later value next (below.reached reaches)

theorem bind_taken {left right : Rule α} {more more' : α → Rule β}
    (below : cursor.Below (bound + 1)) (first : Steady capabilities true cursor left right)
    (later : ∀ value next, next.Below bound →
      Steady capabilities false next (more value) (more' value)) :
    Steady capabilities taking cursor (left >>= more) (right >>= more') :=
  (bind_reached below.closed first fun value next reaches =>
    later value next (below.taken reaches)).taken

theorem map {left right : Rule α} (f : α → β) (below : cursor.Below bound)
    (steady : Steady capabilities taking cursor left right) :
    Steady capabilities taking cursor (f <$> left) (f <$> right) :=
  bind below steady fun value _ _ => pure (f value)

theorem of_reads {left right left' right' : Rule α}
    (steady : Steady capabilities taking cursor left' right')
    (reads : left ⟨false, capabilities⟩ cursor = left' ⟨false, capabilities⟩ cursor)
    (reads' : right ⟨false, capabilities⟩ cursor = right' ⟨false, capabilities⟩ cursor) :
    Steady capabilities taking cursor left right :=
  ⟨reads ▸ steady.advances, by rw [reads, reads', steady.same]⟩

theorem here {more more' : Cursor → Rule β}
    (later : Steady capabilities taking cursor (more cursor) (more' cursor)) :
    Steady capabilities taking cursor (Rule.here >>= more) (Rule.here >>= more') :=
  ⟨by simpa [Rule.here] using later.advances, by simpa [Rule.here] using later.same⟩

theorem knowing {more more' : Capabilities → Rule β}
    (later : Steady capabilities taking cursor (more capabilities) (more' capabilities)) :
    Steady capabilities taking cursor (Rule.capabilities >>= more)
      (Rule.capabilities >>= more') :=
  ⟨by simpa [Rule.capabilities] using later.advances,
    by simpa [Rule.capabilities] using later.same⟩

theorem next {more more' : Token → Rule β} (below : cursor.Below (bound + 1))
    (other : cursor.current.kind ≠ .finish)
    (later : cursor.advance.Below bound → Steady capabilities false cursor.advance
      (more cursor.current) (more' cursor.current)) :
    Steady capabilities taking cursor (Rule.next >>= more) (Rule.next >>= more') := by
  have reaches := Cursor.Reaches.advance other
  have steady := later (below.taken reaches)
  refine Steady.taken ⟨?_, by simpa [Rule.next] using steady.same⟩
  simpa [Rule.next] using steady.advances.behind reaches below.closed

theorem tested {test : Bool} {rule : Rule Bool} {more more' : Bool → Rule β}
    (reads : rule ⟨false, capabilities⟩ cursor =
      if test then .done true cursor.advance [] else .done false cursor [])
    (other : test = true → cursor.current.kind ≠ .finish) (below : cursor.Below (bound + 1))
    (yes : cursor.advance.Below bound →
      Steady capabilities false cursor.advance (more true) (more' true))
    (no : Steady capabilities taking cursor (more false) (more' false)) :
    Steady capabilities taking cursor (rule >>= more) (rule >>= more') := by
  cases test with
  | true =>
      have reaches := Cursor.Reaches.advance (other rfl)
      have steady := yes (below.taken reaches)
      refine Steady.taken ⟨?_, by simpa [reads] using steady.same⟩
      simpa [reads] using steady.advances.behind reaches below.closed
  | false => exact ⟨by simpa [reads] using no.advances, by simpa [reads] using no.same⟩

theorem accept {keyword : Keyword} {more more' : Bool → Rule β} (below : cursor.Below (bound + 1))
    (yes : cursor.advance.Below bound →
      Steady capabilities false cursor.advance (more true) (more' true))
    (no : Steady capabilities taking cursor (more false) (more' false)) :
    Steady capabilities taking cursor (Rule.accept keyword >>= more)
      (Rule.accept keyword >>= more') :=
  tested rfl (fun found => Token.ne_finish_of_keyword? (of_decide_eq_true found)) below yes no

theorem acceptSymbol {symbol : String} {more more' : Bool → Rule β}
    (below : cursor.Below (bound + 1))
    (yes : cursor.advance.Below bound →
      Steady capabilities false cursor.advance (more true) (more' true))
    (no : Steady capabilities taking cursor (more false) (more' false)) :
    Steady capabilities taking cursor (Rule.acceptSymbol symbol >>= more)
      (Rule.acceptSymbol symbol >>= more') :=
  tested rfl Token.ne_finish_of_isSymbol below yes no

theorem noting (flaw : Flaw) :
    Steady capabilities false cursor (Rule.recover flaw) (Rule.recover flaw) :=
  ⟨⟨.refl cursor, fun _ => .one flaw _⟩, rfl⟩

theorem recover {flaw : Flaw} {more more' : Unit → Rule β} (closed : cursor.Closed)
    (later : Steady capabilities taking cursor (more ()) (more' ())) :
    Steady capabilities taking cursor (Rule.recover flaw >>= more)
      (Rule.recover flaw >>= more') := by
  have noted : Rule.recover flaw ⟨false, capabilities⟩ cursor =
      .done () cursor [⟨flaw, cursor.current.place⟩] := rfl
  have first : (Reading.done () cursor [⟨flaw, cursor.current.place⟩]).Advances false cursor :=
    ⟨.refl cursor, fun _ => .one flaw _⟩
  have both := first.andThen (fun value next => more value ⟨false, capabilities⟩ next) closed
    later.advances
  exact ⟨by simpa only [bind_apply, noted, Bool.false_or] using both,
    by simp only [bind_apply, noted, Reading.andThen, later.same]⟩

end Steady

end

/-! ### Rules that call themselves -/

abbrev SteadyLoop (capabilities : Capabilities) {α : Type} (bound : Nat) (left right : Rule α) :
    Prop :=
  SteadyBelow capabilities (fun _ => false) bound left right

namespace SteadyBelow

variable {α : Type} {capabilities : Capabilities} {taking : Cursor → Bool} {bound bound' : Nat}
  {cursor : Cursor} {left right : Rule α}

theorem weaken (steady : SteadyBelow capabilities taking bound left right) :
    SteadyLoop capabilities bound left right :=
  fun cursor below => (steady cursor below).weaken

theorem takes (steady : SteadyBelow capabilities taking bound left right)
    (below : cursor.Below bound) (held : taking cursor = true) :
    Steady capabilities true cursor left right :=
  held ▸ steady cursor below

theorem mono (steady : SteadyBelow capabilities taking bound left right) (le : bound' ≤ bound) :
    SteadyBelow capabilities taking bound' left right :=
  fun cursor below => steady cursor (below.mono le)

end SteadyBelow

section

variable {β γ : Type} {capabilities : Capabilities} {taking : Cursor → Bool}

/-- Whatever answers the calls that are not granted, those that are granted are steady. -/
theorem steady_granted {self self' : γ → Rule β} (resort resort' : γ → Rule β) {start : Cursor}
    (selves : ∀ goal, SteadyBelow capabilities taking start.rest.length (self goal) (self' goal))
    (goal : γ) :
    SteadyBelow capabilities taking start.rest.length (granted start self resort goal)
      (granted start self' resort' goal) := by
  intro cursor below
  have steady := selves goal cursor below
  exact ⟨by simpa only [granted, below.shorter, ↓reduceIte] using steady.advances,
    by simpa only [granted, below.shorter, ↓reduceIte] using steady.same⟩

theorem steady_tie {resort resort' : γ → Rule β} {round round' : (γ → Rule β) → γ → Rule β}
    {bound : Nat}
    (rounds : ∀ cursor, cursor.Below bound → ∀ self self',
      (∀ goal, SteadyBelow capabilities taking cursor.rest.length (self goal) (self' goal)) →
        ∀ goal, Steady capabilities (taking cursor) cursor (round self goal) (round' self' goal))
    (goal : γ) :
    SteadyBelow capabilities taking bound (tie resort round goal) (tie resort' round' goal) := by
  -- a rule in terms of itself: the induction is on the number of tokens ahead, and the last resorts
  -- do not matter
  intro cursor below
  induction ahead : cursor.rest.length using Nat.strongRecOn generalizing goal cursor with
  | ind length ih =>
      subst ahead
      have selves : ∀ goal, SteadyBelow capabilities taking cursor.rest.length
          (tie resort round goal) (tie resort' round' goal) :=
        fun goal next nearer => ih next.rest.length nearer.shorter goal next
          (nearer.mono (Nat.le_of_lt below.shorter)) rfl
      have once := rounds cursor below _ _ (steady_granted resort resort' selves) goal
      exact ⟨by rw [tie_apply]; exact once.advances, by rw [tie_apply, tie_apply, once.same]⟩

end

end Parlance.Grammar
