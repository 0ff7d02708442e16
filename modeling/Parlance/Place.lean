/-!
Places in a text: lines and columns count from one.
-/

namespace Parlance

structure Place where
  line : Nat
  column : Nat
  deriving DecidableEq, Repr, Inhabited

namespace Place

def start : Place := ⟨1, 1⟩

/-- The place after one more character; only a line feed begins a new line. -/
def after (place : Place) (c : Char) : Place :=
  if c = '\n' then ⟨place.line + 1, 1⟩ else ⟨place.line, place.column + 1⟩

end Place

end Parlance
