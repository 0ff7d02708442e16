import Parlance.Unicode.Range

/-!
White space: every character of the property White_Space, and the four information
separators U+001C to U+001F. `trim` removes it at both ends of a text.
-/

namespace Parlance.Unicode

def blankRanges : List Range := [
  (0x9, 0xD), (0x1C, 0x20), (0x85, 0x85), (0xA0, 0xA0), (0x1680, 0x1680),
  (0x2000, 0x200A), (0x2028, 0x2029), (0x202F, 0x202F), (0x205F, 0x205F), (0x3000, 0x3000)]

def isBlank (c : Char) : Bool := inRanges blankRanges c.toNat

def trim (text : List Char) : List Char :=
  ((text.dropWhile isBlank).reverse.dropWhile isBlank).reverse

/-- A text without blanks. -/
def Solid (text : List Char) : Prop := ∀ c ∈ text, isBlank c = false

theorem Solid.dropWhile {text : List Char} (solid : Solid text) :
    text.dropWhile isBlank = text := by
  cases text with
  | nil => rfl
  | cons c rest => simp [solid c List.mem_cons_self]

theorem Solid.trim {text : List Char} (solid : Solid text) : trim text = text := by
  have behind : Solid text.reverse := fun c member => solid c (List.mem_reverse.mp member)
  rw [Unicode.trim, solid.dropWhile, behind.dropWhile, List.reverse_reverse]

end Parlance.Unicode
