/-!
Texts in the order of their code points.
-/

namespace Parlance.Text

def atMost (a b : String) : Bool := !decide (b < a)

def sorted (texts : List String) : List String := texts.mergeSort atMost

def sortedDistinct (texts : List String) : List String := sorted texts.eraseDups

theorem atMost_iff (a b : String) : atMost a b = true ↔ a ≤ b := by
  rw [atMost, Bool.not_eq_true', decide_eq_false_iff_not, String.not_lt]

theorem atMost_trans {a b c : String} (first : atMost a b = true) (second : atMost b c = true) :
    atMost a c = true := by
  rw [atMost_iff] at first second ⊢
  exact String.le_trans first second

theorem atMost_total (a b : String) : (atMost a b || atMost b a) = true := by
  rw [Bool.or_eq_true, atMost_iff, atMost_iff]
  exact String.le_total a b

theorem atMost_antisymm {a b : String} (first : atMost a b = true) (second : atMost b a = true) :
    a = b := by
  rw [atMost_iff] at first second
  exact String.le_antisymm first second

end Parlance.Text
