/-
# The order of terms

Terms are compared in lower case and, where that makes no difference, by code point.
Lower case alone would only be a preorder: it takes many terms to one, and what it does to a
capital sigma depends on the letters around.  With the second comparison no two terms are
level, and the order is total.
-/

import BooleanRetrieval.Term
import Mathlib

namespace BooleanRetrieval

instance : Std.TransCmp termOrder :=
  inferInstanceAs (Std.TransCmp (compareLex (compareOn Text.lower) compare))

/-- No two terms are level. -/
theorem termOrder_eq_eq_iff {first second : String} :
    termOrder first second = .eq ↔ first = second := by
  rw [termOrder, Ordering.then_eq_eq, compare_eq_iff_eq, compare_eq_iff_eq]
  constructor
  · intro hlevel
    exact hlevel.2
  · intro hsame
    rw [hsame]
    exact ⟨rfl, rfl⟩

/-- A term comes first by its lower case, or by code point if the lower case is the same. -/
theorem termOrder_eq_lt_iff {first second : String} :
    termOrder first second = .lt ↔
      Text.lower first < Text.lower second ∨
        Text.lower first = Text.lower second ∧ first < second := by
  rw [termOrder, Ordering.then_eq_lt, compare_lt_iff_lt, compare_eq_iff_eq, compare_lt_iff_lt]

theorem termOrder_eq_gt_iff {first second : String} :
    termOrder first second = .gt ↔ termOrder second first = .lt :=
  Std.OrientedCmp.gt_iff_lt

theorem termOrder_total (first second : String) :
    (termOrder first second).isLE || (termOrder second first).isLE := by
  have hswap : termOrder second first = (termOrder first second).swap := Std.OrientedCmp.eq_swap
  rw [hswap]
  cases termOrder first second <;> rfl

/-- To come first is a strict total order. -/
instance : IsStrictTotalOrder String fun first second => termOrder first second = .lt where
  trichotomous first second hnot hnot' := by
    cases horder : termOrder first second with
    | lt => exact absurd horder hnot
    | eq => exact termOrder_eq_eq_iff.mp horder
    | gt => exact absurd (termOrder_eq_gt_iff.mp horder) hnot'
  irrefl term hlt := by
    rw [termOrder_eq_eq_iff.mpr rfl] at hlt
    cases hlt
  trans _ _ _ := Std.TransCmp.lt_trans

end BooleanRetrieval
