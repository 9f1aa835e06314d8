/-
# Look-up in ascending tables

In a table whose runs ascend, halving finds every run: a character that lies in a run has
the value of that run.  A range of code points is inside a table if one run holds all of it,
and outside if no run meets it; both are checked on the bounds of the range alone.
-/

import BooleanRetrieval.Text.RangeMap
import Mathlib.Data.List.Chain
import Mathlib.Data.List.TakeWhile

namespace BooleanRetrieval.Text.RangeMap

variable {α : Type}

/-- A run that ends before another begins. -/
def Before (first second : Run α) : Prop :=
  first.first ≤ first.last ∧ first.last < second.first

instance (first second : Run α) : Decidable (Before first second) :=
  inferInstanceAs (Decidable (_ ∧ _))

/-- The runs of a table are disjoint and ascend. -/
def Ascends (table : RangeMap α) : Prop :=
  table.runs.toList.Pairwise Before

instance : IsTrans (Run α) Before where
  trans _ _ _ hfirst hsecond :=
    ⟨hfirst.1, Nat.lt_trans (Nat.lt_of_lt_of_le hfirst.2 hsecond.1) hsecond.2⟩

/-- It is enough to compare neighbours. -/
theorem ascends_of_isChain {table : RangeMap α} (hchain : table.runs.toList.IsChain Before) :
    table.Ascends :=
  List.isChain_iff_pairwise.mp hchain

/-- Halving does not lose the run that holds a point. -/
theorem findWithin_of_holds {runs : Array (Run α)} (hascends : runs.toList.Pairwise Before)
    {point low high place : Nat} {inside : high ≤ runs.size} (hlow : low ≤ place)
    (hhigh : place < high) (hfirst : runs[place].first ≤ point)
    (hlast : point ≤ runs[place].last) :
    findWithin runs point low high inside = some runs[place] := by
  have horder := List.pairwise_iff_getElem.mp hascends
  simp only [Array.length_toList, Array.getElem_toList] at horder
  fun_induction findWithin runs point low high inside with
  | case1 low high inside hlt middle below run habove ih =>
      -- A run from the middle on does not begin before the middle one does.
      have hplace : place < middle := by
        by_contra hnot
        rcases Nat.eq_or_lt_of_le (Nat.le_of_not_lt hnot) with heq | hbefore
        · simp only [run, heq] at habove
          omega
        · have hbeyond := horder middle place (by omega) (by omega) hbefore
          simp only [run, Before] at habove hbeyond
          omega
      exact ih hlow hplace hfirst hlast
  | case2 low high inside hlt middle below run habove hbelow ih =>
      have hplace : middle + 1 ≤ place := by
        by_contra hnot
        rcases Nat.eq_or_lt_of_le (show place ≤ middle by omega) with heq | hbefore
        · simp only [run, ← heq] at hbelow
          omega
        · have hbeyond := horder place middle (by omega) (by omega) hbefore
          simp only [run, Before] at habove hbeyond
          omega
      exact ih hplace hhigh hfirst hlast
  | case3 low high inside hlt middle below run habove hbelow =>
      rcases Nat.lt_trichotomy middle place with hbefore | heq | hafter
      · have hbeyond := horder middle place (by omega) (by omega) hbefore
        simp only [run, Before] at habove hbelow hbeyond
        omega
      · simp only [run, heq]
      · have hbeyond := horder place middle (by omega) (by omega) hafter
        simp only [run, Before] at habove hbelow hbeyond
        omega
  | case4 low high inside hlt => omega

/-- The run that holds a character is found. -/
theorem find?_of_holds {table : RangeMap α} (hascends : table.Ascends) {run : Run α}
    (hrun : run ∈ table.runs) {c : Char} (hfirst : run.first ≤ c.toNat)
    (hlast : c.toNat ≤ run.last) : table.find? c = some run := by
  obtain ⟨place, hplace, rfl⟩ := Array.getElem_of_mem hrun
  exact findWithin_of_holds hascends (Nat.zero_le _) hplace hfirst hlast

/-! ## Ranges inside and outside a table

The bounds are compared by `Nat.ble` and `Nat.blt`, which are evaluated fast when a whole table
of ranges is checked against another. -/

/-- Whether a run with a property holds all of a range. -/
def covers (table : RangeMap α) (holds : Run α → Bool) (first last : Nat) : Bool :=
  table.runs.toList.any fun run => last.ble run.last && run.first.ble first && holds run

/-- Whether runs with a property hold every `step`-th code point of a range, be it that one of
them holds all of it. -/
def coversEvery (table : RangeMap α) (holds : Run α → Bool) (step first last : Nat) : Bool :=
  table.covers holds first last ||
    (List.range (last - first + 1)).all fun offset =>
      offset % step != 0 || table.covers holds (first + offset) (first + offset)

/-- Whether no run with a property meets a range. -/
def avoids (table : RangeMap α) (holds : Run α → Bool) (first last : Nat) : Bool :=
  table.runs.toList.all fun run => run.last.blt first || last.blt run.first || !holds run

variable {table : RangeMap α} {holds : Run α → Bool} {first last : Nat} {c : Char} {run : Run α}

/-- A character of a range that is covered is found in a run with the property. -/
theorem exists_find?_of_covers (hascends : table.Ascends)
    (hcovers : table.covers holds first last) (hfirst : first ≤ c.toNat)
    (hlast : c.toNat ≤ last) : ∃ run, table.find? c = some run ∧ holds run := by
  obtain ⟨run, hrun, hbounds⟩ := List.any_eq_true.mp hcovers
  simp only [Bool.and_eq_true, Nat.ble_eq] at hbounds
  obtain ⟨⟨hend, hstart⟩, hholds⟩ := hbounds
  refine ⟨run, ?_, hholds⟩
  exact find?_of_holds hascends (Array.mem_toList_iff.mp hrun) (by omega) (by omega)

/-- So is every `step`-th character of a range that is covered by steps. -/
theorem exists_find?_of_coversEvery (hascends : table.Ascends) {step : Nat}
    (hcovers : table.coversEvery holds step first last) (hfirst : first ≤ c.toNat)
    (hlast : c.toNat ≤ last) (hstep : (c.toNat - first) % step = 0) :
    ∃ run, table.find? c = some run ∧ holds run := by
  rw [coversEvery, Bool.or_eq_true] at hcovers
  rcases hcovers with hwhole | hpoints
  · exact exists_find?_of_covers hascends hwhole hfirst hlast
  · have hpoint := List.all_eq_true.mp hpoints (c.toNat - first)
      (List.mem_range.mpr (by omega))
    simp only [hstep, bne_self_eq_false, Bool.false_or] at hpoint
    exact exists_find?_of_covers hascends hpoint (by omega) (by omega)

/-- A character of a range that is avoided is found in no run with the property. -/
theorem eq_false_of_avoids (havoids : table.avoids holds first last) (hfirst : first ≤ c.toNat)
    (hlast : c.toNat ≤ last) (hfind : table.find? c = some run) : holds run = false := by
  obtain ⟨hstart, hend⟩ := bounds_of_find? hfind
  have hrun := List.all_eq_true.mp havoids run (Array.mem_toList_iff.mpr (mem_of_find? hfind))
  simp only [Bool.or_eq_true, Nat.blt_eq, Bool.not_eq_true'] at hrun
  rcases hrun with (hbelow | habove) | hlacks
  · omega
  · omega
  · exact hlacks

/-- Take points off the front of a list as long as a run holds them, run by run; whether none is
left.  One pass is enough for points that ascend as the runs do. -/
def holdAll : List (Run α) → List Nat → Bool
  | [], points => points.isEmpty
  | run :: rest, points =>
    holdAll rest (points.dropWhile fun point => run.first.ble point && point.ble run.last)

/-- Every point is in one of the runs. -/
theorem exists_run_of_holdAll {runs : List (Run α)} {points : List Nat}
    (hall : holdAll runs points) {point : Nat} (hpoint : point ∈ points) :
    ∃ run ∈ runs, run.first ≤ point ∧ point ≤ run.last := by
  induction runs generalizing points with
  | nil =>
      rw [List.isEmpty_iff.mp hall] at hpoint
      cases hpoint
  | cons run rest ih =>
      let held (point : Nat) := run.first.ble point && point.ble run.last
      rw [← List.takeWhile_append_dropWhile (p := held) (l := points), List.mem_append] at hpoint
      rcases hpoint with hheld | hleft
      · have hbounds := List.mem_takeWhile_imp hheld
        simp only [held, Bool.and_eq_true, Nat.ble_eq] at hbounds
        exact ⟨run, List.mem_cons_self, hbounds⟩
      · obtain ⟨found, hfound, hbounds⟩ := ih hall hleft
        exact ⟨found, List.mem_cons_of_mem _ hfound, hbounds⟩

end BooleanRetrieval.Text.RangeMap

namespace BooleanRetrieval.Text.CharSet

variable {set : CharSet} {c : Char}

/-- A character is outside a set if no run of the set is found for it. -/
theorem contains_eq_false_iff : set.contains c = false ↔ ∀ run, set.find? c ≠ some run := by
  rw [contains, Option.isSome_eq_false_iff, Option.isNone_iff_eq_none,
    Option.eq_none_iff_forall_ne_some]

/-- A character is in a set if a run is found for it, whatever else is known of the run. -/
theorem contains_of_find? {holds : Run Unit → Bool}
    (hfound : ∃ run, set.find? c = some run ∧ holds run) : set.contains c := by
  obtain ⟨run, hfind, -⟩ := hfound
  rw [contains, hfind]
  rfl

/-- A character of a range that a set avoids is outside. -/
theorem contains_eq_false_of_avoids {first last : Nat}
    (havoids : set.avoids (fun _ => true) first last) (hfirst : first ≤ c.toNat)
    (hlast : c.toNat ≤ last) : set.contains c = false := by
  apply contains_eq_false_iff.mpr
  intro run hfind
  cases RangeMap.eq_false_of_avoids havoids hfirst hlast hfind

/-- A character for which a table has a run with a property is outside a set, if no run with the
property meets any of the set. -/
theorem contains_eq_false_of_apart {α : Type} {table : RangeMap α} {holds : Run α → Bool}
    (hapart : set.runs.toList.all fun run => table.avoids holds run.first run.last)
    {found : Run α} (hfind : table.find? c = some found) (hholds : holds found) :
    set.contains c = false := by
  apply contains_eq_false_iff.mpr
  intro run hrun
  obtain ⟨hstart, hend⟩ := RangeMap.bounds_of_find? hrun
  have havoids := List.all_eq_true.mp hapart run
    (Array.mem_toList_iff.mpr (RangeMap.mem_of_find? hrun))
  rw [RangeMap.eq_false_of_avoids havoids hstart hend hfind] at hholds
  cases hholds

/-- A character of a set is outside another that avoids every run of the set. -/
theorem contains_eq_false_of_disjoint {other : CharSet}
    (hdisjoint : set.runs.toList.all fun run => other.avoids (fun _ => true) run.first run.last)
    (hmem : set.contains c) : other.contains c = false := by
  obtain ⟨run, hfind⟩ := Option.isSome_iff_exists.mp hmem
  obtain ⟨hfirst, hlast⟩ := RangeMap.bounds_of_find? hfind
  have havoids := List.all_eq_true.mp hdisjoint run
    (Array.mem_toList_iff.mpr (RangeMap.mem_of_find? hfind))
  exact contains_eq_false_of_avoids havoids hfirst hlast

end BooleanRetrieval.Text.CharSet
