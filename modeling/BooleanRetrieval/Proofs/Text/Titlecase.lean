/-
# Titlecase letters

A letter of two parts of which only the first is a capital is in title case.  These are the only
characters with a lower case that do not count as upper case.

Both tables ascend, so one pass over the upper-case runs takes all other capitals away.
-/

import BooleanRetrieval.Proofs.Text.Lowercase
import BooleanRetrieval.Text.Uppercase

namespace BooleanRetrieval.Text

/-- The letters in title case: the digraphs and the Greek capitals with an iota beside them. -/
def titlecases : CharSet := .ofRanges [
  (0x1C5, 0x1C5), (0x1C8, 0x1C8), (0x1CB, 0x1CB), (0x1F2, 0x1F2), (0x1F88, 0x1F8F),
  (0x1F98, 0x1F9F), (0x1FA8, 0x1FAF), (0x1FBC, 0x1FBC), (0x1FCC, 0x1FCC), (0x1FFC, 0x1FFC)]

/-- Whether a character is a letter in title case. -/
def isTitlecase (c : Char) : Bool :=
  titlecases.contains c

/-- Every `step`-th code point of a run of capitals. -/
def capitalPoints (run : Run CaseRun) : List Nat :=
  List.range' run.first ((run.last - run.first) / run.value.step + 1) run.value.step

/-- Whether a code point is that of a letter in title case. -/
def isTitlecasePoint (point : Nat) : Bool :=
  titlecases.covers (fun _ => true) point point

/-- The points of the capitals that are not in title case lie in the table of upper-case
characters, which ascends as that of title case does. -/
theorem uppercases_of_capitals :
    titlecases.Ascends ∧ uppercases.Ascends ∧
      RangeMap.holdAll uppercases.runs.toList
        ((capitals.runs.toList.flatMap capitalPoints).filter (!isTitlecasePoint ·)) :=
  ⟨RangeMap.ascends_of_isChain (by decide +kernel), RangeMap.ascends_of_isChain (by decide +kernel),
    by decide +kernel⟩

theorem capitals_of_titlecases :
    titlecases.runs.toList.all fun run =>
      (List.range' run.first (run.last + 1 - run.first)).all fun point =>
        lowerChar (.ofNat point) != [.ofNat point] := by
  decide +kernel

section Characters

variable {c d : Char}

/-- A capital is one of the points of its run. -/
theorem InRun.toNat_mem {run : Run CaseRun} (hrun : InRun run c d) :
    c.toNat ∈ capitalPoints run := by
  obtain ⟨-, hfirst, hlast, hstep, -⟩ := hrun
  have hdivides := Nat.div_add_mod (c.toNat - run.first) run.value.step
  rw [capitalPoints, List.mem_range']
  refine ⟨(c.toNat - run.first) / run.value.step, ?_, by omega⟩
  exact Nat.lt_succ_of_le (Nat.div_le_div_right (by omega))

/-- A character with a lower case is upper case or in title case. -/
theorem isUppercase_or_isTitlecase (hcapital : lowerCounterpart c ≠ c) :
    isUppercase c ∨ isTitlecase c := by
  obtain ⟨run, hrun⟩ := exists_inRun hcapital
  obtain ⟨hascends, hascends', huppercases⟩ := uppercases_of_capitals
  by_cases htitle : isTitlecasePoint c.toNat
  · exact .inr (CharSet.contains_of_find?
      (RangeMap.exists_find?_of_covers hascends htitle (Nat.le_refl _) (Nat.le_refl _)))
  · have hpoint : c.toNat ∈
        (capitals.runs.toList.flatMap capitalPoints).filter (!isTitlecasePoint ·) := by
      rw [List.mem_filter, List.mem_flatMap]
      exact ⟨⟨run, hrun.mem, hrun.toNat_mem⟩, by simpa using htitle⟩
    obtain ⟨found, hfound, hfirst, hlast⟩ :=
      RangeMap.exists_run_of_holdAll huppercases hpoint
    have hfind := RangeMap.find?_of_holds hascends' (Array.mem_toList_iff.mp hfound) hfirst hlast
    exact .inl (Option.isSome_iff_exists.mpr ⟨found, hfind⟩)

/-- A character that is neither upper case nor in title case is its own lower case. -/
theorem lowerChar_eq_self (hupper : ¬ isUppercase c) (htitle : ¬ isTitlecase c) :
    lowerChar c = [c] := by
  have hdotted : c ≠ 'İ' := by
    rintro rfl
    exact hupper (by decide +kernel)
  have hsame : lowerCounterpart c = c := by
    by_contra hcapital
    exact (isUppercase_or_isTitlecase hcapital).elim hupper htitle
  rw [lowerChar, if_neg hdotted, hsame]

/-- A letter in title case is not its own lower case. -/
theorem lowerChar_ne_self_of_isTitlecase (htitle : isTitlecase c) : lowerChar c ≠ [c] := by
  obtain ⟨run, hfind⟩ := Option.isSome_iff_exists.mp htitle
  obtain ⟨hfirst, hlast⟩ := RangeMap.bounds_of_find? hfind
  have hrun := List.all_eq_true.mp capitals_of_titlecases run
    (Array.mem_toList_iff.mpr (RangeMap.mem_of_find? hfind))
  have hpoint := List.all_eq_true.mp hrun c.toNat (List.mem_range'_1.mpr ⟨hfirst, by omega⟩)
  rw [Char.ofNat_toNat] at hpoint
  simpa using hpoint

end Characters

end BooleanRetrieval.Text
