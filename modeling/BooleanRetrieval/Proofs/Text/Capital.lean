/-
# Capitals are letters

Every character with a lower-case counterpart is a letter, and so is the counterpart, which
has no counterpart of its own.  So lower-casing leaves the marks alone that mean something
to queries and word boundaries.  The circled M is the one capital that is a pictograph.

The tables are compared run by run: a run of capitals with the runs of another table.  White
space is compared with them in the same way; it has no letters, numbers or pictographs.
-/

import BooleanRetrieval.Proofs.Text.RangeMap
import BooleanRetrieval.Text.Alphabetic
import BooleanRetrieval.Text.Blank
import BooleanRetrieval.Text.Cased
import BooleanRetrieval.Text.Lowercase
import BooleanRetrieval.Text.Numeric
import BooleanRetrieval.Text.Segment

namespace BooleanRetrieval.Text

/-! ## The tables -/

/-- The tables that letters are looked up in ascend. -/
theorem ascends_tables : breakClasses.Ascends ∧ alphabetics.Ascends ∧ numerics.Ascends :=
  ⟨RangeMap.ascends_of_isChain (by decide +kernel), RangeMap.ascends_of_isChain (by decide +kernel),
    RangeMap.ascends_of_isChain (by decide +kernel)⟩

/-- The code point of the last counterpart of a run of capitals. -/
def lastTarget (run : Run CaseRun) : Nat :=
  run.value.target + (run.last - run.first)

/-- Whether runs with a property hold the capitals of a run and their counterparts. -/
def coversPair {α : Type} (table : RangeMap α) (holds : Run α → Bool) (run : Run CaseRun) : Bool :=
  table.coversEvery holds run.value.step run.first run.last &&
    table.covers holds run.value.target (lastTarget run)

/-- Whether no run with a property meets the capitals of a run or their counterparts. -/
def avoidsPair {α : Type} (table : RangeMap α) (holds : Run α → Bool) (run : Run CaseRun) : Bool :=
  table.avoids holds run.first run.last && table.avoids holds run.value.target (lastTarget run)

/-- Whether a run of pictographs is not the circled M alone. -/
def isOtherPictograph (run : Run Unit) : Bool :=
  run.first != 'Ⓜ'.toNat || run.last != 'Ⓜ'.toNat

/-- Whether no counterpart of a run of capitals is among the capitals of another.  Where capitals
and counterparts alternate, the parity of their code points tells them apart. -/
def isLowered (run other : Run CaseRun) : Bool :=
  (lastTarget run).blt other.first || other.last.blt run.value.target ||
    (other.value.step == 2 && (run.value.step == 2 || run.first == run.last) &&
      (run.value.target + other.first) % 2 == 1)

/-- Whether the counterparts of a run of capitals are characters, and none of them is the capital
I with a dot, whose lower case is not a single character. -/
def hasPlainTargets (run : Run CaseRun) : Bool :=
  ((lastTarget run).blt 0xD800 ||
    (Nat.blt 0xDFFF run.value.target && (lastTarget run).blt 0x110000)) &&
  ((lastTarget run).blt 'İ'.toNat || Nat.blt 'İ'.toNat run.value.target)

/-- What the tables say of a run of capitals. -/
structure Fits (run : Run CaseRun) : Prop where
  letters : coversPair breakClasses (·.value = .letter) run
  alphabetics : coversPair alphabetics (fun _ => true) run
  /-- A letter number is one in both cases. -/
  numerics : avoidsPair numerics (fun _ => true) run || coversPair numerics (fun _ => true) run
  pictographs : avoidsPair pictographs isOtherPictograph run
  lowered : capitals.runs.toList.all (isLowered run)
  plainTargets : hasPlainTargets run

/-- Every run of capitals is checked against every table. -/
theorem fits_of_mem {run : Run CaseRun} (hmem : run ∈ capitals.runs.toList) : Fits run := by
  have hletters : ∀ run ∈ capitals.runs.toList,
      coversPair breakClasses (·.value = .letter) run := by decide +kernel
  have halphabetics : ∀ run ∈ capitals.runs.toList,
      coversPair alphabetics (fun _ => true) run := by decide +kernel
  have hnumerics : ∀ run ∈ capitals.runs.toList,
      avoidsPair numerics (fun _ => true) run || coversPair numerics (fun _ => true) run := by
    decide +kernel
  have hpictographs : ∀ run ∈ capitals.runs.toList,
      avoidsPair pictographs isOtherPictograph run := by decide +kernel
  have hlowered : ∀ run ∈ capitals.runs.toList, capitals.runs.toList.all (isLowered run) := by
    decide +kernel
  have hplain : ∀ run ∈ capitals.runs.toList, hasPlainTargets run := by decide +kernel
  exact
    { letters := hletters run hmem
      alphabetics := halphabetics run hmem
      numerics := hnumerics run hmem
      pictographs := hpictographs run hmem
      lowered := hlowered run hmem
      plainTargets := hplain run hmem }

/-! ## Single characters -/

/-- A character of a class is found in a run of the class. -/
theorem exists_find?_of_breakClass {c : Char} {kind : BreakClass} (hclass : breakClass c = kind)
    (hkind : kind ≠ .other) : ∃ run, breakClasses.find? c = some run ∧ run.value = kind := by
  rw [breakClass, RangeMap.get?] at hclass
  cases hfind : breakClasses.find? c with
  | none =>
      rw [hfind] at hclass
      exact absurd hclass.symm hkind
  | some run =>
      rw [hfind] at hclass
      exact ⟨run, rfl, hclass⟩

/-- No blank is a letter. -/
theorem isBlank_eq_false_of_letter {c : Char} (hletter : breakClass c = .letter) :
    isBlank c = false := by
  have hapart : blanks.runs.toList.all fun run =>
      breakClasses.avoids (·.value = .letter) run.first run.last := by decide +kernel
  obtain ⟨found, hfind, hvalue⟩ := exists_find?_of_breakClass hletter (by decide)
  exact CharSet.contains_eq_false_of_apart hapart hfind (decide_eq_true hvalue)

/-- The sets that have no white space. -/
def solidSets : List CharSet :=
  [alphabetics, numerics, pictographs, cased, caseIgnorables]

theorem contains_eq_false_of_isBlank {set : CharSet} {c : Char} (hset : set ∈ solidSets)
    (hblank : isBlank c) : set.contains c = false := by
  have hapart : ∀ set ∈ solidSets, blanks.runs.toList.all fun run =>
      set.avoids (fun _ => true) run.first run.last := by decide +kernel
  exact CharSet.contains_eq_false_of_disjoint (hapart set hset) hblank

/-- The number of a code point that is a character. -/
theorem toNat_ofNat {point : Nat}
    (hvalid : point < 0xD800 ∨ 0xDFFF < point ∧ point < 0x110000) :
    (Char.ofNat point).toNat = point := by
  rw [Char.ofNat, dif_pos hvalid]
  rfl

section Capitals

variable {c d : Char}

/-- A capital lies in a run, in step with its counterpart. -/
structure InRun (run : Run CaseRun) (c d : Char) : Prop where
  mem : run ∈ capitals.runs.toList
  first_le : run.first ≤ c.toNat
  le_last : c.toNat ≤ run.last
  in_step : (c.toNat - run.first) % run.value.step = 0
  target : d.toNat = run.value.target + (c.toNat - run.first)

/-- A character that does not stay as it is lies in a run of capitals. -/
theorem exists_inRun (hcapital : lowerCounterpart c ≠ c) :
    ∃ run, InRun run c (lowerCounterpart c) := by
  rw [lowerCounterpart] at hcapital
  cases hfind : capitals.find? c with
  | none =>
      rw [hfind] at hcapital
      exact absurd rfl hcapital
  | some run =>
      simp only [hfind] at hcapital
      by_cases hstep : (c.toNat - run.first) % run.value.step = 0
      · obtain ⟨hfirst, hlast⟩ := RangeMap.bounds_of_find? hfind
        have hmem := Array.mem_toList_iff.mpr (RangeMap.mem_of_find? hfind)
        refine ⟨run, hmem, hfirst, hlast, hstep, ?_⟩
        simp only [lowerCounterpart, hfind, if_pos hstep]
        have htargets := (fits_of_mem hmem).plainTargets
        simp only [hasPlainTargets, lastTarget, Bool.and_eq_true, Bool.or_eq_true,
          Nat.blt_eq] at htargets
        apply toNat_ofNat
        omega
      · exact absurd (if_neg hstep) hcapital

variable {run : Run CaseRun}

/-- A counterpart lies among the counterparts of its run. -/
theorem InRun.target_bounds (hrun : InRun run c d) :
    run.value.target ≤ d.toNat ∧ d.toNat ≤ lastTarget run := by
  obtain ⟨-, hfirst, hlast, -, htarget⟩ := hrun
  rw [lastTarget]
  omega

/-- A capital and its counterpart are found in runs with a property. -/
theorem InRun.exists_find? {α : Type} {table : RangeMap α} {holds : Run α → Bool}
    (hrun : InRun run c d) (hascends : table.Ascends)
    (hcovers : coversPair table holds run) :
    (∃ found, table.find? c = some found ∧ holds found) ∧
      ∃ found, table.find? d = some found ∧ holds found := by
  obtain ⟨hstart, hend⟩ := hrun.target_bounds
  rw [coversPair, Bool.and_eq_true] at hcovers
  exact ⟨RangeMap.exists_find?_of_coversEvery hascends hcovers.1 hrun.first_le hrun.le_last
      hrun.in_step,
    RangeMap.exists_find?_of_covers hascends hcovers.2 hstart hend⟩

/-- A capital and its counterpart are numeric or neither is. -/
theorem InRun.isNumeric_eq (hrun : InRun run c d) : isNumeric d = isNumeric c := by
  obtain ⟨hstart, hend⟩ := hrun.target_bounds
  rcases Bool.or_eq_true_iff.mp (fits_of_mem hrun.mem).numerics with havoids | hcovers
  · rw [avoidsPair, Bool.and_eq_true] at havoids
    rw [isNumeric, isNumeric,
      CharSet.contains_eq_false_of_avoids havoids.1 hrun.first_le hrun.le_last,
      CharSet.contains_eq_false_of_avoids havoids.2 hstart hend]
  · obtain ⟨hcapital, hcounterpart⟩ := hrun.exists_find? ascends_tables.2.2 hcovers
    rw [isNumeric, isNumeric, CharSet.contains_of_find? hcapital,
      CharSet.contains_of_find? hcounterpart]

/-- A counterpart has no counterpart of its own. -/
theorem InRun.lowerCounterpart_eq (hrun : InRun run c d) : lowerCounterpart d = d := by
  by_contra hcapital
  obtain ⟨other, hother⟩ := exists_inRun hcapital
  obtain ⟨hstart, hend⟩ := hrun.target_bounds
  have hlowered := List.all_eq_true.mp (fits_of_mem hrun.mem).lowered other hother.mem
  simp only [isLowered, Bool.or_eq_true, Bool.and_eq_true, Nat.blt_eq, beq_iff_eq] at hlowered
  obtain ⟨-, hfirst, hlast, hstep, -⟩ := hother
  obtain ⟨-, hfirst', hlast', hstep', htarget⟩ := hrun
  rcases hlowered with (hbelow | habove) | ⟨⟨hevery, hsecond | hsingle⟩, hparity⟩
  · omega
  · omega
  · rw [hevery] at hstep
    rw [hsecond] at hstep'
    omega
  · rw [hevery] at hstep
    omega

/-- A counterpart is its own lower case. -/
theorem InRun.lowerChar_eq (hrun : InRun run c d) : lowerChar d = [d] := by
  obtain ⟨hstart, hend⟩ := hrun.target_bounds
  have hplain := (fits_of_mem hrun.mem).plainTargets
  simp only [hasPlainTargets, Bool.and_eq_true, Bool.or_eq_true, Nat.blt_eq] at hplain
  have hdotted : d ≠ 'İ' := by
    rintro rfl
    omega
  rw [lowerChar, if_neg hdotted, hrun.lowerCounterpart_eq]

end Capitals

/-- The circled M is the only pictograph that a range avoids except for it. -/
theorem isPictographic_eq_false {first last : Nat} {c : Char}
    (havoids : pictographs.avoids isOtherPictograph first last) (hfirst : first ≤ c.toNat)
    (hlast : c.toNat ≤ last) (hother : c ≠ 'Ⓜ') : isPictographic c = false := by
  apply CharSet.contains_eq_false_iff.mpr
  intro run hfind
  have halone := RangeMap.eq_false_of_avoids havoids hfirst hlast hfind
  simp only [isOtherPictograph, Bool.or_eq_false_iff, bne_eq_false_iff_eq] at halone
  obtain ⟨hstart, hend⟩ := RangeMap.bounds_of_find? hfind
  exact hother (Char.toNat_inj.mp (by omega))

/-- What a capital and its counterpart have in common. -/
structure CasePair (c d : Char) : Prop where
  letter_fst : breakClass c = .letter
  letter_snd : breakClass d = .letter
  alphabetic_fst : isAlphabetic c
  alphabetic_snd : isAlphabetic d
  not_pictographic_fst : c ≠ 'Ⓜ' → isPictographic c = false
  not_pictographic_snd : isPictographic d = false
  /-- A letter number keeps being one. -/
  numeric_eq : isNumeric d = isNumeric c
  /-- The counterpart is its own lower case. -/
  lowerChar_snd : lowerChar d = [d]

/-- A character stays as it is, or it is a letter that gives way to another. -/
theorem casePair_of_ne {c : Char} (hcapital : lowerCounterpart c ≠ c) :
    CasePair c (lowerCounterpart c) := by
  obtain ⟨run, hrun⟩ := exists_inRun hcapital
  have hletter {x : Char} (hfound : ∃ found, breakClasses.find? x = some found ∧
      decide (found.value = .letter)) : breakClass x = .letter := by
    obtain ⟨found, hfind, hvalue⟩ := hfound
    rw [breakClass, RangeMap.get?, hfind]
    exact of_decide_eq_true hvalue
  obtain ⟨hascends, hascends', -⟩ := ascends_tables
  have hfits := fits_of_mem hrun.mem
  obtain ⟨hfirst, hsecond⟩ := hrun.exists_find? hascends hfits.letters
  obtain ⟨hfirst', hsecond'⟩ := hrun.exists_find? hascends' hfits.alphabetics
  have hpictures := hfits.pictographs
  rw [avoidsPair, Bool.and_eq_true] at hpictures
  obtain ⟨hstart, hend⟩ := hrun.target_bounds
  have hcircled : lowerCounterpart c ≠ 'Ⓜ' := by
    intro heq
    have hlowered := hrun.lowerCounterpart_eq
    rw [heq] at hlowered
    exact absurd hlowered (by decide +kernel)
  exact
    { letter_fst := hletter hfirst
      letter_snd := hletter hsecond
      alphabetic_fst := CharSet.contains_of_find? hfirst'
      alphabetic_snd := CharSet.contains_of_find? hsecond'
      not_pictographic_fst := isPictographic_eq_false hpictures.1 hrun.first_le hrun.le_last
      not_pictographic_snd := isPictographic_eq_false hpictures.2 hstart hend hcircled
      numeric_eq := hrun.isNumeric_eq
      lowerChar_snd := hrun.lowerChar_eq }

end BooleanRetrieval.Text
