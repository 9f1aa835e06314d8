/-
# How far casing looks

Whether a capital sigma ends a word is decided by the characters around it, as far as
casing looks.  It does not look past a character that is neither cased nor case-ignorable: what
stands on one side of such a character has the same lower case whatever stands on the other.
So to cut a text at such characters and to put it in lower case can be done in either order.
-/

import BooleanRetrieval.Proofs.Text.Lowercase
import BooleanRetrieval.Proofs.Text.Split

namespace BooleanRetrieval.Text

/-- A character that stays as it is and that casing does not look past. -/
structure IsBound (d : Char) : Prop extends IsMark d where
  not_cased : isCased d = false
  not_ignorable : isCaseIgnorable d = false

/-- Casing does not look past blanks. -/
theorem isBound_of_isBlank {d : Char} (hblank : isBlank d = true) : IsBound d :=
  { isMark_of_isBlank hblank with
    not_cased := contains_eq_false_of_isBlank (by simp [solidSets]) hblank
    not_ignorable := contains_eq_false_of_isBlank (by simp [solidSets]) hblank }

/-- Only case-ignorable characters are looked through. -/
theorem meetsCased_cons (c : Char) (rest : List Char) :
    meetsCased (c :: rest) = if isCaseIgnorable c then meetsCased rest else isCased c := by
  by_cases hignorable : isCaseIgnorable c
  · rw [if_pos hignorable, meetsCased, List.dropWhile_cons_of_pos hignorable]
    rfl
  · rw [if_neg hignorable, meetsCased, List.dropWhile_cons_of_neg hignorable]

section Bounds

variable {d : Char} (hbound : IsBound d)

include hbound

/-- Nothing becomes of a bound. -/
theorem IsBound.lowerAfter_cons (before rest : List Char) :
    lowerAfter before (d :: rest) = d :: lowerAfter (d :: before) rest := by
  obtain ⟨form, hform, hlower⟩ := exists_lowerForm before d rest
  rw [hlower]
  cases hform with
  | same => rfl
  | capital hpair => exact absurd hpair.letter_fst hbound.not_letter
  | dotted => exact absurd breakClass_dotted hbound.not_letter

/-- Looking for a cased character ends at a bound. -/
theorem IsBound.meetsCased_append (chars beyond : List Char) :
    meetsCased (chars ++ d :: beyond) = meetsCased chars := by
  induction chars with
  | nil => simp [meetsCased, hbound.not_ignorable, hbound.not_cased]
  | cons c rest ih =>
      rw [List.cons_append, meetsCased_cons, meetsCased_cons, ih]

/-- What stands before a bound is not looked at. -/
theorem IsBound.lowerAfter_append (before beyond chars : List Char) :
    lowerAfter (before ++ d :: beyond) chars = lowerAfter before chars := by
  induction chars generalizing before with
  | nil => rfl
  | cons c rest ih =>
      have hrest := ih (c :: before)
      rw [List.cons_append] at hrest
      rw [lowerAfter, lowerAfter, hbound.meetsCased_append, hrest]

/-- The two sides of a bound are put in lower case each by itself. -/
theorem IsBound.lowerAfter_cut (before chars rest : List Char) :
    lowerAfter before (chars ++ d :: rest) =
      lowerAfter before chars ++ d :: lowerAfter [] rest := by
  induction chars generalizing before with
  | nil =>
      rw [List.nil_append, hbound.lowerAfter_cons, ← List.nil_append (d :: before),
        hbound.lowerAfter_append]
      rfl
  | cons c others ih =>
      rw [List.cons_append, lowerAfter, lowerAfter, hbound.meetsCased_append, ih,
        List.append_assoc]

/-- A text begins with a bound if its lower case does. -/
theorem IsBound.head?_lowerAfter (before chars : List Char) :
    (lowerAfter before chars).head? = some d ↔ chars.head? = some d := by
  refine ⟨head?_of_head?_lowerAfter hbound.toIsMark, fun hfirst => ?_⟩
  obtain ⟨rest, rfl⟩ := List.head?_eq_some_iff.mp hfirst
  rw [hbound.lowerAfter_cons, List.head?_cons]

/-- A text ends with a bound if its lower case does. -/
theorem IsBound.getLast?_lowerAfter (before chars : List Char) :
    (lowerAfter before chars).getLast? = some d ↔ chars.getLast? = some d := by
  refine ⟨getLast?_of_getLast?_lowerAfter hbound.toIsMark, fun hlast => ?_⟩
  obtain ⟨first, rfl⟩ := List.getLast?_eq_some_iff.mp hlast
  rw [hbound.lowerAfter_cut, lowerAfter, List.getLast?_concat]

end Bounds

section Pieces

variable {isMark : Char → Bool} (hbounds : ∀ d, isMark d = true → IsBound d)

include hbounds

/-- A text without bounds of one kind has none in lower case. -/
theorem no_mark_lowerAfter {before chars : List Char} (hclear : ∀ c ∈ chars, isMark c = false) :
    ∀ d ∈ lowerAfter before chars, isMark d = false := by
  intro d hd
  rw [← Bool.not_eq_true]
  intro hmark
  have hother := hclear d (mem_of_mem_lowerAfter (hbounds d hmark).toIsMark hd)
  rw [hmark] at hother
  cases hother

/-- The pieces of the lower case are the lower cases of the pieces. -/
theorem piecesBetween_lowerAfter (chars : List Char) :
    piecesBetween isMark (lowerAfter [] chars) =
      (piecesBetween isMark chars).map (lowerAfter []) := by
  rcases no_mark_or_exists_cut isMark chars with
    hclear | ⟨first, mark, rest, rfl, hmark, hclear⟩
  · rw [piecesBetween_of_no_mark hclear,
      piecesBetween_of_no_mark (no_mark_lowerAfter hbounds hclear), List.map_singleton]
  · have hrest := piecesBetween_lowerAfter rest
    rw [(hbounds mark hmark).lowerAfter_cut, piecesBetween_append_mark hmark,
      piecesBetween_append_mark hmark, hrest,
      piecesBetween_of_no_mark (no_mark_lowerAfter hbounds hclear),
      piecesBetween_of_no_mark hclear, List.map_append, List.map_singleton]
termination_by chars.length
decreasing_by
  subst_vars
  simp only [List.length_append, List.length_cons]
  omega

end Pieces

/-- The words of the lower case are the lower cases of the words. -/
theorem blankSeparated_lowerAfter (chars : List Char) :
    blankSeparated (lowerAfter [] chars) = (blankSeparated chars).map (lowerAfter []) := by
  have hempty : ∀ word : List Char, (lowerAfter [] word).isEmpty = word.isEmpty := by
    intro word
    rw [Bool.eq_iff_iff, List.isEmpty_iff, List.isEmpty_iff, lowerAfter_eq_nil]
  rw [blankSeparated, piecesBetween_lowerAfter fun _ => isBound_of_isBlank, List.filter_map,
    blankSeparated]
  simp only [Function.comp_def, hempty]

/-- A sigma ends a word before a blank, and not before a letter. -/
example : lower "ΟΣ Ο ΟΣΟ" = "ος ο οσο" := by decide +kernel

end BooleanRetrieval.Text
