/-
# The lower case of a text

Only a capital sigma looks at its context, and only to choose between two small letters.  So
what becomes of a character is one of its lower forms wherever it stands: itself, another
letter, or a letter and a dot.  No step but that of a letter changes anything, and nothing is
left to change after it.
-/

import BooleanRetrieval.Proofs.Text.Capital
import Mathlib

namespace BooleanRetrieval.Text

/-! ## Lower forms -/

/-- What lower-casing makes of a character: the forms that some context brings about. -/
inductive LowerForm : Char → List Char → Prop where
  /-- The character has no lower case of its own. -/
  | same {c : Char} : lowerChar c = [c] → LowerForm c [c]
  /-- A letter takes its place. -/
  | capital {c d : Char} : CasePair c d → c ≠ 'İ' → LowerForm c [d]
  /-- The dot above a capital I stands apart. -/
  | dotted : LowerForm 'İ' ['i', '\u0307']

theorem breakClass_dotted : breakClass 'İ' = .letter := by decide +kernel

theorem breakClass_i : breakClass 'i' = .letter := by decide +kernel

theorem breakClass_dot : breakClass '\u0307' = .transparent := by decide +kernel

theorem lowerChar_sigma : lowerChar 'Σ' = ['σ'] := by cbv

theorem casePair_sigma_final : CasePair 'Σ' 'ς' where
  letter_fst := by decide +kernel
  letter_snd := by decide +kernel
  alphabetic_fst := by decide +kernel
  alphabetic_snd := by decide +kernel
  not_pictographic_fst := by
    intro
    cbv
  not_pictographic_snd := by cbv
  numeric_eq := by decide +kernel
  lowerChar_snd := by cbv

/-- Without context, a character takes a lower form. -/
theorem lowerForm_lowerChar (c : Char) : LowerForm c (lowerChar c) := by
  by_cases hdotted : c = 'İ'
  · subst hdotted
    exact .dotted
  · have hsingle : lowerChar c = [lowerCounterpart c] := by rw [lowerChar, if_neg hdotted]
    by_cases hsame : lowerCounterpart c = c
    · rw [hsame] at hsingle
      rw [hsingle]
      exact .same hsingle
    · rw [hsingle]
      exact .capital (casePair_of_ne hsame) hdotted

/-- The first character of a text takes a lower form, and the rest follows. -/
theorem exists_lowerForm (before : List Char) (c : Char) (rest : List Char) :
    ∃ form, LowerForm c form ∧
      lowerAfter before (c :: rest) = form ++ lowerAfter (c :: before) rest := by
  refine ⟨_, ?_, rfl⟩
  split
  · next hsigma =>
      subst hsigma
      split
      · exact .capital casePair_sigma_final (by decide)
      · rw [← lowerChar_sigma]
        exact lowerForm_lowerChar 'Σ'
  · exact lowerForm_lowerChar c

/-- A form has as many characters in every context. -/
theorem LowerForm.length_eq {c : Char} {form : List Char} (hform : LowerForm c form) :
    form.length = (lowerChar c).length := by
  cases hform with
  | same hsame => rw [hsame]
  | capital _ hdotted =>
      rw [lowerChar, if_neg hdotted]
      rfl
  | dotted => rfl

/-- A form is its own lower case, character by character. -/
theorem LowerForm.lowerChar_eq {c d : Char} {form : List Char} (hform : LowerForm c form)
    (hd : d ∈ form) : lowerChar d = [d] := by
  cases hform with
  | same hsame =>
      rw [List.mem_singleton.mp hd]
      exact hsame
  | capital hpair _ =>
      rw [List.mem_singleton.mp hd]
      exact hpair.lowerChar_snd
  | dotted =>
      rcases List.mem_pair.mp hd with rfl | rfl
      · cbv
      · cbv

/-! ## Marks

A character that no form brings about is a mark: neither a letter nor the dot above. -/

/-- Whether a character is neither a letter nor the dot above, so that lower-casing leaves
it alone. -/
structure IsMark (d : Char) : Prop where
  not_letter : breakClass d ≠ .letter
  not_dot : d ≠ '\u0307'

theorem isMark_of_isBlank {d : Char} (hblank : isBlank d = true) : IsMark d where
  not_letter := by
    intro hletter
    rw [isBlank_eq_false_of_letter hletter] at hblank
    cases hblank
  not_dot := by
    rintro rfl
    have hother : isBlank '\u0307' = false := by cbv
    rw [hother] at hblank
    cases hblank

section Marks

variable {c d : Char} {form : List Char}

/-- A mark in a form is the character itself. -/
theorem LowerForm.eq_of_isMark (hform : LowerForm c form) (hmark : IsMark d) (hd : d ∈ form) :
    c = d ∧ form = [d] := by
  cases hform with
  | same =>
      obtain rfl := List.mem_singleton.mp hd
      exact ⟨rfl, rfl⟩
  | capital hpair =>
      obtain rfl := List.mem_singleton.mp hd
      exact absurd hpair.letter_snd hmark.not_letter
  | dotted =>
      rcases List.mem_pair.mp hd with rfl | rfl
      · exact absurd breakClass_i hmark.not_letter
      · exact absurd rfl hmark.not_dot

/-- A form is not empty. -/
theorem LowerForm.ne_nil (hform : LowerForm c form) : form ≠ [] := by
  cases hform with
  | same => exact List.cons_ne_nil _ _
  | capital => exact List.cons_ne_nil _ _
  | dotted => exact List.cons_ne_nil _ _

end Marks

/-! ## Texts -/

@[simp] theorem lowerAfter_eq_nil (before chars : List Char) :
    lowerAfter before chars = [] ↔ chars = [] := by
  cases chars with
  | nil => simp [lowerAfter]
  | cons c rest =>
      obtain ⟨form, hform, hlower⟩ := exists_lowerForm before c rest
      simp [hlower, hform.ne_nil]

/-- The lower case of a text holds no mark that is not in the text. -/
theorem mem_of_mem_lowerAfter {d : Char} (hmark : IsMark d) {before chars : List Char}
    (hd : d ∈ lowerAfter before chars) : d ∈ chars := by
  induction chars generalizing before with
  | nil => exact hd
  | cons c rest ih =>
      obtain ⟨form, hform, hlower⟩ := exists_lowerForm before c rest
      rw [hlower, List.mem_append] at hd
      rcases hd with hd | hd
      · rw [(hform.eq_of_isMark hmark hd).1]
        exact List.mem_cons_self
      · exact List.mem_cons_of_mem _ (ih hd)

/-- A mark at the beginning of the lower case is at the beginning of the text. -/
theorem head?_of_head?_lowerAfter {d : Char} (hmark : IsMark d) {before chars : List Char}
    (hd : (lowerAfter before chars).head? = some d) : chars.head? = some d := by
  cases chars with
  | nil => exact hd
  | cons c rest =>
      obtain ⟨form, hform, hlower⟩ := exists_lowerForm before c rest
      rw [hlower, List.head?_append_of_ne_nil _ hform.ne_nil] at hd
      rw [(hform.eq_of_isMark hmark (List.mem_of_mem_head? hd)).1]
      rfl

/-- A mark at the end of the lower case is at the end of the text. -/
theorem getLast?_of_getLast?_lowerAfter {d : Char} (hmark : IsMark d) {before chars : List Char}
    (hd : (lowerAfter before chars).getLast? = some d) : chars.getLast? = some d := by
  induction chars generalizing before with
  | nil => exact hd
  | cons c rest ih =>
      obtain ⟨form, hform, hlower⟩ := exists_lowerForm before c rest
      rw [hlower] at hd
      cases rest with
      | nil =>
          rw [lowerAfter, List.append_nil] at hd
          rw [(hform.eq_of_isMark hmark (List.mem_of_getLast? hd)).1]
          rfl
      | cons next others =>
          have hrest : lowerAfter (c :: before) (next :: others) ≠ [] := by simp
          rw [List.getLast?_append_of_ne_nil _ hrest] at hd
          rw [List.getLast?_cons_cons]
          exact ih hd

/-- Characters that are their own lower case make up a text that is its own lower case. -/
theorem lowerAfter_eq_self {before chars : List Char}
    (hlowered : ∀ d ∈ chars, lowerChar d = [d]) : lowerAfter before chars = chars := by
  induction chars generalizing before with
  | nil => rfl
  | cons c rest ih =>
      obtain ⟨hfirst, hrest⟩ := List.forall_mem_cons.mp hlowered
      have hsigma : c ≠ 'Σ' := by
        rintro rfl
        rw [lowerChar_sigma] at hfirst
        exact absurd hfirst (by decide)
      rw [lowerAfter, if_neg hsigma, hfirst, ih hrest]
      rfl

/-- Every character of the lower case is its own lower case. -/
theorem lowerChar_of_mem_lowerAfter {d : Char} {before chars : List Char}
    (hd : d ∈ lowerAfter before chars) : lowerChar d = [d] := by
  induction chars generalizing before with
  | nil => cases hd
  | cons c rest ih =>
      obtain ⟨form, hform, hlower⟩ := exists_lowerForm before c rest
      rw [hlower, List.mem_append] at hd
      rcases hd with hd | hd
      · exact hform.lowerChar_eq hd
      · exact ih hd

@[simp] theorem toList_lower (text : String) :
    (lower text).toList = lowerAfter [] text.toList := by
  rw [lower, String.toList_ofList]

/-- The lower case of a text is its own lower case. -/
@[simp] theorem lower_lower (text : String) : lower (lower text) = lower text := by
  apply String.toList_inj.mp
  rw [toList_lower, toList_lower]
  exact lowerAfter_eq_self fun d hd => lowerChar_of_mem_lowerAfter hd

/-- Only the empty text has an empty lower case. -/
@[simp] theorem lower_eq_empty (text : String) : lower text = "" ↔ text = "" := by
  rw [← String.toList_eq_nil_iff, toList_lower, lowerAfter_eq_nil, String.toList_eq_nil_iff]

/-- The lower case of a text without blanks has none. -/
theorem no_blank_lower {text : String} (hclear : ∀ c ∈ text.toList, isBlank c = false) :
    ∀ c ∈ (lower text).toList, isBlank c = false := by
  intro c hc
  rw [toList_lower] at hc
  cases hblank : isBlank c with
  | false => rfl
  | true =>
      have hclear := hclear c (mem_of_mem_lowerAfter (isMark_of_isBlank hblank) hc)
      rw [hblank] at hclear
      cases hclear

end BooleanRetrieval.Text
