/-
# The kind of a text

Lower-casing takes letters to letters and numbers to numbers, with one exception: the dot that
a dotted capital I leaves behind is no letter.  So a text keeps its kind in lower case unless
it is a word with such an I.  Letters are apart from blanks and from the signs of an index line.
-/

import BooleanRetrieval.Proofs.Text.Lowercase
import BooleanRetrieval.Token

namespace BooleanRetrieval

namespace Text

/-! ## Letters and numbers in lower case -/

section Forms

variable {c : Char} {form : List Char}

/-- The forms of a letter are letters, but for the dot of a dotted I. -/
theorem LowerForm.all_isAlphabetic (hform : LowerForm c form) :
    form.all isAlphabetic = (isAlphabetic c && c != 'İ') := by
  cases hform with
  | same hsame =>
      have hdotted : c ≠ 'İ' := by
        rintro rfl
        cases hsame
      simp [hdotted]
  | capital hpair hdotted => simp [hpair.alphabetic_fst, hpair.alphabetic_snd, hdotted]
  | dotted => decide +kernel

/-- The forms of a numeric character are numeric. -/
theorem LowerForm.all_isNumeric (hform : LowerForm c form) :
    form.all isNumeric = isNumeric c := by
  cases hform with
  | same => simp
  | capital hpair => simp [hpair.numeric_eq]
  | dotted => decide +kernel

end Forms

/-- What holds of all characters of a lower case can be read off the text. -/
theorem all_lowerAfter {lowered plain : Char → Bool}
    (hforms : ∀ c form, LowerForm c form → form.all lowered = plain c)
    (before chars : List Char) : (lowerAfter before chars).all lowered = chars.all plain := by
  induction chars generalizing before with
  | nil => rfl
  | cons c rest ih =>
      obtain ⟨form, hform, hlower⟩ := exists_lowerForm before c rest
      rw [hlower, List.all_append, hforms c form hform, ih, List.all_cons]

/-- The lower case of a text is made of letters if the text is, without a dotted I. -/
theorem all_isAlphabetic_lower (text : String) :
    (lower text).toList.all isAlphabetic =
      (text.toList.all isAlphabetic && !text.toList.contains 'İ') := by
  rw [toList_lower, all_lowerAfter fun _ _ => LowerForm.all_isAlphabetic]
  generalize text.toList = chars
  induction chars with
  | nil => rfl
  | cons c rest ih =>
      rw [List.all_cons, List.all_cons, ih, List.contains_cons, Bool.not_or, Bool.and_assoc,
        Bool.and_assoc, Bool.and_left_comm (c != 'İ'), bne, BEq.comm]

/-- The lower case of a text is made of numeric characters if the text is. -/
theorem all_isNumeric_lower (text : String) :
    (lower text).toList.all isNumeric = text.toList.all isNumeric := by
  rw [toList_lower, all_lowerAfter fun _ _ => LowerForm.all_isNumeric]

/-! ## Letters and other characters -/

/-- No blank is alphabetic. -/
theorem isBlank_eq_false_of_isAlphabetic {c : Char} (halphabetic : isAlphabetic c) :
    isBlank c = false := by
  by_contra hblank
  rw [Bool.not_eq_false] at hblank
  rw [isAlphabetic, contains_eq_false_of_isBlank (by simp [solidSets]) hblank] at halphabetic
  cases halphabetic

/-- Whether a character is one of those that an index line is made of around its term: a colon,
a comma or a digit. -/
def isLineSyntax (c : Char) : Bool :=
  c = ':' || c = ',' || c.isDigit

/-- No sign of an index line is alphabetic. -/
theorem isLineSyntax_eq_false_of_isAlphabetic {c : Char} (halphabetic : isAlphabetic c) :
    isLineSyntax c = false := by
  by_contra hsyntax
  rw [Bool.not_eq_false, isLineSyntax, Bool.or_eq_true, Bool.or_eq_true, decide_eq_true_iff,
    decide_eq_true_iff] at hsyntax
  -- From the comma to the colon there is no letter.
  have havoids : alphabetics.avoids (fun _ => true) ','.toNat ':'.toNat := by decide +kernel
  have hbounds : ','.toNat ≤ c.toNat ∧ c.toNat ≤ ':'.toNat := by
    rcases hsyntax with (rfl | rfl) | hdigit
    · decide
    · decide
    · have hdigits : '0'.toNat ≤ c.toNat ∧ c.toNat ≤ '9'.toNat := by
        simpa [Char.isDigit, UInt32.le_iff_toNat_le] using hdigit
      exact ⟨Nat.le_trans (by decide) hdigits.1, Nat.le_trans hdigits.2 (by decide)⟩
  rw [isAlphabetic, CharSet.contains_eq_false_of_avoids havoids hbounds.1 hbounds.2] at halphabetic
  cases halphabetic

end Text

/-! ## Kinds -/

namespace TokenKind

open Text

theorem classify_eq_word_iff {text : String} :
    classify text = .word ↔ text.toList.all isAlphabetic := by
  rw [classify]
  split
  · next hword => simp [hword]
  · next hother =>
      split <;> simp [hother]

theorem classify_eq_number_iff {text : String} :
    classify text = .number ↔
      text.toList.all isNumeric ∧ text.toList.all isAlphabetic = false := by
  rw [classify]
  split
  · next hword => simp [hword]
  · next hother =>
      rw [Bool.not_eq_true] at hother
      split
      · next hnumber => simp [hother, hnumber]
      · next hmixed => simp [hmixed]

/-- A text has its kind in lower case, unless it is a word with a dotted I. -/
theorem classify_lower (text : String) :
    classify (lower text) =
      if classify text = .word ∧ 'İ' ∈ text.toList then .alphanumeric else classify text := by
  have halphabetic := all_isAlphabetic_lower text
  have hnumeric := all_isNumeric_lower text
  cases hword : text.toList.all isAlphabetic with
  | false =>
      rw [hword, Bool.false_and] at halphabetic
      have hother : classify text ≠ .word := by simp [classify_eq_word_iff, hword]
      rw [if_neg fun hdotted => hother hdotted.1, classify, classify, halphabetic, hnumeric, hword]
  | true =>
      rw [hword, Bool.true_and] at halphabetic
      have hkind : classify text = .word := classify_eq_word_iff.mpr hword
      by_cases hdotted : 'İ' ∈ text.toList
      · -- A dotted I is no number, so neither is the text.
        have hmixed : text.toList.all isNumeric = false := by
          rw [List.all_eq_false]
          exact ⟨'İ', hdotted, by decide +kernel⟩
        rw [if_pos ⟨hkind, hdotted⟩, classify, halphabetic, hnumeric, hmixed,
          List.contains_iff_mem.mpr hdotted]
        rfl
      · rw [if_neg fun hkinds => hdotted hkinds.2, hkind, classify_eq_word_iff, halphabetic]
        simpa using hdotted

end TokenKind

end BooleanRetrieval
