/-
# Stop words and case

Texts that differ in case only go by the same stop words, under two conditions: the list has
each of its words in lower case, and the text has an upper-case character if it has one in title
case.  A list is looked up as it stands, so a word that it has with a capital only is never
found; and a letter in title case alone does not make a look-up go by the lower case.
-/

import BooleanRetrieval.Proofs.Text.Titlecase
import BooleanRetrieval.StopWords

namespace BooleanRetrieval.StopWords

open Text

/-- The text that is looked up for a text. -/
def lookedUp (text : String) : String :=
  if text.toList.any isUppercase then lower text else text

/-- Whether the look-up of a text notices that it has a lower case. -/
def ShowsCase (text : String) : Prop :=
  text.toList.any isTitlecase → text.toList.any isUppercase

/-- Whether a list has each of its words in lower case. -/
def HasLowerCases (list : StopWords) : Prop :=
  ∀ word ∈ list.words, lower word ∈ list.words

instance (list : StopWords) : Decidable list.HasLowerCases :=
  inferInstanceAs (Decidable (∀ word ∈ list.words, lower word ∈ list.words))

/-! ## What is looked up -/

section Texts

variable {text : String}

theorem lookedUp_of_uppercase (hupper : text.toList.any isUppercase) :
    lookedUp text = lower text :=
  if_pos hupper

theorem lookedUp_of_not_uppercase (hupper : ¬ text.toList.any isUppercase) :
    lookedUp text = text :=
  if_neg hupper

@[simp] theorem lower_lookedUp (text : String) : lower (lookedUp text) = lower text := by
  rw [lookedUp]
  split
  · exact lower_lower text
  · rfl

/-- A text without capitals of either sort is its own lower case. -/
theorem lower_eq_self (hupper : ¬ text.toList.any isUppercase)
    (htitle : ¬ text.toList.any isTitlecase) : lower text = text := by
  rw [List.any_eq_true] at hupper htitle
  apply String.toList_inj.mp
  rw [toList_lower]
  apply lowerAfter_eq_self
  intro c hc
  exact lowerChar_eq_self (fun hc' => hupper ⟨c, hc, hc'⟩) (fun hc' => htitle ⟨c, hc, hc'⟩)

/-- Nothing in a lower case is in title case. -/
theorem not_titlecase_lower (text : String) : ¬ (lower text).toList.any isTitlecase := by
  intro htitle
  obtain ⟨c, hc, htitle⟩ := List.any_eq_true.mp htitle
  rw [toList_lower] at hc
  exact lowerChar_ne_self_of_isTitlecase htitle (lowerChar_of_mem_lowerAfter hc)

theorem showsCase_lower (text : String) : ShowsCase (lower text) :=
  fun htitle => absurd htitle (not_titlecase_lower text)

/-- The lower case is looked up for the texts that show their case, and for no others. -/
theorem lookedUp_eq_lower_iff : lookedUp text = lower text ↔ ShowsCase text := by
  by_cases hupper : text.toList.any isUppercase
  · exact ⟨fun _ _ => hupper, fun _ => lookedUp_of_uppercase hupper⟩
  · rw [lookedUp_of_not_uppercase hupper]
    constructor
    · intro hlower htitle
      rw [hlower] at htitle
      exact absurd htitle (not_titlecase_lower text)
    · intro hshows
      exact (lower_eq_self hupper fun htitle => hupper (hshows htitle)).symm

end Texts

/-! ## What is on a list -/

section Lists

variable {list : StopWords} {text : String}

theorem contains_iff : list.contains text ↔ lookedUp text ∈ list.words := by
  rw [contains, List.contains_iff_mem]
  rfl

/-- A text that is found on a list has the lower case of a word on the list. -/
theorem exists_word_of_contains (hcontains : list.contains text) :
    ∃ word ∈ list.words, lower word = lower text :=
  ⟨lookedUp text, contains_iff.mp hcontains, lower_lookedUp text⟩

/-- If a list has its words in lower case, the texts with these lower cases are found on it. -/
theorem contains_of_lower_eq (hlist : list.HasLowerCases) (htext : ShowsCase text)
    {word : String} (hword : word ∈ list.words) (hlower : lower word = lower text) :
    list.contains text := by
  rw [contains_iff, lookedUp_eq_lower_iff.mpr htext, ← hlower]
  exact hlist word hword

/-- A word of a list is found on it, unless a capital sends the look-up to another word. -/
theorem forall_contains_iff : (∀ word ∈ list.words, list.contains word) ↔
    ∀ word ∈ list.words, word.toList.any isUppercase → lower word ∈ list.words := by
  simp only [contains_iff]
  constructor
  · intro hwords word hword hupper
    rw [← lookedUp_of_uppercase hupper]
    exact hwords word hword
  · intro hwords word hword
    by_cases hupper : word.toList.any isUppercase
    · rw [lookedUp_of_uppercase hupper]
      exact hwords word hword hupper
    · rw [lookedUp_of_not_uppercase hupper]
      exact hword

/-- Of the texts that show their case, a list has those with the lower case of one of its words,
just if it has its words in lower case.  It never has any others.  All its words are found on it
just if those with an upper-case character are on it in lower case too, and the lower case is
looked up just for the texts that show their case. -/
theorem ignores_case_iff (list : StopWords) :
    ((∀ text, ShowsCase text →
        (list.contains text ↔ ∃ word ∈ list.words, lower word = lower text)) ↔
      list.HasLowerCases) ∧
    (∀ text, list.contains text → ∃ word ∈ list.words, lower word = lower text) ∧
    ((∀ word ∈ list.words, list.contains word) ↔
      ∀ word ∈ list.words, word.toList.any isUppercase → lower word ∈ list.words) ∧
    ∀ text, lookedUp text = lower text ↔ ShowsCase text := by
  refine ⟨⟨?_, ?_⟩, fun _ => exists_word_of_contains, forall_contains_iff,
    fun _ => lookedUp_eq_lower_iff⟩
  · intro hignores word hword
    have hshows := showsCase_lower word
    have hcontains := (hignores (lower word) hshows).mpr ⟨word, hword, (lower_lower word).symm⟩
    rwa [contains_iff, lookedUp_eq_lower_iff.mpr hshows, lower_lower] at hcontains
  · intro hlist text htext
    constructor
    · exact exists_word_of_contains
    · rintro ⟨word, hword, hlower⟩
      exact contains_of_lower_eq hlist htext hword hlower

/-- The Portuguese list has its words in lower case. -/
theorem ignores_case_iff_of_portuguese :
    portuguese.HasLowerCases ∧ ShowsCase "NÃO" ∧ portuguese.contains "NÃO" ∧
      (portuguese.contains "NÃO" ↔ ∃ word ∈ portuguese.words, lower word = lower "NÃO") := by
  have hlist : portuguese.HasLowerCases := by decide +kernel
  have hupper : "NÃO".toList.any isUppercase := by decide +kernel
  exact ⟨hlist, fun _ => hupper, by decide +kernel,
    (ignores_case_iff portuguese).1.mpr hlist "NÃO" fun _ => hupper⟩

/-- A listed word with a capital is not found on the list, and a text in title case is not found
by the lower case that it shares with a listed word. -/
theorem misses_listed_word :
    "The" ∈ (⟨["The"]⟩ : StopWords).words ∧ (⟨["The"]⟩ : StopWords).contains "The" = false ∧
      lower "ǅ" = lower "ǆ" ∧ (⟨["ǆ"]⟩ : StopWords).contains "ǆ" ∧
        (⟨["ǆ"]⟩ : StopWords).contains "ǅ" = false := by
  decide +kernel

end Lists

end BooleanRetrieval.StopWords
