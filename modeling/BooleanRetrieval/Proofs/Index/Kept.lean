/-
# What an index keeps of a document

An index drops the terms that its lines could not hold.  The presets for English and Portuguese
emit no such term.  The simple one does, where a text has white space within a word: a narrow
no-break space between the digits of a number, or white space that a mark is attached to.  These
words are all that gets lost on the way from the text to the index.
-/

import BooleanRetrieval.Proofs.Index.History
import BooleanRetrieval.Proofs.Pipeline
import BooleanRetrieval.Proofs.Text.Spacing

namespace BooleanRetrieval

open Text

/-! ## Terms of the presets -/

theorem isStorable_eq_false_of_isBlank {term : String} {c : Char} (hc : c ∈ term.toList)
    (hblank : isBlank c) : isStorable term = false := by
  rw [isStorable, Bool.and_eq_false_iff]
  exact .inr (by simpa using ⟨c, hc, hblank⟩)

/-- An index can hold the text of a token unless there is a joined blank in it, which is then
also in the text of the document. -/
theorem Tokenizer.isStorable_or_joinsBlank (tokenizer : Tokenizer) {text : String} {token : Token}
    (htoken : token ∈ tokenizer.tokenize text) :
    isStorable token.text ∨ JoinsBlank token.text.toList ∧ JoinsBlank text.toList := by
  have htext := List.mem_map_of_mem (f := (·.text)) htoken
  rw [tokenizer.map_text_tokenize] at htext
  obtain ⟨segment, hsegment, htext⟩ := List.mem_map.mp htext
  obtain ⟨hsegment, hkeeps⟩ := List.mem_filter.mp hsegment
  have hword : isWord segment := (Bool.and_eq_true_iff.mp hkeeps).1
  have hwithin : segment <:+: text.toList := by
    rw [← flatten_segments text.toList]
    exact List.infix_of_mem_flatten hsegment
  by_cases hblank : ∃ d ∈ segment, isBlank d
  · obtain ⟨d, hd, hblank⟩ := hblank
    have hjoins := joinsBlank_of_isWord hsegment hword hd hblank
    refine .inr ⟨?_, hjoins.mono hwithin⟩
    rw [← htext, tokenText]
    split
    · rw [toList_lower, String.toList_ofList]
      exact hjoins.lowerAfter []
    · rw [String.toList_ofList]
      exact hjoins
  · rw [← htext]
    refine .inl (tokenizer.isStorable_tokenText ?_ (by simpa using hblank))
    rintro rfl
    cases hword

namespace Analyzer

variable {lowercase : Bool} {analyzer : Analyzer} {text term : String}

/-- What the presets for a language emit, an index can hold. -/
theorem isStorable_of_letter_preset
    (hpreset : analyzer = english lowercase ∨ analyzer = portuguese lowercase)
    (hterm : term ∈ analyzer.terms text) : isStorable term := by
  have halphabetic : .alphabetic ∈ analyzer.filters := by
    rcases hpreset with rfl | rfl
    · exact List.mem_cons_self
    · exact List.mem_cons_self
  obtain ⟨hfull, hletters⟩ := analyzer.letters_of_mem_terms halphabetic hterm
  exact (isStorable_of_letters hfull hletters).1

/-- What a preset emits, an index can hold unless there is a joined blank in it, which is then
also in the text. -/
theorem isStorable_or_joinsBlank_of_preset
    (hpreset : analyzer = simple lowercase ∨ analyzer = english lowercase ∨
      analyzer = portuguese lowercase)
    (hterm : term ∈ analyzer.terms text) :
    isStorable term ∨ JoinsBlank term.toList ∧ JoinsBlank text.toList := by
  rcases hpreset with rfl | hpreset
  · obtain ⟨token, htoken, rfl⟩ := List.mem_map.mp hterm
    exact (simple lowercase).tokenizer.isStorable_or_joinsBlank htoken
  · exact .inl (isStorable_of_letter_preset hpreset hterm)

end Analyzer

/-! ## Documents -/

namespace Index

/-- The token counter grows by the number of storable terms. -/
theorem tokenCount_addDocument (preprocessor : Preprocessor) (index : Index) (id : Nat)
    (text : String) :
    (index.addDocument preprocessor id text).tokenCount =
      index.tokenCount + (preprocessor.terms text).countP isStorable := by
  rw [List.countP_eq_length_filter]
  rfl

/-- A storable term of a document has a posting with the number of its occurrences. -/
theorem WellFormed.mem_postingsOf_addDocument {index : Index} (hindex : index.WellFormed)
    (preprocessor : Preprocessor) (id : Nat) {text term : String}
    (hterm : term ∈ preprocessor.terms text) (hstorable : isStorable term) :
    ⟨id, (preprocessor.terms text).count term⟩ ∈
      ((index.addDocument preprocessor id text).postingsOf term).postings := by
  rw [Index.addDocument, postingsOf_addTerms, if_pos ⟨hstorable, hterm⟩,
    PostingList.mem_add (hindex.postingsOf term).1]
  exact .inl rfl

/-- Other terms are never in an index. -/
theorem WellFormed.find?_eq_none {index : Index} (hindex : index.WellFormed) {term : String}
    (hunstorable : isStorable term = false) : index.find? term = none := by
  rw [Option.eq_none_iff_forall_ne_some]
  intro list hfind
  rw [(hindex term list hfind).isStorable] at hunstorable
  cases hunstorable

/-- Of the terms that a preset emits, which are never empty, exactly those with a joined blank
are dropped, whatever was added before; all others are counted, and each has a posting with the
number of its occurrences.  Nothing is dropped of what the presets for a language emit, and of
a text without joined blanks. -/
theorem addDocument_drops_joined_blanks {lowercase : Bool} {analyzer : Analyzer}
    (hpreset : analyzer = .simple lowercase ∨ analyzer = .english lowercase ∨
      analyzer = .portuguese lowercase)
    (documents : List (Nat × String)) (id : Nat) (text : String) :
    let index := ofDocuments analyzer.toPreprocessor documents
    let extended := index.addDocument analyzer.toPreprocessor id text
    let terms := analyzer.terms text
    (∀ term ∈ terms, term ≠ "" ∧ (isStorable term ↔ ¬ JoinsBlank term.toList)) ∧
      extended.tokenCount = index.tokenCount + terms.countP isStorable ∧
      (∀ term ∈ terms, isStorable term →
        ⟨id, terms.count term⟩ ∈ (extended.postingsOf term).postings) ∧
      (∀ term ∈ terms, JoinsBlank term.toList → extended.find? term = none) ∧
      (analyzer = .english lowercase ∨ analyzer = .portuguese lowercase ∨
          ¬ JoinsBlank text.toList →
        (∀ term ∈ terms, isStorable term) ∧
          extended.tokenCount = index.tokenCount + terms.length) := by
  intro index extended terms
  have hindex : index.WellFormed := wellFormed_ofDocuments analyzer.toPreprocessor documents
  have hextended : extended.WellFormed := hindex.addTerms id _
  have hcount : extended.tokenCount = index.tokenCount + terms.countP isStorable :=
    tokenCount_addDocument analyzer.toPreprocessor index id text
  have hunstorable {term : String} (hjoins : JoinsBlank term.toList) : isStorable term = false := by
    obtain ⟨c, hc, hblank⟩ := hjoins.exists_isBlank
    exact isStorable_eq_false_of_isBlank hc hblank
  refine ⟨?_, hcount, ?_, ?_, ?_⟩
  · intro term hterm
    refine ⟨?_, fun hstorable hjoins => ?_, fun hclear => ?_⟩
    · obtain ⟨token, htoken, rfl⟩ := List.mem_map.mp hterm
      exact analyzer.text_ne_empty_of_mem_analyze htoken
    · rw [hunstorable hjoins] at hstorable
      cases hstorable
    · exact (Analyzer.isStorable_or_joinsBlank_of_preset hpreset hterm).resolve_right
        fun hjoins => hclear hjoins.1
  · intro term hterm hstorable
    exact hindex.mem_postingsOf_addDocument analyzer.toPreprocessor id hterm hstorable
  · intro term _ hjoins
    exact hextended.find?_eq_none (hunstorable hjoins)
  · intro hclear
    have hall : ∀ term ∈ terms, isStorable term := by
      intro term hterm
      rcases hclear with hletters | hletters | hclear
      · exact Analyzer.isStorable_of_letter_preset (.inl hletters) hterm
      · exact Analyzer.isStorable_of_letter_preset (.inr hletters) hterm
      · exact (Analyzer.isStorable_or_joinsBlank_of_preset hpreset hterm).resolve_right
          fun hjoins => hclear hjoins.2
    exact ⟨hall, by rw [hcount, List.countP_eq_length.mpr hall]⟩

/-- A number with a narrow no-break space between its digits is one term, and it is dropped. -/
theorem addDocument_drops_thousands :
    let index := empty.addDocument (Analyzer.simple true).toPreprocessor 1 "10\u202f000"
    (Analyzer.simple true).terms "10\u202f000" = ["10\u202f000"] ∧
      isStorable "10\u202f000" = false ∧ index.tokenCount = 0 ∧
      index.find? "10\u202f000" = none := by
  decide +kernel

/-- The words around such a number are kept. -/
theorem addDocument_keeps_words_around_thousands :
    let extended := (ofDocuments (Analyzer.simple true).toPreprocessor [(1, "Cats")]).addDocument
      (Analyzer.simple true).toPreprocessor 2 "10\u202f000 cats, Cats"
    extended.tokenCount = 3 ∧ ⟨2, 2⟩ ∈ (extended.postingsOf "cats").postings ∧
      extended.find? "10\u202f000" = none := by
  have hpreset : Analyzer.simple true = .simple true ∨ Analyzer.simple true = .english true ∨
      Analyzer.simple true = .portuguese true := .inl rfl
  obtain ⟨-, hcount, hkept, hdropped, -⟩ := addDocument_drops_joined_blanks hpreset
    [(1, "Cats")] 2 "10\u202f000 cats, Cats"
  have hcats : ((Analyzer.simple true).terms "10\u202f000 cats, Cats").count "cats" = 2 := by
    decide +kernel
  have hmem := hkept "cats" (by decide +kernel) (by decide +kernel)
  rw [hcats] at hmem
  refine ⟨hcount.trans (by decide +kernel), hmem, ?_⟩
  exact hdropped _ (by decide +kernel) (.inl (by simp))

end Index

end BooleanRetrieval
