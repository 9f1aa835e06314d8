/-
# Kinds along a pipeline

A token has the kind of its word, and no filter looks at it again.  Stems of words are words,
and numbers have no other stems, so the kind describes the text behind every filter, but for one
sort of tokens: the stem of a mixture, such as a word with an apostrophe, may well be a word.  An
alphabetic filter in front is enough for letters at the end.
-/

import BooleanRetrieval.Proofs.Analyzer
import BooleanRetrieval.Proofs.Token

namespace BooleanRetrieval

open Text

/-! ## What stemming keeps -/

/-- The kind of a token describes its text, or the token comes from a mixture. -/
def Token.IsDescribed (token : Token) : Prop :=
  token.kind = .alphanumeric ∨ token.kind = .classify token.text

namespace Language

variable (language : Language)

theorem keeps_kind (kind : TokenKind) : language.Keeps fun token => token.kind = kind :=
  fun _ hkind _ => hkind

theorem keeps_text_ne_empty : language.Keeps fun token => token.text ≠ "" :=
  fun _ _ hfull => hfull

theorem keeps_isDescribed : language.Keeps Token.IsDescribed := by
  intro token hdescribed _
  rcases hdescribed with hmixed | hkind
  · exact .inl hmixed
  · cases hclass : TokenKind.classify token.text with
    | word =>
        have hletters := TokenKind.classify_eq_word_iff.mp hclass
        have hstem := language.letters_stem (List.all_eq_true.mp hletters)
        refine .inr ((hkind.trans hclass).trans (Eq.symm ?_))
        exact TokenKind.classify_eq_word_iff.mpr (List.all_eq_true.mpr hstem)
    | number =>
        have hnumber := (TokenKind.classify_eq_number_iff.mp hclass).1
        have hstem := language.stem_number (List.all_eq_true.mp hnumber)
        refine .inr (hkind.trans ?_)
        rw [Filter.stemToken, hstem]
    | alphanumeric => exact .inl (hkind.trans hclass)

end Language

namespace Analyzer

variable (analyzer : Analyzer) {text : String} {token : Token}

/-- What holds of the tokens of a tokenizer and is kept by the stemmers of an analyzer holds of
the tokens of the analyzer. -/
theorem of_mem_analyze {holds : Token → Prop}
    (htokenize : ∀ token ∈ analyzer.tokenizer.tokenize text, holds token)
    (hkeeps : ∀ language, .stemmer language ∈ analyzer.filters → language.Keeps holds)
    (htoken : token ∈ analyzer.analyze text) : holds token :=
  Filter.forall_mem_foldl htokenize hkeeps token htoken

theorem text_ne_empty_of_mem_analyze (htoken : token ∈ analyzer.analyze text) :
    token.text ≠ "" :=
  analyzer.of_mem_analyze (fun _ => analyzer.tokenizer.text_ne_empty_of_mem_tokenize)
    (fun language _ => language.keeps_text_ne_empty) htoken

theorem isDescribed_of_mem_analyze (htoken : token ∈ analyzer.analyze text) :
    token.IsDescribed :=
  analyzer.of_mem_analyze
    (fun _ htoken => .inr (analyzer.tokenizer.kind_of_mem_tokenize htoken))
    (fun language _ => language.keeps_isDescribed) htoken

/-- Without a stemmer, tokens stay as they are. -/
theorem mem_tokenize_of_mem_analyze (hplain : ∀ language, .stemmer language ∉ analyzer.filters)
    (htoken : token ∈ analyzer.analyze text) : token ∈ analyzer.tokenizer.tokenize text :=
  analyzer.of_mem_analyze (fun _ htoken => htoken)
    (fun language hlanguage => absurd hlanguage (hplain language)) htoken

/-! ## Kinds and texts -/

/-- The kind of a token describes its text, but for what a stemmer makes of a mixture.  An
alphabetic filter put next keeps the tokens of letters, but for those that come from a mixture. -/
theorem kind_describes_text (htoken : token ∈ analyzer.analyze text) :
    (token.kind = .classify token.text ∨
      token.kind = .alphanumeric ∧ token ∉ analyzer.tokenizer.tokenize text ∧
        ∃ language, .stemmer language ∈ analyzer.filters) ∧
    (token ∈ Filter.alphabetic.apply (analyzer.analyze text) ↔
      token.text.toList.all isAlphabetic ∧ token.kind ≠ .alphanumeric) := by
  have hdescribed := analyzer.isDescribed_of_mem_analyze htoken
  constructor
  · rcases hdescribed with hmixed | hkind
    · by_cases hmem : token ∈ analyzer.tokenizer.tokenize text
      · exact .inl (analyzer.tokenizer.kind_of_mem_tokenize hmem)
      · refine .inr ⟨hmixed, hmem, ?_⟩
        by_contra hplain
        exact hmem (analyzer.mem_tokenize_of_mem_analyze (not_exists.mp hplain) htoken)
    · exact .inl hkind
  · have hkept : token ∈ Filter.alphabetic.apply (analyzer.analyze text) ↔ token.kind = .word := by
      simp [Filter.apply, htoken]
    rw [hkept, ← TokenKind.classify_eq_word_iff]
    constructor
    · intro hword
      have hpure : token.kind ≠ .alphanumeric := by simp [hword]
      exact ⟨(hdescribed.resolve_left hpure).symm.trans hword, hpure⟩
    · rintro ⟨hword, hpure⟩
      exact (hdescribed.resolve_left hpure).trans hword

/-- The stem of a mixture may be a mixture. -/
theorem kind_describes_text_of_plural :
    let analyzer : Analyzer := ⟨"stems", {}, [.stemmer .english]⟩
    let token : Token := ⟨"o'neil", 1, 6, 6, .alphanumeric⟩
    token ∈ analyzer.analyze "dog's o'neils" ∧
      (token.kind = .classify token.text ∨
        token.kind = .alphanumeric ∧ token ∉ analyzer.tokenizer.tokenize "dog's o'neils" ∧
          ∃ language, .stemmer language ∈ analyzer.filters) ∧
      (token ∈ Filter.alphabetic.apply (analyzer.analyze "dog's o'neils") ↔
        token.text.toList.all isAlphabetic ∧ token.kind ≠ .alphanumeric) := by
  intro analyzer token
  have htoken : token ∈ analyzer.analyze "dog's o'neils" := by decide +kernel
  exact ⟨htoken, kind_describes_text analyzer htoken⟩

/-- The stem of a genitive is a word of letters, but the token counts as a mixture, and an
alphabetic filter drops it. -/
theorem kind_misses_stem_of_genitive :
    let analyzer : Analyzer := ⟨"stems", {}, [.stemmer .english]⟩
    analyzer.analyze "dog's" = [⟨"dog", 0, 0, 3, .alphanumeric⟩] ∧
      TokenKind.classify "dog" = .word ∧ "dog".toList.all isAlphabetic ∧
        Filter.alphabetic.apply (analyzer.analyze "dog's") = [] := by
  decide +kernel

/-! ## Letters -/

/-- Behind an alphabetic filter, every token counts as a word. -/
theorem kind_of_mem_analyze (halphabetic : .alphabetic ∈ analyzer.filters)
    (htoken : token ∈ analyzer.analyze text) : token.kind = .word := by
  obtain ⟨before, after, hfilters⟩ := List.append_of_mem halphabetic
  rw [analyze, hfilters, List.foldl_append, List.foldl_cons] at htoken
  refine Filter.forall_mem_foldl ?_ (fun language _ => language.keeps_kind .word) token htoken
  intro kept hkept
  exact of_decide_eq_true (List.mem_filter.mp hkept).2

/-- Behind an alphabetic filter, every term is made of letters. -/
theorem letters_of_mem_terms (halphabetic : .alphabetic ∈ analyzer.filters) {term : String}
    (hterm : term ∈ analyzer.terms text) : term ≠ "" ∧ ∀ c ∈ term.toList, isAlphabetic c := by
  obtain ⟨token, htoken, rfl⟩ := List.mem_map.mp hterm
  have hword := analyzer.kind_of_mem_analyze halphabetic htoken
  refine ⟨analyzer.text_ne_empty_of_mem_analyze htoken, ?_⟩
  rcases analyzer.isDescribed_of_mem_analyze htoken with hmixed | hkind
  · rw [hword] at hmixed
    cases hmixed
  · exact List.all_eq_true.mp (TokenKind.classify_eq_word_iff.mp (hkind.symm.trans hword))

end Analyzer

/-- An index can hold a term of letters, and such a term has no part in the syntax of a line. -/
theorem isStorable_of_letters {term : String} (hfull : term ≠ "")
    (hletters : ∀ c ∈ term.toList, isAlphabetic c) :
    isStorable term ∧
      ∀ c ∈ term.toList, isBlank c = false ∧ isLineSyntax c = false := by
  have hclear : ∀ c ∈ term.toList, isBlank c = false :=
    fun c hc => isBlank_eq_false_of_isAlphabetic (hletters c hc)
  constructor
  · rw [isStorable, Bool.and_eq_true]
    exact ⟨by simpa using hfull, by simpa using hclear⟩
  · intro c hc
    exact ⟨hclear c hc, isLineSyntax_eq_false_of_isAlphabetic (hletters c hc)⟩

/-- The English and the Portuguese preset emit terms of letters only, whatever the text and the
case: an index can hold them, and nothing in them is a blank, a colon, a comma or a digit. -/
theorem Analyzer.presets_emit_letters {lowercase : Bool} {analyzer : Analyzer}
    (hpreset : analyzer = english lowercase ∨ analyzer = portuguese lowercase)
    {text term : String} (hterm : term ∈ analyzer.terms text) :
    (term ≠ "" ∧ ∀ c ∈ term.toList, isAlphabetic c) ∧ isStorable term ∧
      ∀ c ∈ term.toList, isBlank c = false ∧ isLineSyntax c = false := by
  have halphabetic : .alphabetic ∈ analyzer.filters := by
    rcases hpreset with rfl | rfl
    · exact List.mem_cons_self
    · exact List.mem_cons_self
  have hletters := analyzer.letters_of_mem_terms halphabetic hterm
  exact ⟨hletters, isStorable_of_letters hletters.1 hletters.2⟩

/-- A nasal vowel that is spelt with a tilde on the way. -/
theorem Analyzer.presets_emit_letters_of_nasal :
    "limã" ∈ (portuguese false).terms "Os limões: 2,1 limã" ∧
      ("limã" ≠ "" ∧ ∀ c ∈ "limã".toList, isAlphabetic c) ∧ isStorable "limã" ∧
        ∀ c ∈ "limã".toList, isBlank c = false ∧ isLineSyntax c = false := by
  have hterm : "limã" ∈ (portuguese false).terms "Os limões: 2,1 limã" := by decide +kernel
  exact ⟨hterm, Analyzer.presets_emit_letters (.inr rfl) hterm⟩

end BooleanRetrieval
