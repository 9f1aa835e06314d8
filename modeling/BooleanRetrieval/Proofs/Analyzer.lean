/-
# Analyzers and case

An analyzer sees the words of a text through their characters and kinds only, not through their
places.  So a text and its lower case have the same terms if they have the same words in lower
case.  This is not so for every text: the context of a capital sigma may reach beyond its word,
the length of a word is measured before lower-casing, and a joiner holds a circled M.
-/

import BooleanRetrieval.Analyzer
import BooleanRetrieval.Proofs.Stem
import BooleanRetrieval.Proofs.Text.Segment
import BooleanRetrieval.Term

namespace BooleanRetrieval

open Text

/-! ## Words -/

namespace Tokenizer

variable (tokenizer : Tokenizer)

/-- Whether a segment becomes a token. -/
def keeps (segment : List Char) : Bool :=
  isWord segment && byteCount segment ≤ tokenizer.maxLength

/-- The text of the token that a segment becomes. -/
def tokenText (segment : List Char) : String :=
  if tokenizer.lowercase then lower (.ofList segment) else .ofList segment

/-- The segments with their offsets are the segments. -/
theorem map_snd_withOffsets (start : Nat) (segments : List (List Char)) :
    (withOffsets start segments).map (·.2) = segments := by
  induction segments generalizing start with
  | nil => rfl
  | cons segment rest ih => rw [withOffsets, List.map_cons, ih]

/-- The words of a text are the segments that become tokens, each with its offset. -/
theorem words_eq (text : String) :
    tokenizer.words text =
      ((withOffsets 0 (segments text.toList)).filter (tokenizer.keeps ·.2)).map
        fun entry => (entry.1, .ofList entry.2) := by
  rw [← List.filterMap_eq_map, ← List.filterMap_eq_filter, List.filterMap_filterMap]
  apply List.filterMap_congr
  intro entry _
  show (if tokenizer.keeps entry.2 then _ else _) = _
  cases hkeeps : tokenizer.keeps entry.2 with
  | true => simp [Option.guard, hkeeps]
  | false => simp [Option.guard, hkeeps]

theorem map_snd_words (text : String) :
    (tokenizer.words text).map (·.2) =
      ((segments text.toList).filter tokenizer.keeps).map String.ofList := by
  have hsegments := map_snd_withOffsets 0 (segments text.toList)
  rw [words_eq, List.map_map]
  conv => rhs; rw [← hsegments, List.filter_map, List.map_map]
  rfl

/-- The texts of the tokens of a text. -/
theorem map_text_tokenize (text : String) :
    (tokenizer.tokenize text).map (·.text) =
      ((segments text.toList).filter tokenizer.keeps).map tokenizer.tokenText := by
  have hwords : (tokenizer.tokenize text).map (·.text) =
      ((tokenizer.words text).map (·.2)).map
        fun word => if tokenizer.lowercase then lower word else word := by
    rw [tokenize, List.map_map, List.map_map]
    conv => rhs; rw [← List.zipIdx_map_fst 0 (tokenizer.words text), List.map_map]
    rfl
  rw [hwords, map_snd_words, List.map_map]
  rfl

/-- The kind of a token is that of its text. -/
theorem kind_of_mem_tokenize {text : String} {token : Token}
    (htoken : token ∈ tokenizer.tokenize text) : token.kind = .classify token.text := by
  obtain ⟨_, _, rfl⟩ := List.mem_map.mp htoken
  rfl

/-- The text of a token is that of a segment, in lower case if so set. -/
theorem exists_segment_of_mem_tokenize {text : String} {token : Token}
    (htoken : token ∈ tokenizer.tokenize text) :
    ∃ segment ∈ segments text.toList, segment ≠ [] ∧ token.text = tokenizer.tokenText segment := by
  have hmem := List.mem_map_of_mem (f := (·.text)) htoken
  rw [map_text_tokenize] at hmem
  obtain ⟨segment, hsegment, htext⟩ := List.mem_map.mp hmem
  obtain ⟨hsegment, hkeeps⟩ := List.mem_filter.mp hsegment
  refine ⟨segment, hsegment, ?_, htext.symm⟩
  rintro rfl
  cases hkeeps

theorem tokenText_ne_empty {segment : List Char} (hfull : segment ≠ []) :
    tokenizer.tokenText segment ≠ "" := by
  rw [tokenText]
  split
  · simpa using hfull
  · simpa using hfull

/-- No token is empty. -/
theorem text_ne_empty_of_mem_tokenize {text : String} {token : Token}
    (htoken : token ∈ tokenizer.tokenize text) : token.text ≠ "" := by
  obtain ⟨segment, -, hfull, htext⟩ := tokenizer.exists_segment_of_mem_tokenize htoken
  rw [htext]
  exact tokenizer.tokenText_ne_empty hfull

/-- An index can hold the text of the token that a segment without blanks becomes. -/
theorem isStorable_tokenText {segment : List Char} (hfull : segment ≠ [])
    (hclear : ∀ c ∈ segment, isBlank c = false) : isStorable (tokenizer.tokenText segment) := by
  have hclear' : ∀ c ∈ (String.ofList segment).toList, isBlank c = false := by
    rwa [String.toList_ofList]
  have hblank : ∀ c ∈ (tokenizer.tokenText segment).toList, isBlank c = false := by
    rw [tokenText]
    split
    · exact no_blank_lower hclear'
    · exact hclear'
  rw [isStorable, Bool.and_eq_true]
  exact ⟨by simpa using tokenizer.tokenText_ne_empty hfull, by simpa using hblank⟩

/-- An index can hold the text of every token of a text without blanks. -/
theorem isStorable_of_mem_tokenize {text : String}
    (htext : ∀ c ∈ text.toList, isBlank c = false) {token : Token}
    (htoken : token ∈ tokenizer.tokenize text) : isStorable token.text := by
  obtain ⟨segment, hsegment, hfull, htoken⟩ := tokenizer.exists_segment_of_mem_tokenize htoken
  rw [htoken]
  refine tokenizer.isStorable_tokenText hfull fun c hc => htext c ?_
  rw [← flatten_segments text.toList]
  exact List.mem_flatten.mpr ⟨segment, hsegment, hc⟩

/-- Whether lower-casing a text does to its words what lower-casing each of them does, and
leaves the same of them to the tokenizer. -/
structure CaseStable (text : String) : Prop where
  /-- No capital sigma takes another form because of what is around its segment. -/
  sigma : lowerAfter [] text.toList = (segments text.toList).flatMap (lowerAfter [])
  not_held : ¬ heldCapital <:+: text.toList
  /-- No word becomes too long or short enough. -/
  length : ∀ segment ∈ segments text.toList, isWord segment →
    (byteCount (lowerAfter [] segment) ≤ tokenizer.maxLength ↔
      byteCount segment ≤ tokenizer.maxLength)

instance (text : String) : Decidable (tokenizer.CaseStable text) :=
  decidable_of_iff
    (lowerAfter [] text.toList = (segments text.toList).flatMap (lowerAfter []) ∧
      ¬ heldCapital <:+: text.toList ∧
      ∀ segment ∈ segments text.toList, isWord segment →
        (byteCount (lowerAfter [] segment) ≤ tokenizer.maxLength ↔
          byteCount segment ≤ tokenizer.maxLength))
    ⟨fun ⟨hsigma, hheld, hlength⟩ => ⟨hsigma, hheld, hlength⟩,
      fun hstable => ⟨hstable.sigma, hstable.not_held, hstable.length⟩⟩

variable {tokenizer}

/-- The tokens of such a text in lower case have the texts of the tokens of the text. -/
theorem map_text_tokenize_lower {text : String} (hlowercase : tokenizer.lowercase)
    (hstable : tokenizer.CaseStable text) :
    (tokenizer.tokenize (lower text)).map (·.text) = (tokenizer.tokenize text).map (·.text) := by
  have hkeeps : ∀ segment ∈ segments text.toList,
      (tokenizer.keeps ∘ lowerAfter []) segment = tokenizer.keeps segment := by
    intro segment hsegment
    have hlength := hstable.length segment hsegment
    rw [Function.comp_apply, keeps, keeps, isWord_lowerAfter]
    cases hword : isWord segment with
    | false => rfl
    | true => simp [hlength hword]
  rw [map_text_tokenize, map_text_tokenize, toList_lower,
    segments_lowerAfter hstable.not_held hstable.sigma, List.filter_map, List.map_map,
    List.filter_congr hkeeps]
  apply List.map_congr_left
  intro segment _
  have hlowered : String.ofList (lowerAfter [] segment) = lower (.ofList segment) := by
    rw [lower, String.toList_ofList]
  rw [Function.comp_apply, tokenText, tokenText, hlowercase, if_pos rfl, if_pos rfl, hlowered,
    lower_lower]

end Tokenizer

/-! ## Filters -/

/-- What a filter sees of a token. -/
def Token.content (token : Token) : String × TokenKind :=
  (token.text, token.kind)

/-- A filter does not look at the places of tokens. -/
theorem Filter.map_content_apply (filter : Filter) {tokens others : List Token}
    (hcontent : tokens.map Token.content = others.map Token.content) :
    (filter.apply tokens).map Token.content = (filter.apply others).map Token.content := by
  have hfilter (p : String × TokenKind → Bool) {tokens others : List Token}
      (hcontent : tokens.map Token.content = others.map Token.content) :
      (tokens.filter (p ∘ Token.content)).map Token.content =
        (others.filter (p ∘ Token.content)).map Token.content := by
    rw [← List.filter_map, hcontent, List.filter_map]
  cases filter with
  | alphabetic => exact hfilter (·.2 = .word) hcontent
  | stopWords list => exact hfilter (!list.contains ·.1) hcontent
  | stemmer language =>
      refine hfilter (!·.1.isEmpty) ?_
      have hstem : Token.content ∘ stemToken language =
          (fun content => (language.stem content.1, content.2)) ∘ Token.content := rfl
      rw [List.map_map, List.map_map, hstem, ← List.map_map, hcontent, List.map_map]

/-- What is left of tokens depends on their contents only. -/
theorem Filter.map_content_foldl (filters : List Filter) {tokens others : List Token}
    (hcontent : tokens.map Token.content = others.map Token.content) :
    (filters.foldl (fun tokens filter => filter.apply tokens) tokens).map Token.content =
      (filters.foldl (fun tokens filter => filter.apply tokens) others).map Token.content := by
  induction filters generalizing tokens others with
  | nil => exact hcontent
  | cons filter rest ih => exact ih (filter.map_content_apply hcontent)

/-- Stemming keeps a property of tokens, where it leaves something of the text. -/
def Language.Keeps (language : Language) (holds : Token → Prop) : Prop :=
  ∀ token, holds token → language.stem token.text ≠ "" → holds (Filter.stemToken language token)

section Keeps

variable {holds : Token → Prop} {tokens : List Token} (htokens : ∀ token ∈ tokens, holds token)

include htokens

/-- A filter drops tokens or stems them: what stemming keeps holds of the tokens it lets through. -/
theorem Filter.forall_mem_apply {filter : Filter}
    (hkeeps : ∀ language, filter = .stemmer language → language.Keeps holds) :
    ∀ token ∈ filter.apply tokens, holds token := by
  intro token htoken
  cases filter with
  | alphabetic => exact htokens token (List.mem_of_mem_filter htoken)
  | stopWords list => exact htokens token (List.mem_of_mem_filter htoken)
  | stemmer language =>
      obtain ⟨hstemmed, hfull⟩ := List.mem_filter.mp htoken
      obtain ⟨word, hword, rfl⟩ := List.mem_map.mp hstemmed
      exact hkeeps language rfl word (htokens word hword) (by simpa [stemToken] using hfull)

/-- So it is with filters one after another. -/
theorem Filter.forall_mem_foldl {filters : List Filter}
    (hkeeps : ∀ language, .stemmer language ∈ filters → language.Keeps holds) :
    ∀ token ∈ filters.foldl (fun tokens filter => filter.apply tokens) tokens, holds token := by
  induction filters generalizing tokens with
  | nil => exact htokens
  | cons filter rest ih =>
      refine ih (Filter.forall_mem_apply htokens ?_) ?_
      · rintro language rfl
        exact hkeeps language List.mem_cons_self
      · intro language hlanguage
        exact hkeeps language (List.mem_cons_of_mem _ hlanguage)

end Keeps

/-- A stem that is left of a text which an index can hold is such a text. -/
theorem Language.keeps_isStorable (language : Language) :
    language.Keeps fun token => isStorable token.text := by
  intro token hstorable hfull
  rw [isStorable, Bool.and_eq_true] at hstorable ⊢
  have hclear : ∀ c ∈ token.text.toList, isBlank c = false := by simpa using hstorable.2
  exact ⟨by simpa [Filter.stemToken] using hfull,
    by simpa [Filter.stemToken] using language.no_blank_stem hclear⟩

namespace Analyzer

variable (analyzer : Analyzer)

/-- Texts whose tokens have the same texts have the same terms. -/
theorem terms_eq_of_map_text_eq {text other : String}
    (htexts : (analyzer.tokenizer.tokenize text).map (·.text) =
      (analyzer.tokenizer.tokenize other).map (·.text)) :
    analyzer.terms text = analyzer.terms other := by
  have hkind (text : String) : (analyzer.tokenizer.tokenize text).map Token.content =
      ((analyzer.tokenizer.tokenize text).map (·.text)).map
        fun text => (text, TokenKind.classify text) := by
    rw [List.map_map]
    apply List.map_congr_left
    intro token htoken
    rw [Token.content, analyzer.tokenizer.kind_of_mem_tokenize htoken]
    rfl
  have hcontent : (analyzer.tokenizer.tokenize text).map Token.content =
      (analyzer.tokenizer.tokenize other).map Token.content := by
    rw [hkind, hkind, htexts]
  have hanalyze := congrArg (List.map Prod.fst)
    (Filter.map_content_foldl analyzer.filters hcontent)
  rwa [List.map_map, List.map_map] at hanalyze

/-- A text has the terms of its lower case, if it is stable. -/
theorem terms_lower {text : String} (hlowercase : analyzer.tokenizer.lowercase)
    (hstable : analyzer.tokenizer.CaseStable text) :
    analyzer.terms (lower text) = analyzer.terms text :=
  analyzer.terms_eq_of_map_text_eq (Tokenizer.map_text_tokenize_lower hlowercase hstable)

/-- Texts with terms of which the lower case begins with none: a sigma sees beyond its word, a
joiner lets go of a circled M, and a word outgrows the limit. -/
example : ∀ entry ∈ [(simple true, "ΑΣ^Α"), (simple true, "a\u200dⓂb"),
      (⟨"short words", { maxLength := 2 }, []⟩, "İ")],
    entry.1.terms entry.2 ≠ [] ∧
      (entry.1.terms (lower entry.2)).head?.getD "" ∉ entry.1.terms entry.2 := by
  decide +kernel

/-- An index can hold every term of a text without blanks. -/
theorem isStorable_of_mem_terms {text term : String}
    (htext : ∀ c ∈ text.toList, isBlank c = false) (hterm : term ∈ analyzer.terms text) :
    isStorable term := by
  obtain ⟨token, htoken, rfl⟩ := List.mem_map.mp hterm
  exact Filter.forall_mem_foldl (fun _ => analyzer.tokenizer.isStorable_of_mem_tokenize htext)
    (fun language _ => language.keeps_isStorable) token htoken

end Analyzer

end BooleanRetrieval
