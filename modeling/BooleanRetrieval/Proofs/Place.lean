/-
# Places of tokens

The segments of a text make up the text, so each starts behind the bytes of those before it, and
the words among them are as far apart as they are long.  A filter drops tokens or changes their
texts; it neither moves them nor puts them in another order.  So what an analyzer emits stands
where the tokenizer found it.
-/

import BooleanRetrieval.Proofs.Pipeline

namespace BooleanRetrieval

open Text

/-! ## Bytes of a text -/

theorem Text.byteCount_eq (chars : List Char) :
    byteCount chars = (String.ofList chars).utf8ByteSize := by
  have hcount (start : Nat) :
      chars.foldl (fun count c => count + c.utf8Size) start = start + String.utf8Len chars := by
    induction chars generalizing start with
    | nil => rfl
    | cons c rest ih =>
        rw [List.foldl_cons, ih, String.utf8Len_cons]
        omega
  rw [byteCount, hcount, String.utf8ByteSize_ofList, Nat.zero_add]

/-- A word stands in a text behind a number of bytes. -/
def StandsAt (text : String) (offset : Nat) (word : String) : Prop :=
  ∃ before after, text = before ++ word ++ after ∧ before.utf8ByteSize = offset

/-- The bytes of a word that stands in a text are among those of the text. -/
theorem StandsAt.extract_eq {text word : String} {offset : Nat}
    (hstands : StandsAt text offset word) :
    offset + word.utf8ByteSize ≤ text.utf8ByteSize ∧
      text.toUTF8.extract offset (offset + word.utf8ByteSize) = word.toUTF8 := by
  rcases hstands with ⟨before, after, rfl, rfl⟩
  refine ⟨?_, ?_⟩
  · rw [String.utf8ByteSize_append, String.utf8ByteSize_append]
    exact Nat.le_add_right _ _
  · simp only [String.toUTF8_eq_toByteArray, String.toByteArray_append, ← String.size_toByteArray]
    rw [← ByteArray.size_append, ByteArray.extract_append_size_left]
    exact ByteArray.extract_append_eq_right rfl ByteArray.size_append

/-! ## Words -/

namespace Tokenizer

variable (tokenizer : Tokenizer) {text : String}

/-- A segment starts behind those before it. -/
theorem exists_of_mem_withOffsets {start : Nat} {segments : List (List Char)}
    {entry : Nat × List Char} (hentry : entry ∈ withOffsets start segments) :
    ∃ before after, segments = before ++ entry.2 :: after ∧
      entry.1 = start + byteCount before.flatten := by
  induction segments generalizing start with
  | nil => cases hentry
  | cons segment rest ih =>
      rw [withOffsets, List.mem_cons] at hentry
      rcases hentry with rfl | hlater
      · exact ⟨[], rest, rfl, rfl⟩
      · obtain ⟨before, after, rfl, hstart⟩ := ih hlater
        refine ⟨segment :: before, after, rfl, ?_⟩
        rw [hstart, List.flatten_cons, byteCount_eq, byteCount_eq, byteCount_eq,
          String.ofList_append, String.utf8ByteSize_append, Nat.add_assoc]

/-- A segment ends before the next ones start. -/
theorem pairwise_withOffsets (start : Nat) (segments : List (List Char)) :
    (withOffsets start segments).Pairwise fun first second =>
      first.1 + byteCount first.2 ≤ second.1 := by
  induction segments generalizing start with
  | nil => exact List.Pairwise.nil
  | cons segment rest ih =>
      refine List.pairwise_cons.mpr ⟨fun entry hentry => ?_, ih _⟩
      obtain ⟨before, _, _, hstart⟩ := exists_of_mem_withOffsets hentry
      exact hstart ▸ Nat.le_add_right _ _

/-- The words of a text stand in it at their offsets, and none is empty. -/
theorem standsAt_of_mem_words {word : Nat × String} (hword : word ∈ tokenizer.words text) :
    StandsAt text word.1 word.2 ∧ word.2 ≠ "" := by
  rw [words_eq, List.mem_map] at hword
  rcases hword with ⟨⟨offset, segment⟩, hentry, rfl⟩
  obtain ⟨hmem, hkeeps⟩ := List.mem_filter.mp hentry
  obtain ⟨before, after, hsegments, hoffset⟩ := exists_of_mem_withOffsets hmem
  refine ⟨⟨.ofList before.flatten, .ofList after.flatten, ?_, ?_⟩, ?_⟩
  · rw [← String.ofList_append, ← String.ofList_append, ← String.toList_inj, String.toList_ofList,
      ← flatten_segments text.toList, hsegments]
    simp
  · rw [hoffset, byteCount_eq, Nat.zero_add]
  · have hfull : segment ≠ [] := by
      rintro rfl
      cases hkeeps
    simpa using hfull

/-- A word ends before the next ones start. -/
theorem pairwise_words (text : String) :
    (tokenizer.words text).Pairwise fun first second =>
      first.1 + first.2.utf8ByteSize ≤ second.1 := by
  rw [words_eq, List.pairwise_map]
  simp only [← byteCount_eq]
  exact (pairwise_withOffsets 0 _).filter _

/-! ## Tokens -/

/-- Tokens are numbered in order. -/
theorem map_position_tokenize (text : String) :
    (tokenizer.tokenize text).map (·.position) =
      List.range (tokenizer.tokenize text).length := by
  rw [tokenize, List.map_map, List.length_map, List.length_zipIdx, List.range_eq_range']
  exact List.zipIdx_map_snd 0 _

theorem map_offset_tokenize (text : String) :
    (tokenizer.tokenize text).map (·.offset) = (tokenizer.words text).map (·.1) := by
  rw [tokenize, List.map_map]
  conv => rhs; rw [← List.zipIdx_map_fst 0 (tokenizer.words text), List.map_map]
  rfl

/-- The offsets of the tokens of a text ascend. -/
theorem ascends_offset_tokenize (text : String) :
    ((tokenizer.tokenize text).map (·.offset)).Pairwise (· < ·) := by
  rw [map_offset_tokenize, List.pairwise_map]
  refine (tokenizer.pairwise_words text).imp_of_mem fun {first second} hfirst _ hends => ?_
  have hfull := (tokenizer.standsAt_of_mem_words hfirst).2
  have hsize : first.2.utf8ByteSize ≠ 0 := String.utf8ByteSize_eq_zero_iff.not.mpr hfull
  omega

/-- Tokens that keep their case are the words of a text. -/
theorem map_word_tokenize (hcase : tokenizer.lowercase = false) (text : String) :
    (tokenizer.tokenize text).map (fun token => (token.offset, token.text)) =
      tokenizer.words text := by
  rw [tokenize, List.map_map]
  conv => rhs; rw [← List.zipIdx_map_fst 0 (tokenizer.words text)]
  apply List.map_congr_left
  rintro ⟨⟨offset, word⟩, position⟩ _
  simp [Token.ofText, hcase]

end Tokenizer

/-! ## Filters -/

/-- The place of a token: its number and the byte it starts at. -/
def Token.place (token : Token) : Nat × Nat :=
  (token.position, token.offset)

section Views

variable {β : Type} {view : Token → β}

/-- Seen without what stemming changes, a filter drops tokens and does nothing else. -/
theorem Filter.map_apply_sublist (filter : Filter) (tokens : List Token)
    (hview : ∀ language, filter = .stemmer language →
      ∀ token, view (stemToken language token) = view token) :
    ((filter.apply tokens).map view).Sublist (tokens.map view) := by
  cases filter with
  | alphabetic => exact List.filter_sublist.map view
  | stopWords list => exact List.filter_sublist.map view
  | stemmer language =>
      have hstems : (tokens.map (stemToken language)).map view = tokens.map view := by
        rw [List.map_map]
        exact List.map_congr_left fun token _ => hview language rfl token
      rw [← hstems]
      exact List.filter_sublist.map view

/-- So it is with filters one after another. -/
theorem Filter.map_foldl_sublist (filters : List Filter) (tokens : List Token)
    (hview : ∀ language, .stemmer language ∈ filters →
      ∀ token, view (stemToken language token) = view token) :
    ((filters.foldl (fun tokens filter => filter.apply tokens) tokens).map view).Sublist
      (tokens.map view) := by
  induction filters generalizing tokens with
  | nil => exact List.Sublist.refl _
  | cons filter rest ih =>
      have hfirst := filter.map_apply_sublist tokens fun language hlanguage =>
        hview language (hlanguage ▸ List.mem_cons_self)
      exact (ih _ fun language hlanguage =>
        hview language (List.mem_cons_of_mem _ hlanguage)).trans hfirst

end Views

/-! ## Analyzers -/

/-- Stemming takes the length of the stem. -/
theorem Language.keeps_length (language : Language) :
    language.Keeps fun token => token.length = token.text.utf8ByteSize :=
  fun _ _ _ => rfl

namespace Analyzer

variable (analyzer : Analyzer) (text : String)

theorem places_sublist :
    ((analyzer.analyze text).map Token.place).Sublist
      ((analyzer.tokenizer.tokenize text).map Token.place) :=
  Filter.map_foldl_sublist analyzer.filters _ fun _ _ _ => rfl

theorem length_of_mem_analyze {token : Token} (htoken : token ∈ analyzer.analyze text) :
    token.length = token.text.utf8ByteSize := by
  refine analyzer.of_mem_analyze (fun token htoken => ?_)
    (fun language _ => language.keeps_length) htoken
  obtain ⟨_, _, rfl⟩ := List.mem_map.mp htoken
  rfl

/-- Without a stemmer and with their case, tokens are words of the text. -/
theorem words_sublist (hcase : analyzer.tokenizer.lowercase = false)
    (hplain : ∀ language, .stemmer language ∉ analyzer.filters) :
    ((analyzer.analyze text).map fun token => (token.offset, token.text)).Sublist
      (analyzer.tokenizer.words text) := by
  rw [← analyzer.tokenizer.map_word_tokenize hcase]
  exact Filter.map_foldl_sublist analyzer.filters _
    fun language hlanguage => absurd hlanguage (hplain language)

/-- Whatever its filters, an analyzer emits tokens at places where its tokenizer found some, in
that order and none of them twice: the tokens of the tokenizer are numbered from 0, and their
offsets ascend.  Every token is as long as its text; and without lower-casing and stemming its
text is what stands there, with no byte in two tokens. -/
theorem analyze_keeps_places :
    ((analyzer.analyze text).map Token.place).Sublist
        ((analyzer.tokenizer.tokenize text).map Token.place) ∧
      (analyzer.tokenizer.tokenize text).map (·.position) =
        List.range (analyzer.tokenizer.tokenize text).length ∧
      ((analyzer.tokenizer.tokenize text).map (·.offset)).Pairwise (· < ·) ∧
      (∀ token ∈ analyzer.analyze text, token.length = token.text.utf8ByteSize) ∧
      (analyzer.tokenizer.lowercase = false →
        (∀ language, .stemmer language ∉ analyzer.filters) →
        (∀ token ∈ analyzer.analyze text,
          token.offset + token.length ≤ text.utf8ByteSize ∧
            text.toUTF8.extract token.offset (token.offset + token.length) =
              token.text.toUTF8) ∧
        (analyzer.analyze text).Pairwise fun first second =>
          first.offset + first.length ≤ second.offset) := by
  have hlength : ∀ token ∈ analyzer.analyze text, token.length = token.text.utf8ByteSize :=
    fun _ => analyzer.length_of_mem_analyze text
  refine ⟨analyzer.places_sublist text, analyzer.tokenizer.map_position_tokenize text,
    analyzer.tokenizer.ascends_offset_tokenize text, hlength, fun hcase hplain => ?_⟩
  have hwords := analyzer.words_sublist text hcase hplain
  refine ⟨fun token htoken => ?_, ?_⟩
  · have hword := hwords.subset (List.mem_map_of_mem htoken)
    rw [hlength token htoken]
    exact (analyzer.tokenizer.standsAt_of_mem_words hword).1.extract_eq
  · refine (List.pairwise_map.mp ((analyzer.tokenizer.pairwise_words text).sublist hwords)).imp_of_mem
      fun {first second} hfirst _ hends => ?_
    rwa [hlength first hfirst]

/-- A word that is too long, a stop word and a number leave gaps, of which only the first is not
counted. -/
theorem analyze_keeps_places_with_gaps :
    let analyzer : Analyzer :=
      ⟨"letters", { lowercase := false, maxLength := 4 }, [.stopWords .portuguese, .alphabetic]⟩
    let text := "Já enormes 8 aves, é Sé"
    (analyzer.analyze text).map Token.place = [(2, 14), (4, 23)] ∧
      (∀ token ∈ analyzer.analyze text,
        token.offset + token.length ≤ text.utf8ByteSize ∧
          text.toUTF8.extract token.offset (token.offset + token.length) =
            token.text.toUTF8) ∧
      (analyzer.analyze text).Pairwise fun first second =>
        first.offset + first.length ≤ second.offset := by
  intro analyzer text
  obtain ⟨-, -, -, -, hwords⟩ := analyzer.analyze_keeps_places text
  exact ⟨by decide +kernel, hwords rfl (by simp [analyzer])⟩

end Analyzer

end BooleanRetrieval
