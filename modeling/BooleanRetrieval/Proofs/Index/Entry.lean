/-
# Lines that come back

A term that a line can begin with and postings that a line can hold come back from
the line they are written to.  Nothing else is read from a line: whatever stands
around and between the postings, the term and the postings that a reader takes from
it are again ones that can be written.
-/

import BooleanRetrieval.Proofs.Index.Grammar
import BooleanRetrieval.Term

namespace BooleanRetrieval

/-- A posting with numbers that an index file can hold. -/
structure Posting.Writable (posting : Posting) : Prop where
  document_pos : 1 ≤ posting.document
  document_le : posting.document ≤ Index.maxNumber
  frequency_pos : 1 ≤ posting.frequency
  frequency_le : posting.frequency ≤ Index.maxNumber

/-- Postings that a line can hold. -/
structure PostingList.Writable (list : PostingList) : Prop where
  nonempty : list.isEmpty = false
  ascends : list.Ascends
  writable (posting : Posting) : posting ∈ list.postings → posting.Writable

/-- A term that a line can begin with. -/
structure WritableTerm (term : String) : Prop where
  ne_empty : term ≠ ""
  no_newline : '\n' ∉ term.toList
  no_mark : ¬ [':', ' '] <:+: term.toList

namespace Index

open Text

/-! ## Postings -/

/-- The digits of a number denote it. -/
theorem numeral_toDigits {number : Nat} (hnumber : number ≤ maxNumber) :
    Numeral (Nat.toDigits 10 number) number where
  ne_nil := Nat.toDigits_ne_nil
  isDigit _ hc := Nat.isDigit_of_mem_toDigits (by omega) (by omega) hc
  value_eq := Nat.ofDigitChars_ten_toDigits
  le := hnumber

/-- A posting as it is written, without the space before it. -/
def postingChars (posting : Posting) : List Char :=
  Nat.toDigits 10 posting.document ++ ',' :: Nat.toDigits 10 posting.frequency

theorem toList_renderPosting (posting : Posting) :
    (renderPosting posting).toList = ' ' :: postingChars posting := by
  simp only [renderPosting, postingChars, String.toList_append, Nat.toString_eq_ofList_toDigits,
    String.toList_ofList, List.append_assoc]
  rfl

theorem mem_postingChars {posting : Posting} {c : Char} (hc : c ∈ postingChars posting) :
    c.isDigit ∨ c = ',' := by
  rcases List.mem_append.mp hc with hdigit | hrest
  · exact Or.inl (Nat.isDigit_of_mem_toDigits (by omega) (by omega) hdigit)
  · rcases List.mem_cons.mp hrest with hcomma | hdigit
    · exact Or.inr hcomma
    · exact Or.inl (Nat.isDigit_of_mem_toDigits (by omega) (by omega) hdigit)

theorem item_postingChars {posting : Posting} (hwritable : posting.Writable) :
    Item (postingChars posting) posting :=
  .mk (numeral_toDigits hwritable.document_le) (numeral_toDigits hwritable.frequency_le)

/-! ## The postings of a line -/

/-- The postings of a line, after the colon. -/
def postingsChars (postings : List Posting) : List Char :=
  postings.flatMap fun posting => ' ' :: postingChars posting

/-- Postings that are written are a series with a space in each gap. -/
theorem series_postingsChars {first : Posting} {rest : List Posting}
    (hwritable : ∀ posting ∈ first :: rest, posting.Writable) :
    Series (postingChars first ++ postingsChars rest) (first :: rest) := by
  obtain ⟨hfirst, hrest⟩ := List.forall_mem_cons.mp hwritable
  induction rest generalizing first with
  | nil =>
      rw [postingsChars, List.flatMap_nil, List.append_nil]
      exact .single (item_postingChars hfirst)
  | cons next rest ih =>
      obtain ⟨hnext, hlater⟩ := List.forall_mem_cons.mp hrest
      have hchars : postingChars first ++ postingsChars (next :: rest) =
          postingChars first ++ [' '] ++ (postingChars next ++ postingsChars rest) := by
        simp [postingsChars]
      rw [hchars]
      exact .cons (item_postingChars hfirst) ⟨by simp, by simp⟩ (ih hrest hnext hlater)

/-! ## Lines -/

theorem toList_renderEntry (term : String) (list : PostingList) :
    (renderEntry term list).toList = term.toList ++ ':' :: postingsChars list.postings.toList := by
  have hjoin : (String.join (list.postings.toList.map renderPosting)).toList =
      postingsChars list.postings.toList := by
    rw [String.toList_join, List.flatMap_map, postingsChars]
    simp only [toList_renderPosting]
  rw [renderEntry, String.toList_append, String.toList_append, hjoin, List.append_assoc]
  rfl

/-- A colon after a term does not complete a separator. -/
theorem infix_concat_colon {chars : List Char} :
    [':', ' '] <:+: chars ++ [':'] ↔ [':', ' '] <:+: chars := by
  rw [List.infix_concat_iff, or_iff_right]
  intro hending
  rcases hending with ⟨before, hbefore⟩
  have hlast := congrArg List.getLast? hbefore
  simp at hlast

/-- What is written to a line is an entry. -/
theorem isEntry_renderEntry {term : String} {list : PostingList} (hterm : term ≠ "")
    (hmark : ¬ [':', ' '] <:+: term.toList) (hlist : list.Writable) :
    IsEntry (renderEntry term list) term list := by
  have hwritable : ∀ posting ∈ list.postings.toList, posting.Writable := fun posting hmem =>
    hlist.writable posting (Array.mem_toList_iff.mp hmem)
  obtain ⟨first, rest, hlist'⟩ :=
    List.exists_cons_of_ne_nil (PostingList.isEmpty_eq_false_iff.mp hlist.nonempty)
  have hline : (renderEntry term list).toList =
      term.toList ++ [':', ' '] ++ (postingChars first ++ postingsChars rest) := by
    rw [toList_renderEntry, hlist', postingsChars, List.flatMap_cons, ← postingsChars]
    simp
  refine
    { cut := ⟨postingChars first ++ postingsChars rest, ?_, ?_⟩
      term_ne_empty := hterm
      ascends := hlist.ascends
      document_pos := fun posting hmem => (hlist.writable posting hmem).document_pos
      frequency_pos := fun posting hmem => (hlist.writable posting hmem).frequency_pos }
  · rw [← splitAtFirst?_eq_some_iff (by simp), hline]
    exact splitAtFirst?_append (infix_concat_colon.not.mpr hmark) (by simp) _
  · rw [hlist'] at hwritable ⊢
    exact series_postingsChars hwritable

theorem entry?_renderEntry {term : String} {list : PostingList} (hterm : term ≠ "")
    (hmark : ¬ [':', ' '] <:+: term.toList) (hlist : list.Writable) :
    entry? (renderEntry term list) = some (term, list) :=
  entry?_eq_some_iff.mpr (isEntry_renderEntry hterm hmark hlist)

section

variable {line term : String} {list : PostingList}

/-- The term of an entry does not hold what ends it. -/
theorem IsEntry.no_mark (hentry : IsEntry line term list) : ¬ [':', ' '] <:+: term.toList := by
  obtain ⟨after, hcut, -⟩ := hentry.cut
  have hsplit := (splitAtFirst?_eq_some_iff (by simp)).mpr hcut
  exact infix_concat_colon.not.mp (not_infix_of_splitAtFirst? (by simp) hsplit)

/-- The postings of an entry can be written. -/
theorem IsEntry.writable (hentry : IsEntry line term list) : list.Writable := by
  obtain ⟨after, -, hseries⟩ := hentry.cut
  refine ⟨PostingList.isEmpty_eq_false_iff.mpr hseries.ne_nil, hentry.ascends, ?_⟩
  intro posting hmem
  obtain ⟨hdocument, hfrequency⟩ := hseries.le_maxNumber (Array.mem_toList_iff.mpr hmem)
  exact ⟨hentry.document_pos posting hmem, hdocument, hentry.frequency_pos posting hmem,
    hfrequency⟩

/-- So can its term, if the line has no line end in it. -/
theorem IsEntry.writableTerm (hentry : IsEntry line term list) (hline : '\n' ∉ line.toList) :
    WritableTerm term := by
  refine ⟨hentry.term_ne_empty, fun hnewline => hline ?_, hentry.no_mark⟩
  obtain ⟨after, hcut, -⟩ := hentry.cut
  rw [hcut.eq_append]
  simp [hnewline]

end

/-- A storable term holds no blank, and so neither a line end nor a space. -/
theorem writableTerm_of_isStorable {term : String} (hstorable : isStorable term) :
    WritableTerm term := by
  rw [isStorable, Bool.and_eq_true, Bool.not_eq_true', Bool.not_eq_true', List.any_eq_false]
    at hstorable
  obtain ⟨hempty, hblank⟩ := hstorable
  refine ⟨?_, fun hnewline => hblank _ hnewline isBlank_newline, fun hmark => ?_⟩
  · rintro rfl
    exact absurd hempty (by decide)
  · exact hblank ' ' (hmark.subset (by simp)) isBlank_space

/-- An entry comes back from its line if and only if there is a term and it does not hold what ends
a term, and there are postings, in order and with numbers of an index file.  Under a storable term
it is up to the postings alone. -/
theorem renderEntry_comes_back_iff (term : String) (list : PostingList) :
    (term ≠ "" ∧ ¬ [':', ' '] <:+: term.toList ∧ list.isEmpty = false ∧ list.Ascends ∧
        (∀ posting ∈ list.postings, 1 ≤ posting.document ∧ posting.document ≤ maxNumber ∧
          1 ≤ posting.frequency ∧ posting.frequency ≤ maxNumber) ↔
      entry? (renderEntry term list) = some (term, list)) ∧
    (isStorable term → (list.Writable ↔ entry? (renderEntry term list) = some (term, list))) := by
  refine ⟨⟨?_, ?_⟩, ?_⟩
  · intro hparts
    rcases hparts with ⟨hterm, hmark, hfull, hascends, hnumbers⟩
    refine entry?_renderEntry hterm hmark ⟨hfull, hascends, ?_⟩
    intro posting hmem
    obtain ⟨hpos, hle, hfrequency, hfrequency'⟩ := hnumbers posting hmem
    exact ⟨hpos, hle, hfrequency, hfrequency'⟩
  · intro hread
    have hentry := entry?_eq_some_iff.mp hread
    have hlist := hentry.writable
    refine ⟨hentry.term_ne_empty, hentry.no_mark, hlist.nonempty, hlist.ascends, ?_⟩
    intro posting hmem
    obtain ⟨hpos, hle, hfrequency, hfrequency'⟩ := hlist.writable posting hmem
    exact ⟨hpos, hle, hfrequency, hfrequency'⟩
  · intro hstorable
    have hterm := writableTerm_of_isStorable hstorable
    exact ⟨entry?_renderEntry hterm.ne_empty hterm.no_mark,
      fun hread => (entry?_eq_some_iff.mp hread).writable⟩

/-- A term that looks like an entry and ends in a colon. -/
theorem renderEntry_comes_back_iff_colons :
    entry? (renderEntry "a:1,1:" ⟨#[⟨1, 20⟩, ⟨4294967295, 1⟩]⟩) =
      some ("a:1,1:", ⟨#[⟨1, 20⟩, ⟨4294967295, 1⟩]⟩) := by
  obtain ⟨-, hstorable⟩ := renderEntry_comes_back_iff "a:1,1:" ⟨#[⟨1, 20⟩, ⟨4294967295, 1⟩]⟩
  refine (hstorable (by decide +kernel)).mp ⟨rfl, by decide, ?_⟩
  intro posting hmem
  have hpostings : posting = ⟨1, 20⟩ ∨ posting = ⟨4294967295, 1⟩ := by simpa using hmem
  rcases hpostings with rfl | rfl
  · exact ⟨by decide, by decide, by decide, by decide⟩
  · exact ⟨by decide, by decide, by decide, by decide⟩

/-- A line with postings ends in a digit, so trimming leaves it alone. -/
theorem trimEnd_renderEntry (term : String) {list : PostingList} (hlist : list.isEmpty = false) :
    trimEnd (renderEntry term list) = renderEntry term list := by
  obtain ⟨earlier, last, hpostings⟩ :=
    (List.eq_nil_or_concat' list.postings.toList).resolve_left
      (PostingList.isEmpty_eq_false_iff.mp hlist)
  obtain ⟨digits, digit, hdigits⟩ :
      ∃ digits digit, Nat.toDigits 10 last.frequency = digits ++ [digit] :=
    (List.eq_nil_or_concat' _).resolve_left Nat.toDigits_ne_nil
  have hdigit : digit.isDigit := by
    have hmem : digit ∈ Nat.toDigits 10 last.frequency := by simp [hdigits]
    exact Nat.isDigit_of_mem_toDigits (by omega) (by omega) hmem
  have hline : (renderEntry term list).toList = term.toList ++ ':' :: postingsChars earlier ++
      ' ' :: Nat.toDigits 10 last.document ++ ',' :: digits ++ [digit] := by
    rw [toList_renderEntry, hpostings, postingsChars, List.flatMap_append, ← postingsChars]
    simp [postingChars, hdigits]
  rw [trimEnd, hline, dropBlankEnd_concat (isBlank_eq_false_of_isDigit hdigit), ← hline,
    String.ofList_toList]

/-- A line holds no line end but those of its term. -/
theorem newline_not_mem_renderEntry {term : String} (hterm : '\n' ∉ term.toList)
    (list : PostingList) : '\n' ∉ (renderEntry term list).toList := by
  rw [toList_renderEntry, List.mem_append, List.mem_cons, postingsChars, List.mem_flatMap]
  intro hmem
  rcases hmem with hnewline | hcolon | ⟨posting, -, hnewline⟩
  · exact hterm hnewline
  · cases hcolon
  · rcases List.mem_cons.mp hnewline with hspace | hnewline
    · cases hspace
    · rcases mem_postingChars hnewline with hdigit | hcomma
      · exact absurd hdigit (by decide)
      · cases hcomma

end Index

end BooleanRetrieval
