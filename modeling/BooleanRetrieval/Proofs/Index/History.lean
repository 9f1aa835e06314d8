/-
# Indexes of any history

Documents may be added with ids in any order, and an id may come again.  Each addition
keeps an index well formed: it holds storable terms only, and under each of them postings
in ascending order, at least one, with positive frequencies.  What is stored for a term and
an id is decided by the last document of that id that emits the term; a later document of
the same id without the term takes nothing back.  The counters are those of the whole
history.
-/

import BooleanRetrieval.Proofs.Index.Content

namespace BooleanRetrieval.Index

/-! ## Well-formed indexes -/

/-- A list that an index may hold under a term. -/
structure WellFormedEntry (term : String) (list : PostingList) : Prop where
  isStorable : isStorable term
  isEmpty_eq_false : list.isEmpty = false
  ascends : list.Ascends
  one_le_frequency : ∀ posting ∈ list.postings, 1 ≤ posting.frequency

/-- An index whose lists are all as they may be. -/
def WellFormed (index : Index) : Prop :=
  ∀ term list, index.find? term = some list → WellFormedEntry term list

theorem wellFormed_empty : WellFormed .empty := by
  intro term list hfind
  simp [find?, empty] at hfind

/-- The postings of a term, which may be none, ascend and have positive frequencies. -/
theorem WellFormed.postingsOf {index : Index} (hindex : index.WellFormed) (term : String) :
    (index.postingsOf term).Ascends ∧
      ∀ posting ∈ (index.postingsOf term).postings, 1 ≤ posting.frequency := by
  cases hold : index.find? term with
  | none =>
      rw [postingsOf_of_find?_none hold]
      exact ⟨PostingList.ascends_empty, by simp [PostingList.empty]⟩
  | some old =>
      rw [postingsOf_of_find?_some hold]
      exact ⟨(hindex term old hold).ascends, (hindex term old hold).one_le_frequency⟩

/-- A posting for each of the storable terms leaves an index well formed. -/
theorem WellFormed.addTerms {index : Index} (hindex : index.WellFormed) (id : Nat)
    (terms : List String) : (index.addTerms id terms).WellFormed := by
  intro term list hfind
  rw [find?_addTerms] at hfind
  by_cases hkept : BooleanRetrieval.isStorable term ∧ term ∈ terms
  · rw [if_pos hkept] at hfind
    cases hfind
    obtain ⟨hascends, hfrequency⟩ := hindex.postingsOf term
    refine ⟨hkept.1, PostingList.isEmpty_add hascends _, PostingList.ascends_add hascends _, ?_⟩
    intro posting hmem
    rcases (PostingList.mem_add hascends).mp hmem with rfl | ⟨hold, -⟩
    · exact List.count_pos_iff.mpr hkept.2
    · exact hfrequency posting hold
  · rw [if_neg hkept] at hfind
    exact hindex term list hfind

section Runs

variable (preprocessor : Preprocessor) (documents : List (Nat × String))

/-- After every history an index is well formed. -/
theorem wellFormed_ofDocuments : (ofDocuments preprocessor documents).WellFormed := by
  induction documents using List.reverseRecOn with
  | nil => exact wellFormed_empty
  | append_singleton documents document ih =>
      rw [ofDocuments_concat]
      exact ih.addTerms document.1 _

/-! ## Counters -/

/-- The largest of the ids, 0 without documents. -/
def largestId : Nat :=
  (documents.map (·.1)).max?.getD 0

theorem largestId_concat (document : Nat × String) :
    largestId (documents ++ [document]) = max (largestId documents) document.1 := by
  cases documents with
  | nil => simp [largestId]
  | cons first rest =>
      simp only [largestId, List.cons_append, List.map_cons, List.map_append, List.map_nil,
        List.max?_cons', List.foldl_append, List.foldl_cons, List.foldl_nil, Option.getD_some]

/-- The document counter is the largest id of the history. -/
theorem documentCount_ofDocuments :
    (ofDocuments preprocessor documents).documentCount = largestId documents := by
  induction documents using List.reverseRecOn with
  | nil => rfl
  | append_singleton documents document ih =>
      rw [ofDocuments_concat, largestId_concat, ← ih]
      rfl

/-- The token counter sums the storable terms of all documents. -/
theorem tokenCount_ofDocuments :
    (ofDocuments preprocessor documents).tokenCount =
      (documents.map fun document => (preprocessor.terms document.2).countP isStorable).sum := by
  induction documents using List.reverseRecOn with
  | nil => rfl
  | append_singleton documents document ih =>
      rw [ofDocuments_concat, List.map_append, List.sum_append, ← ih, List.map_singleton,
        List.sum_singleton, List.countP_eq_length_filter]
      rfl

end Runs

/-! ## Content -/

/-- The last document of an id that emits a term: none of the same id after it does. -/
def LastEmits (preprocessor : Preprocessor) (documents : List (Nat × String)) (id : Nat)
    (term text : String) : Prop :=
  ∃ earlier later, documents = earlier ++ (id, text) :: later ∧
    term ∈ preprocessor.terms text ∧
    ∀ document ∈ later, document.1 = id → term ∉ preprocessor.terms document.2

variable {preprocessor : Preprocessor} {documents : List (Nat × String)} {id : Nat}
  {term text : String}

/-- The search from the end finds the last document that emits the term. -/
theorem lastEmitting?_eq_some_iff :
    lastEmitting? preprocessor documents id term = some text ↔
      LastEmits preprocessor documents id term text := by
  rw [lastEmitting?, Option.map_eq_some_iff]
  constructor
  · intro hlast
    rcases hlast with ⟨document, hfind, rfl⟩
    obtain ⟨hemits, later, earlier, hsplit, hafter⟩ := List.find?_eq_some_iff_append.mp hfind
    obtain ⟨rfl, hterm⟩ := emits_eq_true_iff.mp hemits
    refine ⟨earlier.reverse, later.reverse, ?_, hterm, ?_⟩
    · rw [← List.reverse_reverse documents, hsplit]
      simp
    · intro other hmem hid hother
      have hnot := hafter other (List.mem_reverse.mp hmem)
      rw [emits_eq_true_iff.mpr ⟨hid, hother⟩] at hnot
      cases hnot
  · intro hlast
    rcases hlast with ⟨earlier, later, rfl, hterm, hafter⟩
    refine ⟨(id, text), List.find?_eq_some_iff_append.mpr ⟨?_, later.reverse, earlier.reverse,
      by simp, ?_⟩, rfl⟩
    · exact emits_eq_true_iff.mpr ⟨rfl, hterm⟩
    · intro other hmem
      rw [Bool.not_eq_true', Bool.eq_false_iff, ne_eq, emits_eq_true_iff]
      intro hemits
      exact hafter other (List.mem_reverse.mp hmem) hemits.1 hemits.2

/-- A posting is stored for a term exactly if the term is storable and the posting counts
it in the last document of its id that emits it. -/
theorem mem_postingsOf_ofDocuments {posting : Posting} :
    posting ∈ ((ofDocuments preprocessor documents).postingsOf term).postings ↔
      isStorable term ∧ ∃ text, LastEmits preprocessor documents posting.document term text ∧
        posting.frequency = (preprocessor.terms text).count term := by
  by_cases hstorable : isStorable term
  · rw [(content_ofDocuments preprocessor documents hstorable).mem_iff]
    simp only [lastEmitting?_eq_some_iff, hstorable, true_and]
  · have hnone : (ofDocuments preprocessor documents).find? term = none := by
      rw [← Option.not_isSome_iff_eq_none, isSome_find?_ofDocuments]
      exact fun hemitted => hstorable hemitted.1
    rw [postingsOf_of_find?_none hnone]
    simp [PostingList.empty, hstorable]

/-- Some document of an id emits a term exactly if a last one does. -/
theorem exists_lastEmits_iff :
    (∃ text, LastEmits preprocessor documents id term text) ↔
      ∃ text, (id, text) ∈ documents ∧ term ∈ preprocessor.terms text := by
  simp only [← lastEmitting?_eq_some_iff]
  constructor
  · intro hlast
    rcases hlast with ⟨text, hlast⟩
    exact ⟨text, mem_of_lastEmitting? hlast⟩
  · intro hemitted
    rcases hemitted with ⟨text, hmem, hterm⟩
    exact exists_lastEmitting? hmem hterm

/-- After every history of documents, whatever their ids, the index is well formed; a term has
a posting for an id exactly if it is storable and a document of that id emits it, with the count
of the last such document; and the counters are the largest id and the number of storable terms
of all documents. -/
theorem ofDocuments_records_history (preprocessor : Preprocessor)
    (documents : List (Nat × String)) :
    (ofDocuments preprocessor documents).WellFormed ∧
      (∀ term id,
        (∃ posting ∈ ((ofDocuments preprocessor documents).postingsOf term).postings,
          posting.document = id) ↔
        isStorable term ∧ ∃ text, (id, text) ∈ documents ∧ term ∈ preprocessor.terms text) ∧
      (∀ term id frequency,
        ⟨id, frequency⟩ ∈ ((ofDocuments preprocessor documents).postingsOf term).postings ↔
        isStorable term ∧ ∃ text, LastEmits preprocessor documents id term text ∧
          frequency = (preprocessor.terms text).count term) ∧
      (ofDocuments preprocessor documents).documentCount = largestId documents ∧
      (ofDocuments preprocessor documents).tokenCount =
        (documents.map fun document =>
          (preprocessor.terms document.2).countP isStorable).sum := by
  refine ⟨wellFormed_ofDocuments preprocessor documents, ?_, ?_,
    documentCount_ofDocuments preprocessor documents,
    tokenCount_ofDocuments preprocessor documents⟩
  · intro term id
    rw [← exists_lastEmits_iff]
    constructor
    · intro hstored
      rcases hstored with ⟨posting, hmem, rfl⟩
      obtain ⟨hstorable, text, hlast, -⟩ := mem_postingsOf_ofDocuments.mp hmem
      exact ⟨hstorable, text, hlast⟩
    · intro hemitted
      rcases hemitted with ⟨hstorable, text, hlast⟩
      exact ⟨⟨id, _⟩, mem_postingsOf_ofDocuments.mpr ⟨hstorable, text, hlast, rfl⟩, rfl⟩
  · intro term id frequency
    exact mem_postingsOf_ofDocuments

end BooleanRetrieval.Index
