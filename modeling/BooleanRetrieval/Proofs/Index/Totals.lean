/-
# The counters of an index and its postings

The postings of an index, one list after the other, have a last document and a sum of
frequencies.  The counters kept while documents are added bound both: documents
without storable terms count as documents, and a posting that gives way to a newer
one of the same document stays counted.  The sum is exact when no id comes twice.
-/

import BooleanRetrieval.Proofs.Index.Content

namespace BooleanRetrieval.Index

/-- All postings, in the order of terms. -/
def allPostings (index : Index) : List Posting :=
  index.postings.toList.flatMap (·.2.postings.toList)

/-- The largest document of the postings, 0 without postings. -/
def lastDocument (index : Index) : Nat :=
  (index.allPostings.map (·.document)).max?.getD 0

/-- The sum of the frequencies. -/
def occurrences (index : Index) : Nat :=
  (index.allPostings.map (·.frequency)).sum

theorem mem_allPostings {index : Index} {posting : Posting} :
    posting ∈ index.allPostings ↔
      ∃ term list, index.find? term = some list ∧ posting ∈ list.postings := by
  simp [allPostings, find?, Std.ExtTreeMap.mem_toList_iff_getElem?_eq_some]

theorem lastDocument_le_iff {index : Index} {bound : Nat} :
    index.lastDocument ≤ bound ↔ ∀ posting ∈ index.allPostings, posting.document ≤ bound := by
  rw [lastDocument]
  cases hmax : (index.allPostings.map (·.document)).max? with
  | none => simp [List.map_eq_nil_iff.mp (List.max?_eq_none_iff.mp hmax)]
  | some last =>
      rw [Option.getD_some, List.max?_le_iff hmax]
      simp

/-! ## Sums over the terms of a map -/

/-- The sum of the frequencies under each term of a map. -/
def totalOccurrences (postings : Std.ExtTreeMap String PostingList) : Nat :=
  (postings.toList.map (·.2.occurrences)).sum

theorem occurrences_eq_total (index : Index) :
    index.occurrences = totalOccurrences index.postings := by
  rw [occurrences, allPostings, totalOccurrences]
  induction index.postings.toList with
  | nil => rfl
  | cons entry rest ih =>
      rw [List.flatMap_cons, List.map_append, List.sum_append, ih, List.map_cons, List.sum_cons,
        PostingList.occurrences_eq_sum]

/-- Terms that the map does not hold may take part in the sum. -/
theorem totalOccurrences_eq_sum {postings : Std.ExtTreeMap String PostingList}
    {terms : Finset String} (hterms : ∀ term ∈ postings, term ∈ terms) :
    totalOccurrences postings =
      ∑ term ∈ terms, (postings[term]?.getD PostingList.empty).occurrences := by
  have hkeys : postings.toList.map (·.2.occurrences) =
      postings.keys.map fun term => (postings[term]?.getD PostingList.empty).occurrences := by
    rw [← Std.ExtTreeMap.map_fst_toList_eq_keys, List.map_map]
    apply List.map_congr_left
    rintro ⟨term, list⟩ hmem
    rw [Function.comp_apply, Std.ExtTreeMap.mem_toList_iff_getElem?_eq_some.mp hmem,
      Option.getD_some]
  rw [totalOccurrences, hkeys, ← List.sum_toFinset _ Std.ExtTreeMap.nodup_keys]
  apply Finset.sum_subset
  · intro term hmem
    exact hterms term (Std.ExtTreeMap.mem_keys.mp (List.mem_toFinset.mp hmem))
  · intro term _ habsent
    rw [List.mem_toFinset, Std.ExtTreeMap.mem_keys] at habsent
    rw [Std.ExtTreeMap.getElem?_eq_none habsent]
    rfl

/-- The frequencies that a posting of a document would replace. -/
def replaced (postings : Std.ExtTreeMap String PostingList) (term : String) (id : Nat) : Nat :=
  (((postings[term]?.getD PostingList.empty).postings.toList.filter
    (·.document = id)).map (·.frequency)).sum

/-- A posting replaces nothing under a term without postings of its document. -/
theorem replaced_eq_zero {postings : Std.ExtTreeMap String PostingList} {term : String} {id : Nat}
    (hfresh : ∀ list : PostingList, postings[term]? = some list → ∀ posting ∈ list.postings,
      posting.document ≠ id) :
    replaced postings term id = 0 := by
  rw [replaced, List.filter_eq_nil_iff.mpr]
  · rfl
  · intro posting hmem
    cases hfind : postings[term]? with
    | none => simp [hfind, PostingList.empty] at hmem
    | some list =>
        rw [hfind, Option.getD_some, Array.mem_toList_iff] at hmem
        simpa using hfresh list hfind posting hmem

/-- Adding a posting keeps every list in order. -/
theorem ascends_addPosting {postings : Std.ExtTreeMap String PostingList}
    (hascends : ∀ term : String, (postings[term]?.getD PostingList.empty).Ascends) (term : String)
    (posting : Posting) (other : String) :
    ((addPosting postings term posting)[other]?.getD PostingList.empty).Ascends := by
  rw [getElem?_addPosting]
  split
  · exact PostingList.ascends_add (hascends term) posting
  · exact hascends other

/-- One posting adds its frequency and takes away what it replaces. -/
theorem totalOccurrences_addPosting {postings : Std.ExtTreeMap String PostingList} {term : String}
    (hascends : (postings[term]?.getD PostingList.empty).Ascends) (posting : Posting) :
    totalOccurrences (addPosting postings term posting) +
        replaced postings term posting.document =
      totalOccurrences postings + posting.frequency := by
  have hbefore : ∀ other ∈ postings, other ∈ insert term postings.keys.toFinset := by
    intro other hmem
    simp [hmem]
  have hafter : ∀ other ∈ addPosting postings term posting,
      other ∈ insert term postings.keys.toFinset := by
    intro other hmem
    rw [addPosting, Std.ExtTreeMap.mem_alter] at hmem
    by_cases heq : term = other
    · simp [heq]
    · simp_all
  rw [totalOccurrences_eq_sum hbefore, totalOccurrences_eq_sum hafter,
    ← Finset.add_sum_erase _ _ (Finset.mem_insert_self term _),
    ← Finset.add_sum_erase _ _ (Finset.mem_insert_self term _)]
  have hrest : ∀ other ∈ (insert term postings.keys.toFinset).erase term,
      ((addPosting postings term posting)[other]?.getD PostingList.empty).occurrences =
        (postings[other]?.getD PostingList.empty).occurrences := by
    intro other hmem
    rw [getElem?_addPosting, if_neg (Ne.symm (Finset.ne_of_mem_erase hmem))]
  have hadd := PostingList.occurrences_add hascends posting
  rw [Finset.sum_congr rfl hrest, getElem?_addPosting, if_pos rfl, Option.getD_some, replaced]
  omega

/-- The counts of a document add their sum and take away what their postings replace. -/
theorem totalOccurrences_addCounts {postings : Std.ExtTreeMap String PostingList}
    (hascends : ∀ term : String, (postings[term]?.getD PostingList.empty).Ascends) (id : Nat)
    {counts : List (String × Nat)} (hdistinct : (counts.map (·.1)).Nodup) :
    totalOccurrences (addCounts postings id counts) +
        (counts.map fun entry => replaced postings entry.1 id).sum =
      totalOccurrences postings + (counts.map (·.2)).sum := by
  induction counts generalizing postings with
  | nil => rfl
  | cons entry rest ih =>
      rw [List.map_cons, List.nodup_cons] at hdistinct
      have hstep := totalOccurrences_addPosting (hascends entry.1) ⟨id, entry.2⟩
      have hrun := ih (ascends_addPosting hascends entry.1 ⟨id, entry.2⟩) hdistinct.2
      have hrest : (rest.map fun entry' => replaced (addPosting postings entry.1 ⟨id, entry.2⟩)
          entry'.1 id) = rest.map fun entry' => replaced postings entry'.1 id := by
        apply List.map_congr_left
        intro other hmem
        have hother : entry.1 ≠ other.1 := by
          intro heq
          exact hdistinct.1 (List.mem_map.mpr ⟨other, hmem, heq.symm⟩)
        rw [replaced, getElem?_addPosting, if_neg hother, replaced]
      rw [hrest] at hrun
      show totalOccurrences (addCounts (addPosting postings entry.1 ⟨id, entry.2⟩) id rest) + _ = _
      rw [List.map_cons, List.sum_cons, List.map_cons, List.sum_cons]
      simp only at hstep
      omega

/-- The counts of a tally sum to the number of tallied terms. -/
theorem sum_tally (terms : List String) :
    ((tally terms).toList.map (·.2)).sum = terms.length := by
  have hcounts : (tally terms).toList.map (·.2) =
      (tally terms).keys.map fun term => terms.count term := by
    rw [← Std.ExtTreeMap.map_fst_toList_eq_keys, List.map_map]
    apply List.map_congr_left
    rintro ⟨term, count⟩ hmem
    have hfind := Std.ExtTreeMap.mem_toList_iff_getElem?_eq_some.mp hmem
    rw [getElem?_tally] at hfind
    split at hfind
    · exact (Option.some.inj hfind).symm
    · cases hfind
  have hkeys : (tally terms).keys.toFinset = terms.toFinset := by
    ext term
    rw [List.mem_toFinset, Std.ExtTreeMap.mem_keys, ← Std.ExtTreeMap.isSome_getElem?_iff_mem,
      getElem?_tally, List.mem_toFinset]
    by_cases hmem : term ∈ terms <;> simp [hmem]
  rw [hcounts, ← List.sum_toFinset _ Std.ExtTreeMap.nodup_keys, hkeys]
  exact List.sum_toFinset_count_eq_length terms

/-- What a document's postings would replace. -/
def replacedBy (index : Index) (id : Nat) (terms : List String) : Nat :=
  ((tally (terms.filter isStorable)).toList.map fun entry =>
    replaced index.postings entry.1 id).sum

/-- A document adds the number of its storable terms and takes away what it replaces. -/
theorem occurrences_addTerms {index : Index}
    (hascends : ∀ term, (index.postingsOf term).Ascends) (id : Nat)
    (terms : List String) :
    (index.addTerms id terms).occurrences + replacedBy index id terms =
      index.occurrences + (terms.filter isStorable).length := by
  rw [occurrences_eq_total, occurrences_eq_total, ← sum_tally]
  apply totalOccurrences_addCounts hascends
  rw [Std.ExtTreeMap.map_fst_toList_eq_keys]
  exact Std.ExtTreeMap.nodup_keys

/-- A document without postings so far replaces nothing. -/
theorem replacedBy_eq_zero {index : Index} {id : Nat}
    (hfresh : ∀ posting ∈ index.allPostings, posting.document ≠ id) (terms : List String) :
    replacedBy index id terms = 0 := by
  rw [replacedBy, List.sum_eq_zero]
  intro count hmem
  obtain ⟨entry, -, rfl⟩ := List.mem_map.mp hmem
  apply replaced_eq_zero
  intro list hfind posting hposting
  exact hfresh posting (mem_allPostings.mpr ⟨entry.1, list, hfind, hposting⟩)

/-! ## Runs -/

variable {preprocessor : Preprocessor} {documents : List (Nat × String)}

/-- After every run, every list ascends. -/
theorem ascends_ofDocuments (preprocessor : Preprocessor) (documents : List (Nat × String))
    (term : String) :
    ((ofDocuments preprocessor documents).postingsOf term).Ascends := by
  cases hfind : (ofDocuments preprocessor documents).find? term with
  | none =>
      rw [postingsOf_of_find?_none hfind]
      exact PostingList.ascends_empty
  | some list =>
      rw [postingsOf_of_find?_some hfind]
      exact (content_of_find? hfind).2.1.ascends

/-- Every posting comes from a document that was added. -/
theorem exists_of_mem_allPostings {posting : Posting}
    (hmem : posting ∈ (ofDocuments preprocessor documents).allPostings) :
    ∃ term text, isStorable term ∧ (posting.document, text) ∈ documents ∧
      term ∈ preprocessor.terms text ∧
      posting.frequency = (preprocessor.terms text).count term := by
  obtain ⟨term, list, hfind, hposting⟩ := mem_allPostings.mp hmem
  obtain ⟨hstorable, hcontent, -⟩ := content_of_find? hfind
  obtain ⟨text, hlast, hfrequency⟩ := (hcontent.mem_iff posting).mp hposting
  obtain ⟨hdocument, hterm⟩ := mem_of_lastEmitting? hlast
  exact ⟨term, text, hstorable, hdocument, hterm, hfrequency⟩

/-- The document counter is at least every id. -/
theorem le_documentCount_ofDocuments {document : Nat × String} (hmem : document ∈ documents) :
    document.1 ≤ (ofDocuments preprocessor documents).documentCount := by
  induction documents using List.reverseRecOn with
  | nil => simp at hmem
  | append_singleton documents last ih =>
      rw [ofDocuments_concat]
      rcases List.mem_append.mp hmem with hmem | hlast
      · exact Nat.le_trans (ih hmem) (Nat.le_max_left _ _)
      · rw [List.mem_singleton.mp hlast]
        exact Nat.le_max_right _ _

/-- The document counter is at least the last document of the postings. -/
theorem lastDocument_ofDocuments_le (preprocessor : Preprocessor)
    (documents : List (Nat × String)) :
    (ofDocuments preprocessor documents).lastDocument ≤
      (ofDocuments preprocessor documents).documentCount := by
  rw [lastDocument_le_iff]
  intro posting hposting
  obtain ⟨-, text, -, hdocument, -⟩ := exists_of_mem_allPostings hposting
  exact le_documentCount_ofDocuments hdocument

/-- The token counter is at least the sum of the frequencies. -/
theorem occurrences_ofDocuments_le (preprocessor : Preprocessor)
    (documents : List (Nat × String)) :
    (ofDocuments preprocessor documents).occurrences ≤
      (ofDocuments preprocessor documents).tokenCount := by
  induction documents using List.reverseRecOn with
  | nil => exact Nat.le_refl _
  | append_singleton documents document ih =>
      have hstep := occurrences_addTerms (ascends_ofDocuments preprocessor documents) document.1
        (preprocessor.terms document.2)
      rw [ofDocuments_concat]
      show _ ≤ (ofDocuments preprocessor documents).tokenCount + _
      omega

/-- The token counter is the sum of the frequencies when no id comes twice. -/
theorem occurrences_ofDocuments (hdistinct : (documents.map (·.1)).Nodup) :
    (ofDocuments preprocessor documents).occurrences =
      (ofDocuments preprocessor documents).tokenCount := by
  induction documents using List.reverseRecOn with
  | nil => rfl
  | append_singleton documents document ih =>
      rw [List.map_append, List.nodup_append] at hdistinct
      obtain ⟨hbefore, -, hnew⟩ := hdistinct
      have hstep := occurrences_addTerms (ascends_ofDocuments preprocessor documents) document.1
        (preprocessor.terms document.2)
      rw [replacedBy_eq_zero, ih hbefore] at hstep
      · rw [ofDocuments_concat]
        exact hstep
      · intro posting hmem
        obtain ⟨-, text, -, hdocument, -⟩ := exists_of_mem_allPostings hmem
        exact hnew _ (List.mem_map.mpr ⟨_, hdocument, rfl⟩) _ (by simp)

end BooleanRetrieval.Index
