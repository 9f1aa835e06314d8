/-
# What an index holds

The postings of a term change only when a document is added that emits the term,
and then by one posting.  So an index built from any sequence of documents, also
with ids out of order or given twice, holds under a storable term exactly one
posting for each id with which the term was emitted, made from the last such
document.
-/

import BooleanRetrieval.Index
import BooleanRetrieval.Proofs.Posting

namespace BooleanRetrieval.Index

/-- The postings of a term that is looked up, none if the index does not hold it. -/
def postingsOf (index : Index) (term : String) : PostingList :=
  (index.find? term).getD PostingList.empty

theorem postingsOf_of_find?_none {index : Index} {term : String}
    (hfind : index.find? term = none) : index.postingsOf term = PostingList.empty := by
  rw [postingsOf, hfind, Option.getD_none]

theorem postingsOf_of_find?_some {index : Index} {term : String} {list : PostingList}
    (hfind : index.find? term = some list) : index.postingsOf term = list := by
  rw [postingsOf, hfind, Option.getD_some]

/-! ## One posting, one document -/

theorem getElem?_addPosting (postings : Std.ExtTreeMap String PostingList) (term other : String)
    (posting : Posting) :
    (addPosting postings term posting)[other]? =
      if term = other then some ((postings[term]?.getD PostingList.empty).add posting)
      else postings[other]? := by
  rw [addPosting, Std.ExtTreeMap.getElem?_alter]
  simp

/-- Counts of other terms leave the postings of a term alone. -/
theorem getElem?_addCounts_of_not_mem (postings : Std.ExtTreeMap String PostingList) (id : Nat)
    {counts : List (String × Nat)} {term : String} (habsent : term ∉ counts.map (·.1)) :
    (addCounts postings id counts)[term]? = postings[term]? := by
  induction counts generalizing postings with
  | nil => rfl
  | cons entry rest ih =>
      simp only [List.map_cons, List.mem_cons, not_or] at habsent
      have hstep := ih (addPosting postings entry.1 ⟨id, entry.2⟩) habsent.2
      rw [getElem?_addPosting, if_neg (Ne.symm habsent.1)] at hstep
      exact hstep

/-- Whatever the order of the counts, each adds one posting to its term. -/
theorem getElem?_addCounts_of_mem (postings : Std.ExtTreeMap String PostingList) (id : Nat)
    {counts : List (String × Nat)} (hdistinct : (counts.map (·.1)).Nodup) {term : String}
    {count : Nat} (hmem : (term, count) ∈ counts) :
    (addCounts postings id counts)[term]? =
      some ((postings[term]?.getD PostingList.empty).add ⟨id, count⟩) := by
  induction counts generalizing postings with
  | nil => simp at hmem
  | cons entry rest ih =>
      rw [List.map_cons, List.nodup_cons] at hdistinct
      show (addCounts (addPosting postings entry.1 ⟨id, entry.2⟩) id rest)[term]? = _
      rcases List.mem_cons.mp hmem with rfl | hrest
      · rw [getElem?_addCounts_of_not_mem _ id hdistinct.1, getElem?_addPosting, if_pos rfl]
      · have hother : entry.1 ≠ term := by
          rintro rfl
          exact hdistinct.1 (List.mem_map.mpr ⟨_, hrest, rfl⟩)
        rw [ih _ hdistinct.2 hrest, getElem?_addPosting, if_neg hother]

/-- A document adds one posting to each of its storable terms. -/
theorem find?_addTerms (index : Index) (id : Nat) (terms : List String) (term : String) :
    (index.addTerms id terms).find? term =
      if isStorable term ∧ term ∈ terms then
        some ((index.postingsOf term).add ⟨id, terms.count term⟩)
      else index.find? term := by
  have hdistinct : ((tally (terms.filter isStorable)).toList.map (·.1)).Nodup := by
    rw [Std.ExtTreeMap.map_fst_toList_eq_keys]
    exact Std.ExtTreeMap.nodup_keys
  have htally := getElem?_tally (terms.filter isStorable) term
  simp only [postingsOf, find?, addTerms]
  by_cases hkept : isStorable term ∧ term ∈ terms
  · rw [if_pos (List.mem_filter.mpr hkept.symm), List.count_filter hkept.1] at htally
    rw [if_pos hkept, getElem?_addCounts_of_mem _ id hdistinct
      (Std.ExtTreeMap.mem_toList_iff_getElem?_eq_some.mpr htally)]
  · rw [if_neg fun hmem => hkept (List.mem_filter.mp hmem).symm] at htally
    rw [if_neg hkept, getElem?_addCounts_of_not_mem]
    rw [Std.ExtTreeMap.map_fst_toList_eq_keys, Std.ExtTreeMap.mem_keys,
      ← Std.ExtTreeMap.isSome_getElem?_iff_mem, htally]
    simp

/-- The postings of each term after a document. -/
theorem postingsOf_addTerms (index : Index) (id : Nat) (terms : List String) (term : String) :
    (index.addTerms id terms).postingsOf term =
      if isStorable term ∧ term ∈ terms then
        (index.postingsOf term).add ⟨id, terms.count term⟩
      else index.postingsOf term := by
  rw [postingsOf, find?_addTerms]
  split
  · rfl
  · rfl

/-! ## Building from documents -/

/-- Whether a document has a given id and emits a given term. -/
def emits (preprocessor : Preprocessor) (id : Nat) (term : String) (document : Nat × String) :
    Bool :=
  document.1 = id && (preprocessor.terms document.2).contains term

/-- The text of the last document that has a given id and emits a given term. -/
def lastEmitting? (preprocessor : Preprocessor) (documents : List (Nat × String)) (id : Nat)
    (term : String) : Option String :=
  (documents.reverse.find? (emits preprocessor id term)).map (·.2)

/-- The postings of a term are in order, and they are those of the last documents that
emit the term. -/
structure Content (preprocessor : Preprocessor) (documents : List (Nat × String))
    (term : String) (list : PostingList) : Prop where
  ascends : list.Ascends
  mem_iff (posting : Posting) : posting ∈ list.postings ↔
    ∃ text, lastEmitting? preprocessor documents posting.document term = some text ∧
      posting.frequency = (preprocessor.terms text).count term

variable {preprocessor : Preprocessor} {documents : List (Nat × String)} {term : String}

/-- The last document is the last to be added. -/
theorem ofDocuments_concat (preprocessor : Preprocessor) (documents : List (Nat × String))
    (document : Nat × String) :
    ofDocuments preprocessor (documents ++ [document]) =
      (ofDocuments preprocessor documents).addTerms document.1
        (preprocessor.terms document.2) := by
  simp [ofDocuments, addDocument]

theorem emits_eq_true_iff {id : Nat} {document : Nat × String} :
    emits preprocessor id term document ↔
      document.1 = id ∧ term ∈ preprocessor.terms document.2 := by
  simp [emits]

theorem lastEmitting?_concat (document : Nat × String) (id : Nat) :
    lastEmitting? preprocessor (documents ++ [document]) id term =
      if emits preprocessor id term document then some document.2
      else lastEmitting? preprocessor documents id term := by
  rw [lastEmitting?, List.reverse_concat, List.find?_cons]
  cases emits preprocessor id term document <;> rfl

/-- The last document is one of the documents. -/
theorem mem_of_lastEmitting? {id : Nat} {text : String}
    (hlast : lastEmitting? preprocessor documents id term = some text) :
    (id, text) ∈ documents ∧ term ∈ preprocessor.terms text := by
  obtain ⟨document, hfind, rfl⟩ := Option.map_eq_some_iff.mp hlast
  obtain ⟨rfl, hterm⟩ := emits_eq_true_iff.mp (List.find?_some hfind)
  exact ⟨List.mem_reverse.mp (List.mem_of_find?_eq_some hfind), hterm⟩

/-- If a document emits a term, a last one does. -/
theorem exists_lastEmitting? {document : Nat × String} (hmem : document ∈ documents)
    (hterm : term ∈ preprocessor.terms document.2) :
    ∃ text, lastEmitting? preprocessor documents document.1 term = some text := by
  cases hfind : documents.reverse.find? (emits preprocessor document.1 term) with
  | none =>
      have hnone := List.find?_eq_none.mp hfind document (List.mem_reverse.mpr hmem)
      exact absurd (emits_eq_true_iff.mpr ⟨rfl, hterm⟩) hnone
  | some last => exact ⟨last.2, by rw [lastEmitting?, hfind, Option.map_some]⟩

/-- A document that emits the term adds a posting. -/
theorem Content.add {list : PostingList} (hcontent : Content preprocessor documents term list)
    {document : Nat × String} (hterm : term ∈ preprocessor.terms document.2) :
    Content preprocessor (documents ++ [document]) term
      (list.add ⟨document.1, (preprocessor.terms document.2).count term⟩) where
  ascends := PostingList.ascends_add hcontent.ascends _
  mem_iff posting := by
    obtain ⟨id, frequency⟩ := posting
    rw [PostingList.mem_add hcontent.ascends, hcontent.mem_iff, lastEmitting?_concat]
    simp only [emits_eq_true_iff, hterm, and_true, Posting.mk.injEq]
    by_cases hid : document.1 = id
    · simp [hid]
    · simp [hid, Ne.symm hid]

/-- A document that does not emit the term changes nothing. -/
theorem Content.keep {list : PostingList} (hcontent : Content preprocessor documents term list)
    {document : Nat × String} (hterm : term ∉ preprocessor.terms document.2) :
    Content preprocessor (documents ++ [document]) term list where
  ascends := hcontent.ascends
  mem_iff posting := by
    rw [hcontent.mem_iff, lastEmitting?_concat]
    simp only [emits_eq_true_iff, hterm, and_false, if_false]

/-- After every run, a storable term has the postings of the last documents that emit it. -/
theorem content_ofDocuments (preprocessor : Preprocessor) (documents : List (Nat × String))
    (hstorable : isStorable term) :
    Content preprocessor documents term
      ((ofDocuments preprocessor documents).postingsOf term) := by
  induction documents using List.reverseRecOn with
  | nil =>
      refine ⟨PostingList.ascends_empty, fun posting => ?_⟩
      simp [ofDocuments, postingsOf, find?, empty, PostingList.empty, lastEmitting?]
  | append_singleton documents document ih =>
      rw [ofDocuments_concat, postingsOf_addTerms]
      by_cases hterm : term ∈ preprocessor.terms document.2
      · rw [if_pos ⟨hstorable, hterm⟩]
        exact ih.add hterm
      · rw [if_neg fun hkept => hterm hkept.2]
        exact ih.keep hterm

/-- An index holds the storable terms that some document emits. -/
theorem isSome_find?_ofDocuments (preprocessor : Preprocessor) (documents : List (Nat × String))
    (term : String) :
    ((ofDocuments preprocessor documents).find? term).isSome ↔
      isStorable term ∧ ∃ document ∈ documents, term ∈ preprocessor.terms document.2 := by
  induction documents using List.reverseRecOn with
  | nil => simp [ofDocuments, find?, empty]
  | append_singleton documents document ih =>
      rw [ofDocuments_concat, find?_addTerms]
      by_cases hkept : isStorable term ∧ term ∈ preprocessor.terms document.2
      · simp [hkept]
      · rw [if_neg hkept, ih]
        constructor
        · intro hearlier
          rcases hearlier with ⟨hstorable, earlier, hmem, hterm⟩
          exact ⟨hstorable, earlier, List.mem_append_left _ hmem, hterm⟩
        · intro hemitted
          rcases hemitted with ⟨hstorable, earlier, hmem, hterm⟩
          rcases List.mem_append.mp hmem with hmem | hlast
          · exact ⟨hstorable, earlier, hmem, hterm⟩
          · rw [List.mem_singleton.mp hlast] at hterm
            exact absurd ⟨hstorable, hterm⟩ hkept

/-- A term that the index holds is storable, its list has the content of the last
documents, and it has a posting. -/
theorem content_of_find? {list : PostingList}
    (hfind : (ofDocuments preprocessor documents).find? term = some list) :
    isStorable term ∧ Content preprocessor documents term list ∧ list.isEmpty = false := by
  obtain ⟨hstorable, document, hmem, hterm⟩ :=
    (isSome_find?_ofDocuments preprocessor documents term).mp (by rw [hfind]; rfl)
  have hcontent := content_ofDocuments preprocessor documents hstorable
  rw [postingsOf_of_find?_some hfind] at hcontent
  refine ⟨hstorable, hcontent, ?_⟩
  obtain ⟨text, hlast⟩ := exists_lastEmitting? hmem hterm
  have hposting := (hcontent.mem_iff ⟨document.1, _⟩).mpr ⟨text, hlast, rfl⟩
  rw [PostingList.isEmpty_eq_false_iff]
  exact List.ne_nil_of_mem (Array.mem_toList_iff.mpr hposting)

/-- A document is found under the storable terms that it emits. -/
theorem mem_documents_ofDocuments {id : Nat} :
    id ∈ (ofDocuments preprocessor documents).documents term ↔
      isStorable term ∧ ∃ text, (id, text) ∈ documents ∧ term ∈ preprocessor.terms text := by
  rw [Index.documents]
  split
  · next list hfind =>
      obtain ⟨hstorable, hcontent, -⟩ := content_of_find? hfind
      rw [PostingList.mem_documents]
      constructor
      · intro hfound
        rcases hfound with ⟨posting, hposting, rfl⟩
        obtain ⟨text, hlast, -⟩ := (hcontent.mem_iff posting).mp hposting
        exact ⟨hstorable, text, mem_of_lastEmitting? hlast⟩
      · intro hemitted
        rcases hemitted with ⟨-, text, hmem, hterm⟩
        obtain ⟨last, hlast⟩ := exists_lastEmitting? hmem hterm
        exact ⟨⟨id, _⟩, (hcontent.mem_iff _).mpr ⟨last, hlast, rfl⟩, rfl⟩
  · next hfind =>
      have hnone := (isSome_find?_ofDocuments preprocessor documents term).not.mp (by simp [hfind])
      simp only [Std.ExtTreeSet.not_mem_empty, false_iff]
      intro hemitted
      rcases hemitted with ⟨hstorable, text, hmem, hterm⟩
      exact hnone ⟨hstorable, _, hmem, hterm⟩

end BooleanRetrieval.Index
