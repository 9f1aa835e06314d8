/-
# The figures of an index, counted again

The figures of an index are kept in different ways: there are as many terms as lists, the
postings are summed over the lists, and the other two counters run along with the additions.
Where no id comes twice, all of them can be counted from the documents, because the index then
has a posting for each pair of a document and a storable term that it emits, and no other.
-/

import BooleanRetrieval.Proofs.Database.Build
import BooleanRetrieval.Proofs.Index.Interchange
import BooleanRetrieval.Proofs.Index.Totals

namespace BooleanRetrieval.Index

section Recount

variable (preprocessor : Preprocessor) (documents : List (Nat × String))

/-- The figures of documents, counted from the terms that an index can hold. -/
def recount : Statistics where
  documents := largestId documents
  terms := (documents.flatMap (storableTerms preprocessor)).dedup.length
  postings :=
    (documents.map fun document => (storableTerms preprocessor document).dedup.length).sum
  tokens := (documents.map fun document => (storableTerms preprocessor document).length).sum

/-! ## Terms -/

/-- An index holds the distinct storable terms of the documents. -/
theorem size_postings_ofDocuments :
    (ofDocuments preprocessor documents).postings.size =
      (documents.flatMap (storableTerms preprocessor)).dedup.length := by
  rw [← Std.ExtTreeMap.length_keys]
  apply List.Perm.length_eq
  rw [List.perm_ext_iff_of_nodup Std.ExtTreeMap.nodup_keys (List.nodup_dedup _)]
  intro term
  rw [Std.ExtTreeMap.mem_keys, ← Std.ExtTreeMap.isSome_getElem?_iff_mem, List.mem_dedup,
    List.mem_flatMap]
  show ((ofDocuments preprocessor documents).find? term).isSome ↔ _
  rw [isSome_find?_ofDocuments]
  simp only [storableTerms, List.mem_filter]
  grind

/-! ## Postings -/

/-- The pairs of a term and a document for which an index has a posting. -/
def incidences (index : Index) : List (String × Nat) :=
  index.postings.toList.flatMap fun entry =>
    entry.2.postings.toList.map fun posting => (entry.1, posting.document)

/-- The pairs of a storable term and a document that emits it. -/
def emissions : List (String × Nat) :=
  documents.flatMap fun document =>
    (storableTerms preprocessor document).dedup.map fun term => (term, document.1)

theorem statistics_postings (index : Index) :
    index.statistics.postings = index.incidences.length := by
  rw [statistics, Std.ExtTreeMap.foldl_eq_foldl_toList, incidences, List.length_flatMap,
    List.sum_eq_foldl, List.foldl_map]
  simp only [List.length_map, Array.length_toList]
  rfl

theorem length_emissions :
    (emissions preprocessor documents).length = (recount preprocessor documents).postings := by
  simp only [emissions, recount, List.length_flatMap, List.length_map]

theorem mem_incidences {index : Index} {term : String} {id : Nat} :
    (term, id) ∈ index.incidences ↔ id ∈ index.documents term := by
  rw [incidences, List.mem_flatMap, Index.documents]
  refine ⟨?_, ?_⟩
  · rintro ⟨⟨other, list⟩, hentry, hpair⟩
    obtain ⟨posting, hposting, hpair⟩ := List.mem_map.mp hpair
    obtain ⟨rfl, rfl⟩ := Prod.mk.inj hpair
    have hfind : index.find? other = some list :=
      Std.ExtTreeMap.mem_toList_iff_getElem?_eq_some.mp hentry
    rw [hfind]
    exact PostingList.mem_documents.mpr ⟨posting, by simpa using hposting, rfl⟩
  · cases hfind : index.find? term with
    | none => simp
    | some list =>
        intro hid
        obtain ⟨posting, hposting, rfl⟩ := PostingList.mem_documents.mp hid
        exact ⟨(term, list), Std.ExtTreeMap.mem_toList_iff_getElem?_eq_some.mpr hfind,
          List.mem_map.mpr ⟨posting, by simpa using hposting, rfl⟩⟩

theorem mem_emissions {term : String} {id : Nat} :
    (term, id) ∈ emissions preprocessor documents ↔
      isStorable term ∧ ∃ text, (id, text) ∈ documents ∧ term ∈ preprocessor.terms text := by
  simp only [emissions, storableTerms, List.mem_flatMap, List.mem_map, List.mem_dedup,
    List.mem_filter, Prod.mk.injEq, Prod.exists]
  grind

/-- Rows without repetitions, each with entries of its own key, have none together. -/
theorem nodup_flatMap_of_key {α β γ : Type} {items : List α} {row : α → List β} (key : α → γ)
    (keyOf : β → γ) (hkeys : (items.map key).Nodup) (hrows : ∀ item ∈ items, (row item).Nodup)
    (hrow : ∀ item, ∀ entry ∈ row item, keyOf entry = key item) :
    (items.flatMap row).Nodup := by
  refine List.nodup_flatMap.mpr ⟨hrows, (List.pairwise_map.mp hkeys).imp ?_⟩
  intro first second hne
  refine List.disjoint_left.mpr fun entry hfirst hsecond => hne ?_
  rw [← hrow first entry hfirst, hrow second entry hsecond]

/-- No pair comes twice in an index whose lists ascend. -/
theorem WellFormed.nodup_incidences {index : Index} (hindex : index.WellFormed) :
    index.incidences.Nodup := by
  refine nodup_flatMap_of_key Prod.fst Prod.fst ?_ ?_ ?_
  · rw [Std.ExtTreeMap.map_fst_toList_eq_keys]
    exact Std.ExtTreeMap.nodup_keys
  · rintro ⟨term, list⟩ hentry
    have hascends : list.Ascends :=
      (hindex term list (Std.ExtTreeMap.mem_toList_iff_getElem?_eq_some.mp hentry)).ascends
    refine List.pairwise_map.mpr (hascends.imp ?_)
    intro first second hlt hpair
    exact absurd (Prod.mk.inj hpair).2 (Nat.ne_of_lt hlt)
  · intro entry pair hpair
    obtain ⟨_, -, rfl⟩ := List.mem_map.mp hpair
    rfl

variable {documents}

/-- No pair comes twice from documents with different ids. -/
theorem nodup_emissions (hdistinct : (documents.map (·.1)).Nodup) :
    (emissions preprocessor documents).Nodup := by
  refine nodup_flatMap_of_key Prod.fst Prod.snd hdistinct ?_ ?_
  · intro document _
    exact (List.nodup_dedup _).map fun first second hpair => (Prod.mk.inj hpair).1
  · intro document pair hpair
    obtain ⟨_, -, rfl⟩ := List.mem_map.mp hpair
    rfl

/-- An index of documents with different ids has a posting for each pair that they emit. -/
theorem incidences_perm (hdistinct : (documents.map (·.1)).Nodup) :
    (ofDocuments preprocessor documents).incidences.Perm (emissions preprocessor documents) := by
  rw [List.perm_ext_iff_of_nodup (wellFormed_ofDocuments preprocessor documents).nodup_incidences
    (nodup_emissions preprocessor hdistinct)]
  rintro ⟨term, id⟩
  rw [mem_incidences, mem_documents_ofDocuments, mem_emissions]

/-! ## Figures -/

/-- The figures of an index of documents with different ids can be counted from the documents. -/
theorem statistics_eq_recount (hdistinct : (documents.map (·.1)).Nodup) :
    (ofDocuments preprocessor documents).statistics = recount preprocessor documents := by
  have hpostings : (ofDocuments preprocessor documents).statistics.postings =
      (recount preprocessor documents).postings := by
    rw [statistics_postings, (incidences_perm preprocessor hdistinct).length_eq, length_emissions]
  have htokens : (ofDocuments preprocessor documents).tokenCount =
      (recount preprocessor documents).tokens := by
    rw [tokenCount_ofDocuments, recount]
    simp only [storableTerms, List.countP_eq_length_filter]
  rw [Statistics.mk.injEq]
  exact ⟨documentCount_ofDocuments preprocessor documents,
    size_postings_ofDocuments preprocessor documents, hpostings, htokens⟩

end Recount

/-! ## Corpora -/

/-- Documents of a corpus bear the ids from 1 on. -/
theorem map_fst_idTexts_numbered (documents : List (String × String)) :
    (idTexts (numbered documents)).map (·.1) = List.range' 1 documents.length := by
  rw [idTexts, numbered, List.map_map, List.map_map]
  exact List.zipIdx_map_snd 1 documents

/-- So the largest id is their number. -/
theorem largestId_idTexts_numbered (documents : List (String × String)) :
    largestId (idTexts (numbered documents)) = documents.length := by
  rw [largestId, map_fst_idTexts_numbered]
  cases documents with
  | nil => rfl
  | cons first rest =>
      have hmax : (List.range' 1 (first :: rest).length).max? = some (first :: rest).length := by
        rw [List.max?_eq_some_iff]
        simp only [List.mem_range'_1, List.length_cons]
        exact ⟨by omega, fun id hid => by omega⟩
      rw [hmax, Option.getD_some]

/-- The figures of an index agree with a count over the documents, if no id comes twice, and the
tokens are the occurrences that its postings record.  The index of a corpus whose documents can be
read is one of these, with as many documents as the corpus has, terms or not. -/
theorem statistics_agree_with_recount (preprocessor : Preprocessor) :
    (∀ documents : List (Nat × String), (documents.map (·.1)).Nodup →
      (ofDocuments preprocessor documents).statistics = recount preprocessor documents ∧
        (ofDocuments preprocessor documents).statistics.tokens =
          (ofDocuments preprocessor documents).occurrences) ∧
    ∀ (tree : FileTree) (documents : List (String × String)),
      (∀ document ∈ documents, tree.Reads document.1 document.2) →
      ∃ index,
        ((Corpus.ofPaths (documents.map (·.1))).buildIndex (m := StateM FileTree)
          preprocessor).run.run tree = (.ok index, tree) ∧
        index.statistics = recount preprocessor (idTexts (numbered documents)) ∧
        index.statistics.tokens = index.occurrences ∧
        index.statistics.documents = documents.length := by
  have hfigures : ∀ documents : List (Nat × String), (documents.map (·.1)).Nodup →
      (ofDocuments preprocessor documents).statistics = recount preprocessor documents ∧
        (ofDocuments preprocessor documents).statistics.tokens =
          (ofDocuments preprocessor documents).occurrences := fun documents hdistinct =>
    ⟨statistics_eq_recount preprocessor hdistinct, (occurrences_ofDocuments hdistinct).symm⟩
  refine ⟨hfigures, fun tree documents hreads => ?_⟩
  have hdistinct : ((idTexts (numbered documents)).map (·.1)).Nodup := by
    rw [map_fst_idTexts_numbered]
    exact List.nodup_range'
  obtain ⟨hrecount, htokens⟩ := hfigures _ hdistinct
  refine ⟨_, run_buildIndex preprocessor hreads, hrecount, htokens, ?_⟩
  rw [hrecount, recount, largestId_idTexts_numbered]

/-- Ids out of order and one document without terms; then a corpus of two documents, of which the
last has no terms. -/
theorem statistics_agree_with_recount_out_of_order :
    let index := ofDocuments .reversed [(7, "one two one"), (9, " "), (4, "two three")]
    let tree := (FileTree.empty.plant ["a"] (.file "one two one".toUTF8)).plant ["b"]
      (.file " ".toUTF8)
    (index.statistics = ⟨9, 3, 4, 5⟩ ∧ index.statistics.tokens = index.occurrences) ∧
      ∃ index,
        ((Corpus.ofPaths ["a", "b"]).buildIndex (m := StateM FileTree) .reversed).run.run tree =
          (.ok index, tree) ∧ index.statistics = ⟨2, 2, 2, 3⟩ := by
  intro index tree
  obtain ⟨hfigures, hcorpora⟩ := statistics_agree_with_recount .reversed
  have hreads : ∀ document ∈ [("a", "one two one"), ("b", " ")],
      tree.Reads document.1 document.2 := by
    intro document hmem
    rcases List.mem_pair.mp hmem with rfl | rfl
    · show (tree.read "a").bind decodeText = .ok "one two one"
      cbv
    · show (tree.read "b").bind decodeText = .ok " "
      cbv
  obtain ⟨hrecount, htokens⟩ :=
    hfigures [(7, "one two one"), (9, " "), (4, "two three")] (by decide)
  obtain ⟨built, hbuild, hbuilt, -, -⟩ := hcorpora tree _ hreads
  have hfirst : recount .reversed [(7, "one two one"), (9, " "), (4, "two three")] =
      ⟨9, 3, 4, 5⟩ := by
    rw [Statistics.mk.injEq]
    cbv
  have hsecond : recount .reversed (idTexts (numbered [("a", "one two one"), ("b", " ")])) =
      ⟨2, 2, 2, 3⟩ := by
    rw [Statistics.mk.injEq]
    cbv
  exact ⟨⟨hrecount.trans hfirst, htokens⟩, built, hbuild, hbuilt.trans hsecond⟩

end BooleanRetrieval.Index
