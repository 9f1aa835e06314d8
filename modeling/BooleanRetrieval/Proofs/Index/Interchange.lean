/-
# The order of additions

Documents with different ids can be added in either order.  Each adds one posting to the
list of every term that it emits, and a list that ascends has the same place for a posting
whichever comes first; the counters are a maximum and a sum.  So what a sequence of
documents leaves depends, beyond the documents, only on the order among those that share an
id.  Nor does it matter in which order the counted terms of a document are gone through.
-/

import BooleanRetrieval.Proofs.Index.History

namespace BooleanRetrieval

/-! ## Posting lists -/

namespace PostingList

/-- Postings of different documents can be added in either order. -/
theorem add_comm {list : PostingList} (hascends : list.Ascends) {first second : Posting}
    (hne : first.document ≠ second.document) :
    (list.add first).add second = (list.add second).add first := by
  apply eq_of_ascends (ascends_add (ascends_add hascends first) second)
    (ascends_add (ascends_add hascends second) first)
  intro posting
  rw [mem_add (ascends_add hascends first), mem_add (ascends_add hascends second),
    mem_add hascends, mem_add hascends]
  grind

end PostingList

namespace Index

/-- Indexes are told apart by what they hold and by their counters. -/
theorem eq_of_find? {first second : Index} (hfind : ∀ term, first.find? term = second.find? term)
    (hdocuments : first.documentCount = second.documentCount)
    (htokens : first.tokenCount = second.tokenCount) : first = second := by
  rw [mk.injEq]
  exact ⟨Std.ExtTreeMap.ext_getElem? fun {term} => hfind term, hdocuments, htokens⟩

/-! ## Additions in any order of terms -/

/-- The terms of a document that an index can hold. -/
def storableTerms (preprocessor : Preprocessor) (document : Nat × String) : List String :=
  (preprocessor.terms document.2).filter isStorable

/-- What the addition of a document may leave if its counted terms come in some order. -/
def Adds (preprocessor : Preprocessor) (document : Nat × String) (index after : Index) : Prop :=
  ∃ counts, counts.Perm (tally (storableTerms preprocessor document)).toList ∧
    after =
      { postings := addCounts index.postings document.1 counts
        documentCount := max index.documentCount document.1
        tokenCount := index.tokenCount + (storableTerms preprocessor document).length }

/-- Counts of distinct terms can be added in any order. -/
theorem addCounts_perm (postings : Std.ExtTreeMap String PostingList) (id : Nat)
    {first second : List (String × Nat)} (hperm : first.Perm second)
    (hdistinct : (second.map (·.1)).Nodup) :
    addCounts postings id first = addCounts postings id second := by
  apply Std.ExtTreeMap.ext_getElem?
  intro term
  have hterms : term ∈ first.map (·.1) ↔ term ∈ second.map (·.1) := (hperm.map _).mem_iff
  by_cases hterm : term ∈ second.map (·.1)
  · obtain ⟨⟨_, count⟩, hmem, rfl⟩ := List.mem_map.mp hterm
    have hdistinct' : (first.map (·.1)).Nodup := (hperm.map _).nodup_iff.mpr hdistinct
    rw [getElem?_addCounts_of_mem _ _ hdistinct' (hperm.mem_iff.mpr hmem),
      getElem?_addCounts_of_mem _ _ hdistinct hmem]
  · rw [getElem?_addCounts_of_not_mem _ _ (hterms.not.mpr hterm),
      getElem?_addCounts_of_not_mem _ _ hterm]

/-- Whatever the order of its counted terms, a document leaves the same index. -/
theorem adds_iff {preprocessor : Preprocessor} {document : Nat × String} {index after : Index} :
    Adds preprocessor document index after ↔
      after = index.addDocument preprocessor document.1 document.2 := by
  constructor
  · intro hadds
    rcases hadds with ⟨counts, hperm, rfl⟩
    rw [addDocument, addTerms, addCounts_perm _ _ hperm]
    · rfl
    · rw [Std.ExtTreeMap.map_fst_toList_eq_keys]
      exact Std.ExtTreeMap.nodup_keys
  · intro hafter
    exact ⟨_, List.Perm.refl _, hafter⟩

/-! ## Runs -/

/-- A sequence of additions leads from one index to another. -/
inductive Run (preprocessor : Preprocessor) : List (Nat × String) → Index → Index → Prop
  | nil {index : Index} : Run preprocessor [] index index
  | cons {document : Nat × String} {rest : List (Nat × String)} {index middle after : Index} :
      Adds preprocessor document index middle → Run preprocessor rest middle after →
      Run preprocessor (document :: rest) index after

/-- An index to which additions lead, by whatever preprocessors. -/
inductive Reachable : Index → Prop
  | empty : Reachable .empty
  | add {preprocessor : Preprocessor} {document : Nat × String} {index after : Index} :
      Reachable index → Adds preprocessor document index after → Reachable after

/-- The index after documents are added in order. -/
def addAll (preprocessor : Preprocessor) (index : Index) (documents : List (Nat × String)) :
    Index :=
  documents.foldl (fun index (id, text) => index.addDocument preprocessor id text) index

theorem addAll_cons (preprocessor : Preprocessor) (index : Index) (document : Nat × String)
    (rest : List (Nat × String)) :
    index.addAll preprocessor (document :: rest) =
      (index.addDocument preprocessor document.1 document.2).addAll preprocessor rest := rfl

/-- A run has one outcome. -/
theorem run_iff {preprocessor : Preprocessor} {documents : List (Nat × String)}
    {index after : Index} :
    Run preprocessor documents index after ↔ after = index.addAll preprocessor documents := by
  induction documents generalizing index with
  | nil =>
      constructor
      · intro hrun
        cases hrun
        rfl
      · intro hafter
        rw [hafter]
        exact .nil
  | cons document rest ih =>
      rw [addAll_cons]
      constructor
      · intro hrun
        cases hrun with
        | cons hadds hrest =>
            obtain rfl := adds_iff.mp hadds
            exact ih.mp hrest
      · intro hafter
        exact .cons (adds_iff.mpr rfl) (ih.mpr hafter)

theorem WellFormed.addDocument {index : Index} (hindex : index.WellFormed)
    (preprocessor : Preprocessor) (id : Nat) (text : String) :
    (index.addDocument preprocessor id text).WellFormed :=
  hindex.addTerms id _

/-- An index that can be reached is well formed. -/
theorem Reachable.wellFormed {index : Index} (hreachable : index.Reachable) :
    index.WellFormed := by
  induction hreachable with
  | empty => exact wellFormed_empty
  | add _ hadds ih =>
      obtain rfl := adds_iff.mp hadds
      exact ih.addDocument _ _ _

/-! ## Interchange -/

variable {preprocessor : Preprocessor} {index : Index}

/-- Two documents with different ids can be added in either order. -/
theorem addDocument_comm (hindex : index.WellFormed) {first second : Nat × String}
    (hids : first.1 ≠ second.1) :
    (index.addDocument preprocessor first.1 first.2).addDocument preprocessor second.1 second.2 =
      (index.addDocument preprocessor second.1 second.2).addDocument preprocessor first.1
        first.2 := by
  apply eq_of_find?
  · intro term
    simp only [addDocument, find?_addTerms, postingsOf_addTerms]
    split
    · split
      · rw [PostingList.add_comm (hindex.postingsOf term).1 hids]
      · rfl
    · rfl
  · exact Nat.max_right_comm _ _ _
  · exact Nat.add_right_comm _ _ _

/-- A document can be added before documents with other ids. -/
theorem addAll_append_cons (hindex : index.WellFormed) {document : Nat × String}
    {before later : List (Nat × String)} (hids : ∀ earlier ∈ before, earlier.1 ≠ document.1) :
    index.addAll preprocessor (before ++ document :: later) =
      index.addAll preprocessor (document :: (before ++ later)) := by
  induction before generalizing index with
  | nil => rfl
  | cons first rest ih =>
      obtain ⟨hfirst, hrest⟩ := List.forall_mem_cons.mp hids
      rw [List.cons_append, addAll_cons, ih (hindex.addDocument _ _ _) hrest, addAll_cons,
        addDocument_comm hindex hfirst]
      rfl

/-- The documents of each id are the same in two sequences and come in the same order.  So the
sequences are permutations of each other. -/
def SameById (first second : List (Nat × String)) : Prop :=
  ∀ id, first.filter (·.1 = id) = second.filter (·.1 = id)

/-- The first document of a sequence is the first of its id in the other. -/
theorem SameById.exists_append_cons {document : Nat × String} {rest second : List (Nat × String)}
    (hsame : SameById (document :: rest) second) :
    ∃ before later, second = before ++ document :: later ∧
      (∀ earlier ∈ before, earlier.1 ≠ document.1) ∧ SameById rest (before ++ later) := by
  have hown := hsame document.1
  rw [List.filter_cons_of_pos (by simp), eq_comm, List.filter_eq_cons_iff] at hown
  obtain ⟨before, later, rfl, hbefore, -, -⟩ := hown
  have hother : ∀ earlier ∈ before, earlier.1 ≠ document.1 := by simpa using hbefore
  refine ⟨before, later, rfl, hother, fun id => ?_⟩
  have hid := hsame id
  rw [List.filter_append] at hid
  rw [List.filter_append]
  by_cases hdocument : document.1 = id
  · have hnone : before.filter (·.1 = id) = [] := by
      rw [← hdocument]
      simpa using hother
    simpa [hdocument, hnone] using hid
  · simpa [hdocument] using hid

/-- Only the order among documents of one id matters. -/
theorem addAll_eq_of_sameById (hindex : index.WellFormed) {first second : List (Nat × String)}
    (hsame : SameById first second) :
    index.addAll preprocessor first = index.addAll preprocessor second := by
  induction first generalizing index second with
  | nil =>
      cases second with
      | nil => rfl
      | cons document rest =>
          have hown := hsame document.1
          simp at hown
  | cons document rest ih =>
      obtain ⟨before, later, rfl, hids, hrest⟩ := hsame.exists_append_cons
      rw [addAll_append_cons hindex hids, addAll_cons, addAll_cons]
      exact ih (hindex.addDocument _ _ _) hrest

/-- On every index that can be reached, a run has one outcome whatever the order in which it goes
through the counted terms of a document; two documents with different ids can change places; and
so runs over the same documents, in the same order for each id, have the same outcome. -/
theorem additions_interchange (preprocessor : Preprocessor) {index : Index}
    (hreachable : index.Reachable) :
    (∀ documents after, Run preprocessor documents index after ↔
      after = index.addAll preprocessor documents) ∧
    (∀ first second : Nat × String, first.1 ≠ second.1 →
      (index.addDocument preprocessor first.1 first.2).addDocument preprocessor second.1
          second.2 =
        (index.addDocument preprocessor second.1 second.2).addDocument preprocessor first.1
          first.2) ∧
    ∀ first second, SameById first second → ∀ after,
      Run preprocessor first index after ↔ Run preprocessor second index after := by
  refine ⟨fun _ _ => run_iff, ?_, ?_⟩
  · intro first second hids
    exact addDocument_comm hreachable.wellFormed hids
  · intro first second hsame after
    rw [run_iff, run_iff, addAll_eq_of_sameById hreachable.wellFormed hsame]

/-- An id that comes twice, with another between and before, on an index that has a document. -/
theorem additions_interchange_between_revisions :
    let index := Index.empty.addDocument .reversed 2 "eno"
    (index.addAll .reversed [(3, "eno owt"), (1, "eno eno"), (3, "owt owt")]) =
      (index.addAll .reversed [(1, "eno eno"), (3, "eno owt"), (3, "owt owt")]) := by
  intro index
  have hadds : Adds .reversed (2, "eno") .empty index := adds_iff.mpr rfl
  have hsame : SameById [(3, "eno owt"), (1, "eno eno"), (3, "owt owt")]
      [(1, "eno eno"), (3, "eno owt"), (3, "owt owt")] := by
    intro id
    by_cases hid : 1 = id
    · subst hid
      decide
    · simp [hid, List.filter_cons]
  obtain ⟨hrun, -, hpermuted⟩ := additions_interchange .reversed (.add .empty hadds)
  exact (hrun _ _).mp ((hpermuted _ _ hsame _).mp ((hrun _ _).mpr rfl))

end Index

end BooleanRetrieval
