/-
# Posting lists as maps

A map from documents to frequencies, read in the order of documents, is a posting list.  To
add a posting to that list is to insert its frequency into the map, whether the posting goes to
the end or halving finds its place.  So a list that starts empty follows the map through any
additions: it has one posting for each document, the one that was added last.
-/

import BooleanRetrieval.Proofs.Posting

namespace BooleanRetrieval.PostingList

/-! ## The list of a map -/

/-- The postings of a map from documents to frequencies. -/
def ofMap (frequencies : Std.ExtTreeMap Nat Nat) : PostingList where
  postings := (frequencies.toList.map fun entry => ⟨entry.1, entry.2⟩).toArray

section Maps

variable (frequencies : Std.ExtTreeMap Nat Nat)

/-- A map is read in the order of documents. -/
theorem ascends_ofMap : (ofMap frequencies).Ascends :=
  List.pairwise_map.mpr (Std.ExtTreeMap.ordered_keys_toList.imp Nat.compare_eq_lt.mp)

theorem mem_ofMap {posting : Posting} :
    posting ∈ (ofMap frequencies).postings ↔
      frequencies[posting.document]? = some posting.frequency := by
  rw [ofMap, List.mem_toArray, List.mem_map, ← Std.ExtTreeMap.mem_toList_iff_getElem?_eq_some]
  exact ⟨fun ⟨_, hmem, hposting⟩ => hposting ▸ hmem, fun hmem => ⟨_, hmem, rfl⟩⟩

/-- To add a posting to the list of a map is to insert it into the map. -/
theorem add_ofMap (posting : Posting) :
    (ofMap frequencies).add posting =
      ofMap (frequencies.insert posting.document posting.frequency) := by
  apply eq_of_ascends (ascends_add (ascends_ofMap frequencies) posting) (ascends_ofMap _)
  rintro ⟨document, frequency⟩
  obtain ⟨added, count⟩ := posting
  rw [mem_add (ascends_ofMap frequencies), mem_ofMap, mem_ofMap, Std.ExtTreeMap.getElem?_insert,
    Posting.mk.injEq]
  by_cases hsame : added = document
  · simp [hsame, eq_comm]
  · simp [hsame, Ne.symm hsame]

end Maps

/-- In a list that ascends, halving leads to the same place as a try at the end. -/
theorem place_eq_add {list : PostingList} (hascends : list.Ascends)
    (nonempty : 0 < list.postings.size) (posting : Posting) :
    place list.postings nonempty posting = (list.add posting).postings := by
  let placed : PostingList := ⟨place list.postings nonempty posting⟩
  have hplaced : placed.postings = place list.postings nonempty posting := rfl
  obtain ⟨before, same, after, hsplit, hlist⟩ := exists_split_place hascends hplaced
  apply Array.toList_inj.mp
  rw [toList_add hascends, hsplit.filter_lt, hsplit.filter_gt, ← hlist]

/-! ## Runs of additions -/

/-- The list after postings are added in order, from the start. -/
def ofAdditions (additions : List Posting) : PostingList :=
  additions.foldl add empty

/-- The posting of a document that was added last. -/
def AddedLast (additions : List Posting) (posting : Posting) : Prop :=
  ∃ earlier later, additions = earlier ++ posting :: later ∧
    ∀ other ∈ later, other.document ≠ posting.document

variable (additions : List Posting)

/-- What was added last before is still so, unless its document comes again. -/
theorem addedLast_concat {last posting : Posting} :
    AddedLast (additions ++ [last]) posting ↔
      posting = last ∨ (AddedLast additions posting ∧ posting.document ≠ last.document) := by
  refine ⟨?_, ?_⟩
  · rintro ⟨earlier, later, hcut, hlater⟩
    rcases List.eq_nil_or_concat later with rfl | ⟨rest, final, rfl⟩
    · have hlast := List.append_inj_right' hcut rfl
      exact .inl (List.singleton_inj.mp hlast).symm
    · have hsplit : additions ++ [last] = (earlier ++ posting :: rest) ++ [final] := by
        simpa using hcut
      obtain ⟨rfl, hfinal⟩ := List.append_inj' hsplit rfl
      obtain rfl := List.singleton_inj.mp hfinal
      exact .inr ⟨⟨earlier, rest, rfl, fun other hother => hlater other (by simp [hother])⟩,
        Ne.symm (hlater last (by simp))⟩
  · rintro (rfl | ⟨⟨earlier, later, rfl, hlater⟩, hother⟩)
    · exact ⟨additions, [], rfl, by simp⟩
    · refine ⟨earlier, later ++ [last], by simp, fun other hmem => ?_⟩
      rcases List.mem_append.mp hmem with hmem | hlast
      · exact hlater other hmem
      · rw [List.mem_singleton.mp hlast]
        exact Ne.symm hother

theorem ofAdditions_concat (last : Posting) :
    ofAdditions (additions ++ [last]) = (ofAdditions additions).add last := by
  rw [ofAdditions, List.foldl_concat, ofAdditions]

/-- The list follows the map into which the same postings are inserted. -/
theorem ofAdditions_eq_ofMap :
    ofAdditions additions =
      ofMap (additions.foldl
        (fun frequencies posting => frequencies.insert posting.document posting.frequency) ∅) := by
  induction additions using List.reverseRecOn with
  | nil => rfl
  | append_singleton additions last ih =>
      rw [ofAdditions_concat, ih, add_ofMap, List.foldl_concat]

theorem ascends_ofAdditions : (ofAdditions additions).Ascends := by
  rw [ofAdditions_eq_ofMap]
  exact ascends_ofMap _

/-- The list holds what was added last of each document. -/
theorem mem_ofAdditions {posting : Posting} :
    posting ∈ (ofAdditions additions).postings ↔ AddedLast additions posting := by
  induction additions using List.reverseRecOn with
  | nil => simp [ofAdditions, empty, AddedLast]
  | append_singleton additions last ih =>
      rw [ofAdditions_concat, mem_add (ascends_ofAdditions additions), ih, addedLast_concat]

/-- Documents are those that were added. -/
theorem mem_documents_ofAdditions {id : Nat} :
    id ∈ (ofAdditions additions).documents ↔ ∃ posting ∈ additions, posting.document = id := by
  induction additions using List.reverseRecOn with
  | nil => simp [ofAdditions, empty, documents]
  | append_singleton additions last ih =>
      rw [ofAdditions_concat, mem_documents_add (ascends_ofAdditions additions), ih]
      simp only [List.mem_append, List.mem_singleton]
      grind

/-- After any additions to the empty list, in whatever order of documents and with repetitions,
the list ascends; its documents are those that were added, each with the posting that was added
last; it is the list of the sorted map into which the same postings are inserted; and for the
next posting, halving and a try at the end lead to one list. -/
theorem ofAdditions_refines_map :
    (ofAdditions additions).Ascends ∧
      (∀ id, (∃ posting ∈ (ofAdditions additions).postings, posting.document = id) ↔
        ∃ posting ∈ additions, posting.document = id) ∧
      (∀ posting, posting ∈ (ofAdditions additions).postings ↔ AddedLast additions posting) ∧
      (∀ id, id ∈ (ofAdditions additions).documents ↔
        ∃ posting ∈ additions, posting.document = id) ∧
      (ofAdditions additions).postings.toList.map
          (fun posting => (posting.document, posting.frequency)) =
        (additions.foldl
          (fun frequencies posting => frequencies.insert posting.document posting.frequency)
          (∅ : Std.ExtTreeMap Nat Nat)).toList ∧
      ∀ nonempty posting, place (ofAdditions additions).postings nonempty posting =
        ((ofAdditions additions).add posting).postings := by
  refine ⟨ascends_ofAdditions additions, fun id => ?_, fun _ => mem_ofAdditions additions,
    fun _ => mem_documents_ofAdditions additions, ?_,
    place_eq_add (ascends_ofAdditions additions)⟩
  · rw [← mem_documents, mem_documents_ofAdditions]
  · rw [ofAdditions_eq_ofMap, ofMap, List.map_map]
    exact List.map_id' _

end BooleanRetrieval.PostingList
