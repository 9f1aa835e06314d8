/-
# The one file of an index

What is written of an index depends on its postings only.  The entries of a map may be handed
out in any order; they are sorted by a strict total order of their distinct terms, so they end
up in one sequence, with a line for each term that has a posting and no other line.  No term
of an index that was built or read holds a line end, so these are the lines of the text.
-/

import BooleanRetrieval.Proofs.Index.File
import BooleanRetrieval.Proofs.Index.Interchange
import BooleanRetrieval.Proofs.Term

namespace BooleanRetrieval.Index

/-! ## Entries in order -/

/-- An entry whose term comes before that of another. -/
def Precedes (first second : String × PostingList) : Prop :=
  termOrder first.1 second.1 = .lt

instance : Std.Irrefl Precedes :=
  inferInstanceAs (Std.Irrefl
    (InvImage (fun first second => termOrder first second = .lt) Prod.fst))

instance : Std.Antisymm Precedes where
  antisymm first second hlt hgt :=
    absurd (termOrder_eq_gt_iff.mpr hgt) (by rw [hlt]; decide)

/-- Entries of distinct terms are sorted strictly. -/
theorem pairwise_sortEntries {entries : List (String × PostingList)}
    (hdistinct : (entries.map (·.1)).Nodup) : (sortEntries entries).Pairwise Precedes := by
  have hsorted : (sortEntries entries).Pairwise fun first second =>
      (termOrder first.1 second.1).isLE = true := by
    apply List.pairwise_mergeSort
    · intro first second third
      exact Std.TransCmp.isLE_trans
    · intro first second
      exact termOrder_total first.1 second.1
  have hterms : (sortEntries entries).Pairwise fun first second => first.1 ≠ second.1 :=
    List.pairwise_map.mp (((List.mergeSort_perm entries _).map _).nodup_iff.mpr hdistinct)
  refine (hsorted.and hterms).imp ?_
  intro first second hpair
  rcases hpair with ⟨hle, hne⟩
  cases horder : termOrder first.1 second.1 with
  | lt => exact horder
  | eq => exact absurd (termOrder_eq_eq_iff.mp horder) hne
  | gt =>
      rw [horder] at hle
      cases hle

theorem pairwise_writtenEntries {entries : List (String × PostingList)}
    (hdistinct : (entries.map (·.1)).Nodup) : (writtenEntries entries).Pairwise Precedes :=
  (pairwise_sortEntries hdistinct).filter _

variable {index : Index} {entries : List (String × PostingList)}

/-- The entries that are written are those of the terms with postings. -/
theorem mem_writtenEntries (hperm : entries.Perm index.postings.toList) {term : String}
    {list : PostingList} :
    (term, list) ∈ writtenEntries entries ↔
      index.postingsOf term = list ∧ list.isEmpty = false := by
  rw [writtenEntries, List.mem_filter, sortEntries, (List.mergeSort_perm _ _).mem_iff,
    hperm.mem_iff, Std.ExtTreeMap.mem_toList_iff_getElem?_eq_some, Bool.not_eq_true']
  apply and_congr_left
  intro hfull
  show index.find? term = some list ↔ _
  rw [postingsOf]
  cases index.find? term with
  | none =>
      simp only [reduceCtorEq, Option.getD_none, false_iff]
      rintro rfl
      cases hfull
  | some found => simp

/-- Indexes with the same postings have the same written entries, however their entries are
handed out. -/
theorem writtenEntries_eq {other : Index} {others : List (String × PostingList)}
    (hperm : entries.Perm index.postings.toList) (hothers : others.Perm other.postings.toList)
    (hsame : ∀ term, other.postingsOf term = index.postingsOf term) :
    writtenEntries others = writtenEntries entries := by
  apply (pairwise_writtenEntries (nodup_of_perm_toList hothers)).eq_of_mem_iff
    (pairwise_writtenEntries (nodup_of_perm_toList hperm))
  rintro ⟨term, list⟩
  rw [mem_writtenEntries hothers, mem_writtenEntries hperm, hsame]

/-- No term of an index that was built or read holds a line end. -/
theorem newline_not_mem_term (hmade : index.Reachable ∨ ∃ content, read content = .ok index)
    {term : String} {list : PostingList} (hfind : index.find? term = some list) :
    '\n' ∉ term.toList := by
  rcases hmade with hreachable | ⟨content, hread⟩
  · have hstorable := (hreachable.wellFormed term list hfind).isStorable
    exact (writableTerm_of_isStorable hstorable).no_newline
  · obtain ⟨hwritable, -⟩ := of_read hread
    exact (hwritable term list hfind).1.no_newline

/-- The file of an index is canonical.  The order of terms is strict and total, by lower case and
then by code point; the text has one line for each term with a posting, in this order, as far as
no term holds a line end, as none does if the index was built or read; and indexes with the same
postings have the same text, in whatever order their entries are handed out. -/
theorem renderEntries_is_canonical (index : Index) :
    (IsStrictTotalOrder String (fun first second => termOrder first second = .lt) ∧
      (∀ first second, termOrder first second = .eq ↔ first = second) ∧
      ∀ first second, termOrder first second = .lt ↔
        Text.lower first < Text.lower second ∨
          Text.lower first = Text.lower second ∧ first < second) ∧
    (∃ written : List (String × PostingList),
      (∀ term list, (term, list) ∈ written ↔
        index.postingsOf term = list ∧ list.isEmpty = false) ∧
      written.Pairwise (fun first second => termOrder first.1 second.1 = .lt) ∧
      index.render = String.join (written.map fun entry => renderEntry entry.1 entry.2 ++ "\n") ∧
      ((∀ entry ∈ written, '\n' ∉ entry.1.toList) →
        Text.linesBy (· = '\n') index.render.toList =
          written.map fun entry => (renderEntry entry.1 entry.2).toList) ∧
      (index.Reachable ∨ (∃ content, read content = .ok index) →
        ∀ entry ∈ written, '\n' ∉ entry.1.toList)) ∧
    ∀ (other : Index) (entries : List (String × PostingList)),
      (∀ term, other.postingsOf term = index.postingsOf term) →
      entries.Perm other.postings.toList → renderEntries entries = index.render := by
  have hself : index.postings.toList.Perm index.postings.toList := List.Perm.refl _
  refine ⟨⟨inferInstance, fun _ _ => termOrder_eq_eq_iff, fun _ _ => termOrder_eq_lt_iff⟩,
    ⟨writtenEntries index.postings.toList, ?_, ?_, ?_, ?_, ?_⟩, ?_⟩
  · intro term list
    exact mem_writtenEntries hself
  · exact pairwise_writtenEntries (nodup_of_perm_toList hself)
  · exact renderEntries_eq index.postings.toList
  · exact linesBy_renderEntries
  · intro hmade entry hmem
    exact newline_not_mem_term hmade (mem_sortEntries.mp (List.mem_of_mem_filter hmem))
  · intro other entries hsame hentries
    rw [render, renderEntries_eq, renderEntries_eq, writtenEntries_eq hself hentries hsame]

/-- Entries handed out backwards, of terms that differ in case only. -/
theorem renderEntries_is_canonical_backwards :
    let index := ofDocuments .reversed [(1, "TAC tac"), (2, "tAC")]
    renderEntries index.postings.toList.reverse = index.render := by
  intro index
  obtain ⟨-, -, hsame⟩ := renderEntries_is_canonical index
  exact hsame index _ (fun _ => rfl) (List.reverse_perm _)

end BooleanRetrieval.Index
