/-
# Posting lists as sorted maps

In a list that ascends, halving finds the last posting that is not beyond a
document.  So adding a posting, at the end or in the middle, keeps the postings of
lower and of higher documents as they are and puts the new one between them; the
list still ascends, and an older posting of the same document is gone.
-/

import BooleanRetrieval.Posting
import Mathlib

namespace BooleanRetrieval.PostingList

/-- The documents of the postings ascend, none of them twice. -/
def Ascends (list : PostingList) : Prop :=
  list.postings.toList.Pairwise (·.document < ·.document)

instance (list : PostingList) : Decidable list.Ascends :=
  inferInstanceAs (Decidable (List.Pairwise _ _))

theorem ascends_empty : empty.Ascends :=
  List.Pairwise.nil

/-- The documents of a list are those of its postings. -/
theorem mem_documents {list : PostingList} {id : Nat} :
    id ∈ list.documents ↔ ∃ posting ∈ list.postings, posting.document = id := by
  simp [documents]

theorem isEmpty_eq_false_iff {list : PostingList} :
    list.isEmpty = false ↔ list.postings.toList ≠ [] := by
  rw [isEmpty, Bool.eq_false_iff, ne_eq, Array.isEmpty_iff, ne_eq, Array.toList_eq_nil_iff]

/-- The occurrences are the sum of the frequencies. -/
theorem occurrences_eq_sum (list : PostingList) :
    list.occurrences = (list.postings.toList.map (·.frequency)).sum := by
  rw [occurrences, ← Array.foldl_toList, List.sum_eq_foldl, List.foldl_map]

/-! ## Halving -/

section Bisect

variable {postings : Array Posting} {document base size : Nat} {positive : 0 < size}
  {inside : base + size ≤ postings.size} {found : Fin postings.size}

/-- Halving stays in its range. -/
theorem bisect_bounds (hfound : bisect postings document base size positive inside = found) :
    base ≤ found.val ∧ found.val < base + size := by
  fun_induction bisect postings document base size positive inside with
  | case1 =>
      subst hfound
      simp
  | case2 base size positive inside hone half habove ih =>
      have hbounds := ih hfound
      omega
  | case3 base size positive inside hone half hbelow ih =>
      have hbounds := ih hfound
      omega

/-- Halving leaves the first position only for a posting that is not beyond the
document, whatever the order of the list. -/
theorem eq_or_le_of_bisect (hfound : bisect postings document base size positive inside = found)
    {old : Posting} (hold : postings[found.val]? = some old) :
    found.val = base ∨ old.document ≤ document := by
  fun_induction bisect postings document base size positive inside with
  | case1 =>
      subst hfound
      exact .inl rfl
  | case2 base size positive inside hone half habove ih => exact ih hfound
  | case3 base size positive inside hone half hbelow ih =>
      rcases ih hfound with hbase | hle
      · rw [hbase, Array.getElem?_eq_getElem (by omega)] at hold
        obtain rfl := Option.some.inj hold
        exact .inr (Nat.le_of_not_lt hbelow)
      · exact .inr hle

/-- In an ascending list, all postings after the one that halving finds are beyond
the document. -/
theorem lt_of_bisect_lt (hascends : postings.toList.Pairwise (·.document < ·.document))
    (hfound : bisect postings document base size positive inside = found) {later : Nat}
    (hafter : found.val < later) (hrange : later < base + size) (hlater : later < postings.size) :
    document < postings[later].document := by
  fun_induction bisect postings document base size positive inside with
  | case1 =>
      subst hfound
      simp only at hafter
      omega
  | case2 base size positive inside hone half habove ih =>
      by_cases hnear : later < base + (size - half)
      · exact ih hfound hnear
      · -- Beyond the middle the order decides.
        rcases Nat.lt_or_eq_of_le (show base + half ≤ later by omega) with hlt | heq
        · have horder := List.pairwise_iff_getElem.mp hascends (base + half) later
            (by simp; omega) (by simpa using hlater) hlt
          simp only [Array.getElem_toList] at horder
          omega
        · simpa only [← heq] using habove
  | case3 base size positive inside hone half hbelow ih =>
      exact ih hfound (by omega)

end Bisect

/-! ## Adding a posting -/

/-- A sequence in three parts: below, at and above a document. -/
structure Split (document : Nat) (sequence before same after : List Posting) : Prop where
  sequence_eq : sequence = before ++ same ++ after
  before_lt (posting : Posting) : posting ∈ before → posting.document < document
  same_eq (posting : Posting) : posting ∈ same → posting.document = document
  lt_after (posting : Posting) : posting ∈ after → document < posting.document

section Split

variable {document : Nat} {sequence before same after : List Posting}

/-- The part below the document can be read off the sequence. -/
theorem Split.filter_lt (hsplit : Split document sequence before same after) :
    sequence.filter (·.document < document) = before := by
  rw [hsplit.sequence_eq, List.filter_append, List.filter_append,
    List.filter_eq_self.mpr (by simpa using hsplit.before_lt),
    List.filter_eq_nil_iff.mpr fun posting h => by simp [hsplit.same_eq posting h],
    List.filter_eq_nil_iff.mpr fun posting h => by
      simpa using Nat.le_of_lt (hsplit.lt_after posting h)]
  simp

/-- So can the part at the document. -/
theorem Split.filter_eq (hsplit : Split document sequence before same after) :
    sequence.filter (·.document = document) = same := by
  rw [hsplit.sequence_eq, List.filter_append, List.filter_append,
    List.filter_eq_nil_iff.mpr fun posting h => by
      simpa using Nat.ne_of_lt (hsplit.before_lt posting h),
    List.filter_eq_self.mpr (by simpa using hsplit.same_eq),
    List.filter_eq_nil_iff.mpr fun posting h => by
      simpa using Nat.ne_of_gt (hsplit.lt_after posting h)]
  simp

/-- So can the part above the document. -/
theorem Split.filter_gt (hsplit : Split document sequence before same after) :
    sequence.filter (document < ·.document) = after := by
  rw [hsplit.sequence_eq, List.filter_append, List.filter_append,
    List.filter_eq_nil_iff.mpr fun posting h => by
      simpa using Nat.le_of_lt (hsplit.before_lt posting h),
    List.filter_eq_nil_iff.mpr fun posting h => by simp [hsplit.same_eq posting h],
    List.filter_eq_self.mpr (by simpa using hsplit.lt_after)]
  simp

end Split

theorem toList_insertIdx_eq (postings : Array Posting) (posting : Posting) {position : Nat}
    (hposition : position ≤ postings.size) :
    (postings.insertIdx position posting).toList =
      postings.toList.take position ++ posting :: postings.toList.drop position := by
  have hlength : (postings.toList.take position).length = position :=
    List.length_take_of_le (by simpa using hposition)
  have hcut := List.modifyTailIdx_add (List.cons posting) 0 (postings.toList.take position)
    (postings.toList.drop position)
  rw [List.take_append_drop, hlength] at hcut
  rw [Array.toList_insertIdx]
  exact hcut

section Place

variable {list : PostingList} {posting : Posting} {found : Fin list.postings.size}
  {nonempty : 0 < list.postings.size}

/-- What stands before a position of an ascending list is lower. -/
theorem lt_of_mem_take (hascends : list.Ascends) {old : Posting}
    (hold : old ∈ list.postings.toList.take found.val) :
    old.document < list.postings[found].document := by
  obtain ⟨i, hi, rfl⟩ := List.mem_take_iff_getElem.mp hold
  exact List.pairwise_iff_getElem.mp hascends i found.val (by omega) (by simp) (by omega)

/-- What stands after the position that halving finds is beyond the document. -/
theorem lt_of_mem_drop (hascends : list.Ascends)
    (hfound : bisect list.postings posting.document 0 list.postings.size nonempty (by omega) =
      found) {old : Posting} (hold : old ∈ list.postings.toList.drop (found.val + 1)) :
    posting.document < old.document := by
  obtain ⟨i, hi, rfl⟩ := List.mem_drop_iff_getElem.mp hold
  rw [Array.length_toList] at hi
  exact lt_of_bisect_lt hascends hfound (by omega) (by omega) (by omega)

/-- A list is what stands before a position, the posting there and what stands after. -/
theorem toList_eq_take_cons_drop (found : Fin list.postings.size) :
    list.postings.toList = list.postings.toList.take found.val ++
      list.postings[found] :: list.postings.toList.drop (found.val + 1) := by
  rw [Fin.getElem_fin, ← Array.getElem_toList found.isLt, List.getElem_cons_drop,
    List.take_append_drop]

/-- Halving finds a posting of the document: it gives way. -/
theorem split_of_bisect_eq (hascends : list.Ascends)
    (hfound : bisect list.postings posting.document 0 list.postings.size nonempty (by omega) =
      found) (hsame : list.postings[found].document = posting.document) :
    Split posting.document list.postings.toList (list.postings.toList.take found.val)
      [list.postings[found]] (list.postings.toList.drop (found.val + 1)) where
  sequence_eq := by simpa using toList_eq_take_cons_drop found
  before_lt old hold := by
    rw [← hsame]
    exact lt_of_mem_take hascends hold
  same_eq old hold := by
    rw [List.mem_singleton.mp hold]
    exact hsame
  lt_after old hold := lt_of_mem_drop hascends hfound hold

/-- Halving finds a lower posting: the new one goes after it. -/
theorem split_of_bisect_lt (hascends : list.Ascends)
    (hfound : bisect list.postings posting.document 0 list.postings.size nonempty (by omega) =
      found) (hbelow : list.postings[found].document < posting.document) :
    Split posting.document list.postings.toList (list.postings.toList.take (found.val + 1)) []
      (list.postings.toList.drop (found.val + 1)) where
  sequence_eq := by simp
  before_lt old hold := by
    have hsize : found.val < list.postings.toList.length := by simp
    rw [List.take_succ_eq_append_getElem hsize, List.mem_append, List.mem_singleton] at hold
    rcases hold with hearlier | rfl
    · exact Nat.lt_trans (lt_of_mem_take hascends hearlier) hbelow
    · exact hbelow
  same_eq := by simp
  lt_after old hold := lt_of_mem_drop hascends hfound hold

/-- Halving finds a higher posting: then it has not left the start, and everything is
above the document. -/
theorem split_of_lt_bisect (hascends : list.Ascends)
    (hfound : bisect list.postings posting.document 0 list.postings.size nonempty (by omega) =
      found) (habove : posting.document < list.postings[found].document) :
    found.val = 0 ∧ Split posting.document list.postings.toList [] [] list.postings.toList := by
  have hstart : found.val = 0 := by
    have hmoved := eq_or_le_of_bisect hfound (Array.getElem?_eq_getElem found.isLt)
    simp only [Fin.getElem_fin] at habove
    omega
  refine ⟨hstart, by simp, by simp, by simp, fun old hold => ?_⟩
  rw [toList_eq_take_cons_drop found, List.mem_append, List.mem_cons] at hold
  rcases hold with hearlier | rfl | hlater
  · rw [hstart] at hearlier
    simp at hearlier
  · exact habove
  · exact lt_of_mem_drop hascends hfound hlater

/-- How a posting is put into an ascending list where halving leads. -/
theorem exists_split_place (hascends : list.Ascends) {result : PostingList}
    (hresult : result.postings = place list.postings nonempty posting) :
    ∃ before same after, Split posting.document list.postings.toList before same after ∧
      result.postings.toList = before ++ posting :: after := by
  generalize hfound : bisect list.postings posting.document 0 list.postings.size nonempty
    (by omega) = found
  simp only [place, hfound] at hresult
  split at hresult
  · next hsame =>
      refine ⟨_, _, _, split_of_bisect_eq hascends hfound hsame, ?_⟩
      have hsize : found.val < list.postings.toList.length := by simp
      rw [hresult, Array.toList_set, List.set_eq_take_append_cons_drop, if_pos hsize]
  · next hother =>
      split at hresult
      · next hbelow =>
          refine ⟨_, _, _, split_of_bisect_lt hascends hfound hbelow, ?_⟩
          rw [hresult]
          exact toList_insertIdx_eq _ _ (by omega)
      · next hnot =>
          have habove : posting.document < list.postings[found].document := by omega
          obtain ⟨hstart, hsplit⟩ := split_of_lt_bisect hascends hfound habove
          refine ⟨_, _, _, hsplit, ?_⟩
          rw [hresult, toList_insertIdx_eq _ _ (by omega), hstart]
          simp

end Place

/-- Where an ascending list is put together from what is below, at and above a
document, adding a posting of that document replaces the part at it. -/
theorem exists_split_add {list : PostingList} (hascends : list.Ascends) (posting : Posting) :
    ∃ before same after, Split posting.document list.postings.toList before same after ∧
      (list.add posting).postings.toList = before ++ posting :: after := by
  have horder := List.pairwise_iff_getElem.mp hascends
  by_cases hempty : 0 < list.postings.size
  · by_cases hlast : list.postings[list.postings.size - 1].document < posting.document
    · refine ⟨list.postings.toList, [], [], ⟨by simp, ?_, by simp, by simp⟩, ?_⟩
      · intro old hold
        obtain ⟨i, hi, rfl⟩ := List.getElem_of_mem hold
        have hsize : i < list.postings.size := by simpa using hi
        rcases Nat.lt_or_eq_of_le (show i ≤ list.postings.size - 1 by omega) with hlt | heq
        · have hbelow := horder i (list.postings.size - 1) hi (by simp; omega) hlt
          simp only [Array.getElem_toList] at hbelow ⊢
          omega
        · simpa [heq] using hlast
      · simp [add, hempty, hlast]
    · have hplace : (list.add posting).postings = place list.postings hempty posting := by
        simp [add, hempty, hlast]
      exact exists_split_place hascends hplace
  · refine ⟨[], [], [], ⟨?_, by simp, by simp, by simp⟩, ?_⟩
    · simpa using hempty
    · simp [add, hempty]

/-- The postings of lower documents, the new posting, the postings of higher
documents. -/
theorem toList_add {list : PostingList} (hascends : list.Ascends) (posting : Posting) :
    (list.add posting).postings.toList =
      list.postings.toList.filter (·.document < posting.document) ++
        posting :: list.postings.toList.filter (posting.document < ·.document) := by
  obtain ⟨before, same, after, hsplit, hadd⟩ := exists_split_add hascends posting
  rw [hadd, hsplit.filter_lt, hsplit.filter_gt]

/-- Adding keeps the order. -/
theorem ascends_add {list : PostingList} (hascends : list.Ascends) (posting : Posting) :
    (list.add posting).Ascends := by
  rw [Ascends, toList_add hascends, List.pairwise_append]
  refine ⟨hascends.filter _, List.pairwise_cons.mpr ⟨by simp, hascends.filter _⟩, ?_⟩
  intro lower hlower other hother
  have hbelow : lower.document < posting.document := by simpa using (List.mem_filter.mp hlower).2
  rcases List.mem_cons.mp hother with rfl | hhigher
  · exact hbelow
  · exact Nat.lt_trans hbelow (by simpa using (List.mem_filter.mp hhigher).2)

/-- The postings are the new one and those of other documents. -/
theorem mem_add {list : PostingList} (hascends : list.Ascends) {posting other : Posting} :
    other ∈ (list.add posting).postings ↔
      other = posting ∨ (other ∈ list.postings ∧ other.document ≠ posting.document) := by
  rw [← Array.mem_toList_iff, toList_add hascends]
  simp only [List.mem_append, List.mem_cons, List.mem_filter, Array.mem_toList_iff,
    decide_eq_true_eq]
  grind

/-- The document of the new posting is added to the documents. -/
theorem mem_documents_add {list : PostingList} (hascends : list.Ascends) {posting : Posting}
    {id : Nat} : id ∈ (list.add posting).documents ↔
      id = posting.document ∨ id ∈ list.documents := by
  simp only [mem_documents, mem_add hascends]
  grind

/-- The frequency of an older posting of the same document is no longer counted. -/
theorem occurrences_add {list : PostingList} (hascends : list.Ascends) (posting : Posting) :
    (list.add posting).occurrences +
        ((list.postings.toList.filter (·.document = posting.document)).map (·.frequency)).sum =
      list.occurrences + posting.frequency := by
  obtain ⟨before, same, after, hsplit, hadd⟩ := exists_split_add hascends posting
  rw [occurrences_eq_sum, occurrences_eq_sum, hadd, hsplit.filter_eq, hsplit.sequence_eq]
  simp only [List.map_append, List.map_cons, List.sum_append, List.sum_cons]
  omega

/-- A list to which a posting was added is not empty. -/
theorem isEmpty_add {list : PostingList} (hascends : list.Ascends) (posting : Posting) :
    (list.add posting).isEmpty = false := by
  have hmem : posting ∈ (list.add posting).postings := (mem_add hascends).mpr (.inl rfl)
  rw [isEmpty_eq_false_iff]
  exact List.ne_nil_of_mem (Array.mem_toList_iff.mpr hmem)

/-- Lists that ascend are told apart by their postings. -/
theorem eq_of_ascends {first second : PostingList} (hfirst : first.Ascends)
    (hsecond : second.Ascends)
    (hsame : ∀ posting, posting ∈ first.postings ↔ posting ∈ second.postings) :
    first = second := by
  have hnodup {list : PostingList} (hascends : list.Ascends) : list.postings.toList.Nodup :=
    hascends.imp fun hlt heq => absurd (congrArg Posting.document heq) (Nat.ne_of_lt hlt)
  have hperm : first.postings.toList.Perm second.postings.toList := by
    rw [List.perm_ext_iff_of_nodup (hnodup hfirst) (hnodup hsecond)]
    simpa using hsame
  have hlists : first.postings.toList = second.postings.toList :=
    hperm.eq_of_pairwise (fun _ _ _ _ hlt hgt => absurd hlt (Nat.lt_asymm hgt)) hfirst hsecond
  rw [mk.injEq]
  exact Array.toList_inj.mp hlists

end BooleanRetrieval.PostingList
