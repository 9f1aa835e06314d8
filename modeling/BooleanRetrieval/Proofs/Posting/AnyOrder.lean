/-
# Adding to posting lists of any order

In a list that does not ascend, a search may miss a document that is there.  What it can still be
asked for is that a posting it finds is one of the document, and that a place it gives for a new
posting is in the list or at its end.  This is enough: the addition stays within the list, and it
puts one posting in or replaces one of the same document.  All other postings stay as they are,
in their order.  Halving is such a search in every list, so that runs of additions, too, leave the
postings of all other documents alone.
-/

import BooleanRetrieval.Proofs.Posting

namespace BooleanRetrieval.PostingList

/-! ## What an addition may change -/

/-- A sequence gains a posting, put in somewhere or in place of one of its document. -/
inductive Gains (posting : Posting) : List Posting → List Posting → Prop
  | inserted (before after : List Posting) :
      Gains posting (before ++ after) (before ++ posting :: after)
  | replaced (before : List Posting) (old : Posting) (after : List Posting) :
      old.document = posting.document →
        Gains posting (before ++ old :: after) (before ++ posting :: after)

/-- Among documents without that of the posting, nothing changes. -/
theorem Gains.filter_eq {posting : Posting} {old new : List Posting}
    (hgains : Gains posting old new) (among : Nat → Bool)
    (hposting : among posting.document = false) :
    new.filter (among ·.document) = old.filter (among ·.document) := by
  cases hgains with
  | inserted before after => simp [hposting]
  | replaced before former after hsame => simp [hposting, hsame]

section Arrays

variable {postings : Array Posting} {posting : Posting} {position : Nat}

theorem gains_set {old : Posting} (hposition : position < postings.size)
    (hold : postings[position] = old) (hsame : old.document = posting.document) :
    Gains posting postings.toList (postings.set position posting).toList := by
  have hbefore := toList_eq_take_cons_drop
    (⟨position, hposition⟩ : Fin (PostingList.mk postings).postings.size)
  have hafter : (postings.set position posting).toList =
      postings.toList.take position ++ posting :: postings.toList.drop (position + 1) := by
    rw [Array.toList_set, List.set_eq_take_append_cons_drop, if_pos (by simpa using hposition)]
  have hgains : Gains posting
      (postings.toList.take position ++ old :: postings.toList.drop (position + 1)) _ :=
    .replaced _ _ _ hsame
  simp only [Fin.getElem_fin, hold] at hbefore
  rwa [← hbefore, ← hafter] at hgains

theorem gains_insertIdx (hposition : position ≤ postings.size) :
    Gains posting postings.toList (postings.insertIdx position posting).toList := by
  have hgains : Gains posting
      (postings.toList.take position ++ postings.toList.drop position) _ := .inserted _ _
  rwa [List.take_append_drop, ← toList_insertIdx_eq postings posting hposition] at hgains

end Arrays

/-! ## Searches -/

/-- What a search says of a document: where it has a posting, or where one would go. -/
inductive Finding
  | present (position : Nat)
  | absent (position : Nat)

/-- What a finding promises in a list of any order.  The document may well be in the list
although it is said to be absent. -/
def Finding.Holds (postings : Array Posting) (document : Nat) : Finding → Prop
  | .present position => ∃ old, postings[position]? = some old ∧ old.document = document
  | .absent position => position ≤ postings.size

/-- Put a posting where a finding says, unless that is beyond the list. -/
def Finding.put? (postings : Array Posting) (posting : Posting) :
    Finding → Option (Array Posting)
  | .present position =>
      if h : position < postings.size then some (postings.set position posting) else none
  | .absent position =>
      if h : position ≤ postings.size then some (postings.insertIdx position posting) else none

/-- The promise of a finding keeps the addition within the list. -/
theorem Finding.Holds.exists_put {postings : Array Posting} {posting : Posting}
    {finding : Finding} (hholds : finding.Holds postings posting.document) :
    ∃ result, finding.put? postings posting = some result ∧
      Gains posting postings.toList result.toList := by
  cases finding with
  | present position =>
      obtain ⟨old, hold, hsame⟩ := hholds
      obtain ⟨hposition, hold⟩ := Array.getElem?_eq_some_iff.mp hold
      exact ⟨_, dif_pos hposition, gains_set hposition hold hsame⟩
  | absent position => exact ⟨_, dif_pos hholds, gains_insertIdx hholds⟩

/-- A search for documents, of which nothing is known in lists that do not ascend but that its
findings hold. -/
structure Search where
  find : Array Posting → Nat → Finding
  holds (postings : Array Posting) (document : Nat) :
    (find postings document).Holds postings document

/-- Add a posting at the end if its document is beyond the last, else where the search says. -/
def Search.add? (search : Search) (list : PostingList) (posting : Posting) :
    Option PostingList :=
  if list.postings.back?.all (·.document < posting.document) then
    some ⟨list.postings.push posting⟩
  else
    ((search.find list.postings posting.document).put? list.postings posting).map .mk

theorem Search.exists_add (search : Search) (list : PostingList) (posting : Posting) :
    ∃ result, search.add? list posting = some result ∧
      Gains posting list.postings.toList result.postings.toList := by
  rw [add?]
  split
  · have hgains : Gains posting (list.postings.toList ++ []) _ := .inserted _ _
    exact ⟨_, rfl, by simpa using hgains⟩
  · obtain ⟨result, hput, hgains⟩ := (search.holds list.postings posting.document).exists_put
    exact ⟨⟨result⟩, by rw [hput, Option.map_some], hgains⟩

/-! ## Halving -/

/-- What the posting at one position says of a document. -/
def Finding.beside {postings : Array Posting} (document : Nat) (found : Fin postings.size) :
    Finding :=
  if postings[found].document = document then .present found
  else if postings[found].document < document then .absent (found + 1)
  else .absent found

/-- It holds of every position, so that it does not matter where a search has led. -/
theorem Finding.holds_beside {postings : Array Posting} (document : Nat)
    (found : Fin postings.size) : (beside document found).Holds postings document := by
  rw [beside]
  split
  · next hsame => exact ⟨_, Array.getElem?_eq_getElem found.isLt, hsame⟩
  · split
    · exact found.isLt
    · exact Nat.le_of_lt found.isLt

theorem all_inside (postings : Array Posting) : 0 + postings.size ≤ postings.size :=
  Nat.le_of_eq (Nat.zero_add _)

/-- What halving says of a document. -/
def halve (postings : Array Posting) (document : Nat) : Finding :=
  if h : 0 < postings.size then
    .beside document (bisect postings document 0 postings.size h (all_inside postings))
  else .absent 0

theorem holds_halve (postings : Array Posting) (document : Nat) :
    (halve postings document).Holds postings document := by
  rw [halve]
  split
  · exact Finding.holds_beside document _
  · exact Nat.zero_le _

/-- Halving as a search. -/
def halving : Search where
  find := halve
  holds := holds_halve

theorem put?_halve {postings : Array Posting} (nonempty : 0 < postings.size)
    (posting : Posting) :
    (halve postings posting.document).put? postings posting =
      some (place postings nonempty posting) := by
  rw [halve, dif_pos nonempty, Finding.beside, place]
  split
  · exact dif_pos (Fin.isLt _)
  · split
    · exact dif_pos (Fin.isLt _)
    · exact dif_pos (Nat.le_of_lt (Fin.isLt _))

/-- To add a posting is to add it with halving as the search. -/
theorem add?_halving (list : PostingList) (posting : Posting) :
    halving.add? list posting = some (list.add posting) := by
  rw [Search.add?, add]
  by_cases hsize : 0 < list.postings.size
  · rw [dif_pos hsize, Array.back?_eq_getElem?, Array.getElem?_eq_getElem (by omega)]
    simp only [Option.all_some, decide_eq_true_eq]
    split
    · rfl
    · exact congrArg _ (put?_halve hsize posting)
  · have hempty : list.postings = #[] := by simpa using hsize
    simp [hempty]

/-! ## Additions -/

theorem gains_add (list : PostingList) (posting : Posting) :
    Gains posting list.postings.toList (list.add posting).postings.toList := by
  obtain ⟨result, hadd, hgains⟩ := halving.exists_add list posting
  rw [add?_halving, Option.some.injEq] at hadd
  exact hadd ▸ hgains

/-- A run of additions leaves the postings of all other documents alone. -/
theorem filter_foldl_add (list : PostingList) (additions : List Posting) (among : Nat → Bool)
    (hadditions : ∀ posting ∈ additions, among posting.document = false) :
    (additions.foldl add list).postings.toList.filter (among ·.document) =
      list.postings.toList.filter (among ·.document) := by
  induction additions generalizing list with
  | nil => rfl
  | cons posting additions ih =>
      obtain ⟨hposting, hrest⟩ := List.forall_mem_cons.mp hadditions
      rw [List.foldl_cons, ih (list.add posting) hrest,
        (gains_add list posting).filter_eq among hposting]

/-- Whatever the order of a list, to add a posting with any search whose findings hold comes to a
result, never beyond the list, that gains the posting and nothing else; so does halving, which
`add` uses; and the postings of other documents are the same as before, in the same order. -/
theorem add_keeps_other_documents (list : PostingList) (posting : Posting) :
    (∀ search : Search, ∃ result, search.add? list posting = some result ∧
        Gains posting list.postings.toList result.postings.toList) ∧
      halving.add? list posting = some (list.add posting) ∧
      Gains posting list.postings.toList (list.add posting).postings.toList ∧
      (list.add posting).postings.toList.filter (·.document ≠ posting.document) =
        list.postings.toList.filter (·.document ≠ posting.document) := by
  refine ⟨fun search => search.exists_add list posting, add?_halving list posting,
    gains_add list posting, ?_⟩
  exact (gains_add list posting).filter_eq (· ≠ posting.document) (by simp)

/-- Without order, a document may get a second posting. -/
example : (add ⟨#[⟨3, 1⟩, ⟨1, 1⟩, ⟨2, 1⟩]⟩ ⟨3, 4⟩).postings =
    #[⟨3, 1⟩, ⟨1, 1⟩, ⟨2, 1⟩, ⟨3, 4⟩] := by decide

end BooleanRetrieval.PostingList
