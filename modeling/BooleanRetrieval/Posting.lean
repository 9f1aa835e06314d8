/-
# Postings

A posting says how often a term occurs in a document.  The list of a term is kept
in ascending order of documents, with one posting for each.  Documents mostly
arrive in order, so a new posting is tried at the end first; otherwise its place
is found by halving.
-/

import BooleanRetrieval.DocSet

namespace BooleanRetrieval

/-- The number of occurrences of a term in a document. -/
structure Posting where
  document : Nat
  frequency : Nat
  deriving DecidableEq

/-- The postings of one term. -/
structure PostingList where
  postings : Array Posting
  deriving DecidableEq

namespace PostingList

/-- The list without postings. -/
def empty : PostingList := ⟨#[]⟩

/-- The number of postings. -/
def size (list : PostingList) : Nat :=
  list.postings.size

/-- Whether there are no postings. -/
def isEmpty (list : PostingList) : Bool :=
  list.postings.isEmpty

/-- The documents of the postings. -/
def documents (list : PostingList) : DocSet :=
  .ofList (list.postings.toList.map (·.document))

/-- The sum of the frequencies. -/
def occurrences (list : PostingList) : Nat :=
  list.postings.foldl (fun count posting => count + posting.frequency) 0

/-- Narrow `size` positions from `base` on down to one: the last whose document is
not above `document`, or the first position if all are above.  This is the place
to look for the document when the list ascends. -/
def bisect (postings : Array Posting) (document base size : Nat) (positive : 0 < size)
    (inside : base + size ≤ postings.size) : Fin postings.size :=
  if h : size = 1 then ⟨base, by omega⟩
  else
    let half := size / 2
    if document < postings[base + half].document then
      bisect postings document base (size - half) (by omega) (by omega)
    else bisect postings document (base + half) (size - half) (by omega) (by omega)
termination_by size

/-- Put a posting where halving leads: in place of a posting of the same document,
else beside the one that was found. -/
def place (postings : Array Posting) (nonempty : 0 < postings.size) (posting : Posting) :
    Array Posting :=
  let found := bisect postings posting.document 0 postings.size nonempty (by omega)
  let neighbour := postings[found]
  if neighbour.document = posting.document then postings.set found posting
  else if neighbour.document < posting.document then postings.insertIdx (found + 1) posting
  else postings.insertIdx found posting

/-- Add a posting; one of the same document gives way to it. -/
def add (list : PostingList) (posting : Posting) : PostingList :=
  if h : 0 < list.postings.size then
    if list.postings[list.postings.size - 1].document < posting.document then
      ⟨list.postings.push posting⟩
    else ⟨place list.postings h posting⟩
  else ⟨#[posting]⟩

end PostingList

end BooleanRetrieval
