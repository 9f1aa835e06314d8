/-
# The inverted index

For each term its postings, and two counters: the highest document id and the
number of term occurrences.  Adding a document tallies its storable terms and
adds one posting for each; other terms are dropped.  Indexes are equal when they
hold the same postings and counters.
-/

import BooleanRetrieval.Posting
import BooleanRetrieval.Preprocessor
import BooleanRetrieval.Term
import Std.Data.ExtTreeMap

namespace BooleanRetrieval

/-- The postings of each term, and the counters. -/
structure Index where
  postings : Std.ExtTreeMap String PostingList
  /-- The number of documents, taken to be the highest id. -/
  documentCount : Nat
  /-- The number of term occurrences. -/
  tokenCount : Nat
  deriving DecidableEq

/-- The figures of an index. -/
structure Statistics where
  documents : Nat
  terms : Nat
  postings : Nat
  tokens : Nat

/-- The figures in words. -/
def Statistics.describe (statistics : Statistics) : String :=
  let { documents, terms, postings, tokens } := statistics
  s!"{documents} documents, {terms} terms, {postings} postings, {tokens} tokens"

/-- How often each term occurs in a list. -/
def tally (terms : List String) : Std.ExtTreeMap String Nat :=
  terms.foldl (fun counts term => counts.alter term fun count => some (count.getD 0 + 1)) ∅

/-- A tally continues the counts that it starts from. -/
theorem getElem?_foldl_count (counts : Std.ExtTreeMap String Nat) (terms : List String)
    (term : String) :
    (terms.foldl (fun counts term => counts.alter term fun count => some (count.getD 0 + 1))
      counts)[term]? =
        if term ∈ terms then some (counts[term]?.getD 0 + terms.count term)
        else counts[term]? := by
  induction terms generalizing counts with
  | nil => simp
  | cons first rest ih =>
    rw [List.foldl_cons, ih, Std.ExtTreeMap.getElem?_alter]
    by_cases hfirst : first = term
    · subst hfirst
      by_cases hrest : first ∈ rest
      · simp [hrest]
        omega
      · simp [hrest, List.count_eq_zero_of_not_mem hrest]
    · simp [hfirst, Ne.symm hfirst]

/-- A tally holds the terms that occur, with the number of their occurrences. -/
theorem getElem?_tally (terms : List String) (term : String) :
    (tally terms)[term]? = if term ∈ terms then some (terms.count term) else none := by
  simp [tally, getElem?_foldl_count]

namespace Index

/-- The index without documents. -/
def empty : Index :=
  { postings := ∅, documentCount := 0, tokenCount := 0 }

/-- The postings of a term, if the index holds it. -/
def find? (index : Index) (term : String) : Option PostingList :=
  index.postings[term]?

/-- Whether the index holds a term. -/
def contains (index : Index) (term : String) : Bool :=
  index.postings.contains term

/-- The documents in which a term occurs. -/
def documents (index : Index) (term : String) : DocSet :=
  match index.find? term with
  | some list => list.documents
  | none => ∅

/-- Add one posting of a term. -/
def addPosting (postings : Std.ExtTreeMap String PostingList) (term : String)
    (posting : Posting) : Std.ExtTreeMap String PostingList :=
  postings.alter term fun list => some ((list.getD .empty).add posting)

/-- Add, for each counted term, the posting of a document. -/
def addCounts (postings : Std.ExtTreeMap String PostingList) (id : Nat)
    (counts : List (String × Nat)) : Std.ExtTreeMap String PostingList :=
  counts.foldl (fun postings (term, count) => addPosting postings term ⟨id, count⟩) postings

/-- Add a document given by its terms. -/
def addTerms (index : Index) (id : Nat) (terms : List String) : Index :=
  let kept := terms.filter isStorable
  { postings := addCounts index.postings id (tally kept).toList
    documentCount := max index.documentCount id
    tokenCount := index.tokenCount + kept.length }

/-- Add a document given by its text. -/
def addDocument (preprocessor : Preprocessor) (index : Index) (id : Nat) (text : String) : Index :=
  index.addTerms id (preprocessor.terms text)

/-- The index of documents added in order, each given by its id and text. -/
def ofDocuments (preprocessor : Preprocessor) (documents : List (Nat × String)) : Index :=
  documents.foldl (fun index (id, text) => index.addDocument preprocessor id text) empty

/-- The figures of an index. -/
def statistics (index : Index) : Statistics where
  documents := index.documentCount
  terms := index.postings.size
  postings := index.postings.foldl (fun count _ list => count + list.size) 0
  tokens := index.tokenCount

end Index

end BooleanRetrieval
