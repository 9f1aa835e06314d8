/-
# Index files

An index file holds the entries of an index in the order of terms, one to a line.
A reader ignores blank lines and trailing blanks.  Its errors give the number of
the line in the file, blank lines counted.
-/

import BooleanRetrieval.Error
import BooleanRetrieval.Index
import BooleanRetrieval.Index.Entry

namespace BooleanRetrieval.Index

/-- Entries in the order of their terms. -/
def sortEntries (entries : List (String × PostingList)) : List (String × PostingList) :=
  entries.mergeSort fun first second => (termOrder first.1 second.1).isLE

/-- The text of an index file with the given entries; those without postings are
left out. -/
def renderEntries (entries : List (String × PostingList)) : String :=
  let stored := (sortEntries entries).filter fun (_, list) => !list.isEmpty
  String.join (stored.map fun (term, list) => renderEntry term list ++ "\n")

/-- The text of the file of an index. -/
def render (index : Index) : String :=
  renderEntries index.postings.toList

/-- Add a posting of a term and count it. -/
def addCounted (term : String) (index : Index) (posting : Posting) : Index where
  postings := addPosting index.postings term posting
  documentCount := max index.documentCount posting.document
  tokenCount := index.tokenCount + posting.frequency

/-- Add an entry for a term that the index does not hold, posting by posting. -/
def addEntry (index : Index) (term : String) (list : PostingList) : Index :=
  list.postings.foldl (addCounted term) index

/-- Read one line of an index file. -/
def readLine (index : Index) (number : Nat) (bytes : List UInt8) : Except Error Index := do
  let text ← (decodeText ⟨bytes.toArray⟩).mapError .content
  let line := Text.trimEnd text
  if line.isEmpty then return index
  match entry? line with
  | none => throw (.malformedEntry number line)
  | some (term, list) =>
    if index.contains term then throw (.duplicateTerm number term)
    return index.addEntry term list

/-- Read the content of an index file. -/
def read (content : ByteArray) : Except Error Index :=
  ((Text.linesBy (· = '\n'.toUInt8) content.data.toList).zipIdx 1).foldlM
    (fun index (bytes, number) => index.readLine number bytes) empty

end BooleanRetrieval.Index
