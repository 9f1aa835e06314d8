/-
# Entries of an index file

An entry is one line: a term, a colon, and the postings, each after a space and
written as document and frequency with a comma between.  The term ends at the
first colon that a space follows.  A reader takes any number of spaces and tabs
between postings, and requires documents to ascend from 1 and frequencies to be
positive.
-/

import BooleanRetrieval.Posting
import BooleanRetrieval.Text.Split

namespace BooleanRetrieval.Index

/-- The largest number in an index file. -/
def maxNumber : Nat := 0xFFFFFFFF

/-- A posting as it is written after a space. -/
def renderPosting (posting : Posting) : String :=
  s!" {posting.document},{posting.frequency}"

/-- The line of a term. -/
def renderEntry (term : String) (list : PostingList) : String :=
  term ++ ":" ++ String.join (list.postings.toList.map renderPosting)

/-- The number that decimal digits denote, unless it is too large. -/
def number? (digits : List Char) : Option Nat :=
  if digits.isEmpty || !digits.all Char.isDigit then none
  else
    let value := digits.foldl (fun value c => 10 * value + (c.toNat - '0'.toNat)) 0
    if value ≤ maxNumber then some value else none

/-- The posting that a text denotes. -/
def posting? (item : List Char) : Option Posting :=
  match Text.piecesBetween (· = ',') item with
  | [document, frequency] => do return ⟨← number? document, ← number? frequency⟩
  | _ => none

/-- Whether a character may stand between postings. -/
def isSeparator (c : Char) : Bool :=
  c = ' ' || c = '\t'

/-- The postings of an entry: at least one, and separators only between two. -/
def postings? (chars : List Char) : Option (List Posting) :=
  let pieces := Text.piecesBetween isSeparator chars
  if pieces.head?.any (·.isEmpty) || pieces.getLast?.any (·.isEmpty) then none
  else (pieces.filter (!·.isEmpty)).mapM posting?

/-- Whether documents ascend from above `bound`. -/
def ascendsFrom (bound : Nat) : List Posting → Bool
  | [] => true
  | posting :: rest => bound < posting.document && ascendsFrom posting.document rest

/-- The term and the postings of a line. -/
def entry? (line : String) : Option (String × PostingList) := do
  let (term, rest) ← Text.splitAtFirst? [':', ' '] line.toList
  let postings ← postings? rest
  guard (!term.isEmpty && ascendsFrom 0 postings && postings.all (0 < ·.frequency))
  return (.ofList term, ⟨postings.toArray⟩)

end BooleanRetrieval.Index
