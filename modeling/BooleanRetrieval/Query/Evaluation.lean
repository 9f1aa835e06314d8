/-
# Evaluating queries

The documents that satisfy a query, by set algebra over the postings.  Everything
stays among the members of the collection, against which negation is taken before
anything is combined.
-/

import BooleanRetrieval.Index
import BooleanRetrieval.Query

namespace BooleanRetrieval

/-- An index and the documents that count. -/
structure Collection where
  index : Index
  members : DocSet

namespace Collection

/-- The documents that satisfy an atom. -/
def satisfyAtom (collection : Collection) (atom : Query.Atom) : DocSet :=
  let holders := collection.index.documents atom.term ∩ collection.members
  if atom.negated then collection.members \ holders else holders

/-- The documents that satisfy a group, its atoms taken from the left until none
is left; an empty group asks for nothing. -/
def satisfyGroup (collection : Collection) (group : Query.Group) : DocSet :=
  match group.atoms with
  | [] => collection.members
  | first :: rest =>
    rest.foldl
      (fun found atom => if found.isEmpty then found else found ∩ collection.satisfyAtom atom)
      (collection.satisfyAtom first)

/-- The documents that satisfy a query. -/
def satisfy (collection : Collection) (query : Query) : DocSet :=
  query.groups.foldl (fun found group => found ∪ collection.satisfyGroup group) ∅

end Collection

end BooleanRetrieval
