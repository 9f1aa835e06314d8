/-
# Queries as formulas

A query can be read as a formula about one document: a disjunction of conjunctions, in
which an atom is true if the term has a posting for the document, or if it has none and the
atom is negated.  An evaluation finds the members of which the formula is true, also where
the index knows documents that are no members.  So it does not matter that an intersection
ends early, or in which order groups and atoms come.
-/

import BooleanRetrieval.Proofs.Index.Content
import BooleanRetrieval.Proofs.Query.Evaluation

namespace BooleanRetrieval

/-- Whether a term has a posting for a document. -/
def Index.hasPosting (index : Index) (term : String) (id : Nat) : Bool :=
  (index.postingsOf term).postings.any (·.document = id)

theorem Index.hasPosting_iff {index : Index} {term : String} {id : Nat} :
    index.hasPosting term id ↔ id ∈ index.documents term := by
  rw [hasPosting, postingsOf, documents]
  cases index.find? term with
  | none => simp [PostingList.empty]
  | some list =>
      rw [Option.getD_some, Array.any_eq_true']
      simp [PostingList.mem_documents]

namespace Query

/-- Whether a query is true of a document. -/
def isTrueOf (query : Query) (index : Index) (id : Nat) : Bool :=
  query.groups.any fun group =>
    group.atoms.all fun atom => index.hasPosting atom.term id != atom.negated

/-- A document is as a query asks if the query is true of it. -/
theorem isTrueOf_iff {query : Query} {index : Index} {id : Nat} :
    query.isTrueOf index id ↔ query.Holds index id := by
  have hatom (atom : Atom) :
      (index.hasPosting atom.term id != atom.negated) = true ↔ atom.Holds index id := by
    rw [Atom.Holds, ← Index.hasPosting_iff, bne_iff_ne]
    cases atom.negated with
    | false => simp
    | true => simp
  simp [isTrueOf, Holds, Group.Holds, hatom]

/-- The groups of a query and the atoms of each, without their order. -/
def unordered (query : Query) : Multiset (Multiset Atom) :=
  query.groups.map fun group => (group.atoms : Multiset Atom)

/-- What a query asks does not depend on order. -/
theorem holds_iff_unordered {query : Query} {index : Index} {id : Nat} :
    query.Holds index id ↔ ∃ atoms ∈ query.unordered, ∀ atom ∈ atoms, atom.Holds index id := by
  simp [Holds, Group.Holds, unordered]

end Query

namespace Collection

/-- The documents that satisfy a query, found by intersecting the members with what every atom
of a group finds. -/
def satisfyPlainly (collection : Collection) (query : Query) : DocSet :=
  query.groups.foldl
    (fun found group => found ∪ group.atoms.foldl
      (fun found atom => found ∩ collection.satisfyAtom atom) collection.members) ∅

/-- To stop at an empty set is to intersect all the same. -/
theorem narrow_eq_inter (found other : DocSet) :
    (if found.isEmpty then found else found ∩ other) = found ∩ other := by
  apply Std.ExtTreeSet.ext_mem
  intro id
  rw [mem_narrow, Std.ExtTreeSet.mem_inter_iff]

/-- An atom finds members only. -/
theorem inter_satisfyAtom (collection : Collection) (atom : Query.Atom) :
    collection.members ∩ collection.satisfyAtom atom = collection.satisfyAtom atom := by
  apply Std.ExtTreeSet.ext_mem
  intro id
  rw [Std.ExtTreeSet.mem_inter_iff, mem_satisfyAtom]
  exact and_iff_right_of_imp And.left

/-- To intersect the members with what every atom of a group finds is to satisfy the group. -/
theorem foldl_inter_eq_satisfyGroup (collection : Collection) (group : Query.Group) :
    group.atoms.foldl (fun found atom => found ∩ collection.satisfyAtom atom)
      collection.members = collection.satisfyGroup group := by
  rw [satisfyGroup]
  cases group.atoms with
  | nil => rfl
  | cons first rest => simp only [List.foldl_cons, inter_satisfyAtom, narrow_eq_inter]

/-- Evaluation finds the members of which the query is true.  It finds what all intersections
without an early end find, and the same for every order of groups and atoms. -/
theorem satisfy_reads_formula (collection : Collection) (query : Query) :
    (∀ id, id ∈ collection.satisfy query ↔
      id ∈ collection.members ∧ query.isTrueOf collection.index id) ∧
    collection.satisfy query = collection.satisfyPlainly query ∧
    ∀ other : Query, other.unordered = query.unordered →
      collection.satisfy other = collection.satisfy query := by
  refine ⟨?_, ?_, ?_⟩
  · intro id
    rw [mem_satisfy, Query.isTrueOf_iff]
  · simp only [satisfy, satisfyPlainly, foldl_inter_eq_satisfyGroup]
  · intro other hsame
    apply Std.ExtTreeSet.ext_mem
    intro id
    rw [mem_satisfy, mem_satisfy, Query.holds_iff_unordered, Query.holds_iff_unordered, hsame]

/-- Two orders of a query on an index that knows a document beyond the members. -/
theorem satisfy_reads_formula_reordered :
    let collection : Collection :=
      ⟨.ofDocuments .reversed [(1, "tac god"), (7, "tac"), (2, "tac drib")], .upTo 3⟩
    collection.satisfy ⟨[⟨[⟨"cat", false⟩, ⟨"dog", true⟩]⟩, ⟨[⟨"", false⟩]⟩]⟩ =
      collection.satisfy ⟨[⟨[⟨"", false⟩]⟩, ⟨[⟨"dog", true⟩, ⟨"cat", false⟩]⟩]⟩ := by
  intro collection
  obtain ⟨-, -, horder⟩ := satisfy_reads_formula collection
    ⟨[⟨[⟨"", false⟩]⟩, ⟨[⟨"dog", true⟩, ⟨"cat", false⟩]⟩]⟩
  exact horder _ (by decide)

end Collection

end BooleanRetrieval
