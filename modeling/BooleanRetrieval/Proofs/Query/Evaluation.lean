/-
# What satisfies a query

The set algebra of an evaluation says the same as the query itself: a document
satisfies an atom if it is among the members and holds the term exactly when the atom
asks for it, a group if it satisfies all of its atoms, and a query if it satisfies a
group.  To stop at an empty intermediate result makes no difference, and a group without
atoms is satisfied by every member.
-/

import BooleanRetrieval.Query.Evaluation

namespace BooleanRetrieval

/-- Whether a document is as an atom asks. -/
def Query.Atom.Holds (index : Index) (id : Nat) (atom : Query.Atom) : Prop :=
  id ∈ index.documents atom.term ↔ atom.negated = false

/-- Whether a document is as all atoms of a group ask. -/
def Query.Group.Holds (index : Index) (id : Nat) (group : Query.Group) : Prop :=
  ∀ atom ∈ group.atoms, atom.Holds index id

/-- Whether a document is as some group of a query asks. -/
def Query.Holds (index : Index) (id : Nat) (query : Query) : Prop :=
  ∃ group ∈ query.groups, group.Holds index id

namespace Collection

variable {collection : Collection} {id : Nat}

/-- Negation is taken against the members. -/
theorem mem_satisfyAtom {atom : Query.Atom} :
    id ∈ collection.satisfyAtom atom ↔
      id ∈ collection.members ∧ atom.Holds collection.index id := by
  rw [satisfyAtom, Query.Atom.Holds]
  cases hnegated : atom.negated with
  | false =>
      rw [if_neg Bool.false_ne_true, Std.ExtTreeSet.mem_inter_iff, and_comm]
      simp
  | true =>
      rw [if_pos rfl, Std.ExtTreeSet.mem_diff_iff, Std.ExtTreeSet.mem_inter_iff]
      constructor
      · intro hfound
        rcases hfound with ⟨hmember, hholder⟩
        exact ⟨hmember, by simpa [hmember] using hholder⟩
      · intro hasked
        rcases hasked with ⟨hmember, hholder⟩
        exact ⟨hmember, by simpa [hmember] using hholder⟩

/-- To stop at an empty set is to go on with it. -/
theorem mem_narrow {found other : DocSet} :
    id ∈ (if found.isEmpty then found else found ∩ other) ↔ id ∈ found ∧ id ∈ other := by
  split
  · next hempty =>
      have habsent : id ∉ found := by
        rw [Std.ExtTreeSet.isEmpty_iff.mp hempty]
        exact Std.ExtTreeSet.not_mem_empty
      exact ⟨fun hmem => absurd hmem habsent, fun hmem => absurd hmem.1 habsent⟩
  · exact Std.ExtTreeSet.mem_inter_iff

/-- Atom by atom the documents become fewer. -/
theorem mem_foldl_narrow {atoms : List Query.Atom} {found : DocSet} :
    id ∈ atoms.foldl
        (fun found atom => if found.isEmpty then found else found ∩ collection.satisfyAtom atom)
        found ↔
      id ∈ found ∧ ∀ atom ∈ atoms, id ∈ collection.satisfyAtom atom := by
  induction atoms generalizing found with
  | nil => simp
  | cons atom rest ih =>
      rw [List.foldl_cons, ih, mem_narrow, List.forall_mem_cons, and_assoc]

/-- A group is satisfied by the members that are as all its atoms ask. -/
theorem mem_satisfyGroup {group : Query.Group} :
    id ∈ collection.satisfyGroup group ↔
      id ∈ collection.members ∧ group.Holds collection.index id := by
  rw [satisfyGroup, Query.Group.Holds]
  cases group.atoms with
  | nil => simp
  | cons first rest =>
      show id ∈ rest.foldl _ _ ↔ _
      rw [mem_foldl_narrow, mem_satisfyAtom, List.forall_mem_cons]
      constructor
      · intro hfound
        rcases hfound with ⟨⟨hmember, hfirst⟩, hrest⟩
        exact ⟨hmember, hfirst, fun atom hatom => (mem_satisfyAtom.mp (hrest atom hatom)).2⟩
      · intro hasked
        rcases hasked with ⟨hmember, hfirst, hrest⟩
        exact ⟨⟨hmember, hfirst⟩, fun atom hatom =>
          mem_satisfyAtom.mpr ⟨hmember, hrest atom hatom⟩⟩

/-- Group by group the documents become more. -/
theorem mem_foldl_union {groups : List Query.Group} {found : DocSet} :
    id ∈ groups.foldl (fun found group => found ∪ collection.satisfyGroup group) found ↔
      id ∈ found ∨ ∃ group ∈ groups, id ∈ collection.satisfyGroup group := by
  induction groups generalizing found with
  | nil => simp
  | cons group rest ih =>
      rw [List.foldl_cons, ih, Std.ExtTreeSet.mem_union_iff, or_assoc]
      simp

/-- A query is satisfied by the members that are as one of its groups asks. -/
theorem mem_satisfy {query : Query} :
    id ∈ collection.satisfy query ↔
      id ∈ collection.members ∧ query.Holds collection.index id := by
  rw [satisfy, mem_foldl_union, Query.Holds]
  simp only [Std.ExtTreeSet.not_mem_empty, false_or, mem_satisfyGroup]
  constructor
  · intro hfound
    rcases hfound with ⟨group, hgroup, hmember, hholds⟩
    exact ⟨hmember, group, hgroup, hholds⟩
  · intro hasked
    rcases hasked with ⟨hmember, group, hgroup, hholds⟩
    exact ⟨group, hgroup, hmember, hholds⟩

end Collection

end BooleanRetrieval
