/-
# Document sets

Sets of document ids.  Union, intersection and difference are those of the
ordered sets of the standard library; two sets are equal when they have the same
members.
-/

import Std.Data.ExtTreeSet

namespace BooleanRetrieval

/-- A set of document ids. -/
abbrev DocSet := Std.ExtTreeSet Nat

namespace DocSet

/-- The set of the ids from 1 to `count`. -/
def upTo (count : Nat) : DocSet :=
  .ofList (List.range' 1 count)

/-- The members of `upTo`. -/
@[simp] theorem mem_upTo {count id : Nat} : id ∈ upTo count ↔ 1 ≤ id ∧ id ≤ count := by
  rw [upTo, Std.ExtTreeSet.mem_ofList, List.contains_iff_mem, List.mem_range'_1]
  omega

/-- One more id below an ascending list of runs, the lowest run first. -/
def consRun (id : Nat) : List (Nat × Nat) → List (Nat × Nat)
  | (first, last) :: runs =>
    if first = id + 1 then (id, last) :: runs else (id, id) :: (first, last) :: runs
  | [] => [(id, id)]

/-- The maximal runs of consecutive ids, ascending, each with its first and last
id. -/
def runs (set : DocSet) : List (Nat × Nat) :=
  set.toList.foldr consRun []

end DocSet

end BooleanRetrieval
