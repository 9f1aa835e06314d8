/-
# Tables over ranges of code points

A character property is constant on long runs of code points, so a table lists
the runs in ascending order, each with the value that its characters carry.
Lookup halves the table.  A hit is always a listed run that holds the
character, whatever the order of the table (`mem_of_find?`, `bounds_of_find?`);
only a miss relies on the runs being ascending.
-/

namespace BooleanRetrieval.Text

/-- The code points from `first` to `last`, both included, and their value. -/
structure Run (α : Type) where
  first : Nat
  last : Nat
  value : α

/-- Runs of code points, ascending and disjoint. -/
structure RangeMap (α : Type) where
  runs : Array (Run α)

namespace RangeMap

variable {α : Type}

/-- The table of the listed runs. -/
def ofList (entries : List (Nat × Nat × α)) : RangeMap α :=
  ⟨(entries.map fun (first, last, value) => ⟨first, last, value⟩).toArray⟩

/-- The run that holds `point`, sought among the positions from `low` to
below `high`. -/
def findWithin (runs : Array (Run α)) (point low high : Nat) (inside : high ≤ runs.size) :
    Option (Run α) :=
  if h : low < high then
    let middle := low + (high - low) / 2
    have below : middle < high := by omega
    let run := runs[middle]
    if point < run.first then findWithin runs point low middle (by omega)
    else if run.last < point then findWithin runs point (middle + 1) high inside
    else some run
  else none
termination_by high - low

/-- The run that holds a character. -/
def find? (table : RangeMap α) (c : Char) : Option (Run α) :=
  findWithin table.runs c.toNat 0 table.runs.size (Nat.le_refl _)

/-- The value of a character, if a run holds it. -/
def get? (table : RangeMap α) (c : Char) : Option α :=
  (table.find? c).map (·.value)

theorem findWithin_eq_some {runs : Array (Run α)} {point low high : Nat}
    {inside : high ≤ runs.size} {run : Run α}
    (hfound : findWithin runs point low high inside = some run) :
    run ∈ runs ∧ run.first ≤ point ∧ point ≤ run.last := by
  fun_induction findWithin runs point low high inside with
  | case1 low high inside hlt middle below candidate hfirst ih => exact ih hfound
  | case2 low high inside hlt middle below candidate hfirst hlast ih => exact ih hfound
  | case3 low high inside hlt middle below candidate hfirst hlast =>
    obtain rfl : candidate = run := by simpa using hfound
    exact ⟨Array.getElem_mem _, by omega, by omega⟩
  | case4 => simp at hfound

/-- A hit is one of the listed runs. -/
theorem mem_of_find? {table : RangeMap α} {c : Char} {run : Run α}
    (hfound : table.find? c = some run) : run ∈ table.runs :=
  (findWithin_eq_some hfound).1

/-- A hit holds the character that was looked up. -/
theorem bounds_of_find? {table : RangeMap α} {c : Char} {run : Run α}
    (hfound : table.find? c = some run) : run.first ≤ c.toNat ∧ c.toNat ≤ run.last :=
  (findWithin_eq_some hfound).2

end RangeMap

/-- A set of characters, given by its runs. -/
abbrev CharSet := RangeMap Unit

namespace CharSet

/-- The characters of the listed ranges. -/
def ofRanges (ranges : List (Nat × Nat)) : CharSet :=
  RangeMap.ofList (ranges.map fun (first, last) => (first, last, ()))

/-- Whether a character lies in the set. -/
def contains (set : CharSet) (c : Char) : Bool :=
  (set.find? c).isSome

end CharSet

end BooleanRetrieval.Text
