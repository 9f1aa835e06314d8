/-
# Searches as set algebra

To join the texts of queries is to join what they find.  A bar between two texts unites
the matches, a blank between two texts of one group each intersects them, and a `!` in
front of a word leaves the rest of the corpus.  This holds on every database, whatever its
index and preprocessor: a query term is replaced atom by atom, so the replacement goes along
with the structure of the query.
-/

import BooleanRetrieval.Proofs.Database.Search
import BooleanRetrieval.Proofs.Query.Clauses

namespace BooleanRetrieval

/-! ## Combined queries -/

section Combined

variable {collection : Collection}

/-- The groups of two queries find what either query finds. -/
theorem Collection.satisfy_either (first second : Query) :
    collection.satisfy (first.either second) =
      collection.satisfy first ∪ collection.satisfy second := by
  apply Std.ExtTreeSet.ext_mem
  intro id
  rw [Std.ExtTreeSet.mem_union_iff, mem_satisfy, mem_satisfy, mem_satisfy, ← and_or_left]
  simp [Query.Holds, Query.either, or_and_right, exists_or]

/-- The atoms of two groups find what both groups find. -/
theorem Collection.satisfy_both (first second : Query.Group) :
    collection.satisfy ⟨[first.both second]⟩ =
      collection.satisfy ⟨[first]⟩ ∩ collection.satisfy ⟨[second]⟩ := by
  apply Std.ExtTreeSet.ext_mem
  intro id
  rw [Std.ExtTreeSet.mem_inter_iff, mem_satisfy, mem_satisfy, mem_satisfy, ← and_and_left]
  simp [Query.Holds, Query.Group.Holds, Query.Group.both, or_imp, forall_and]

/-- A document is as the opposite of an atom asks exactly if it is not as the atom asks. -/
theorem Query.Atom.holds_opposite {index : Index} {id : Nat} {atom : Query.Atom} :
    atom.opposite.Holds index id ↔ ¬ atom.Holds index id := by
  rw [Query.Atom.Holds, Query.Atom.Holds, Query.Atom.opposite]
  cases atom.negated with
  | false => simp
  | true => simp

/-- The opposite of an atom finds the other members. -/
theorem Collection.satisfy_opposite (collection : Collection) (atom : Query.Atom) :
    collection.satisfy ⟨[⟨[atom.opposite]⟩]⟩ =
      collection.members \ collection.satisfy ⟨[⟨[atom]⟩]⟩ := by
  have hatom (asked : Query.Atom) (id : Nat) :
      (⟨[⟨[asked]⟩]⟩ : Query).Holds collection.index id ↔ asked.Holds collection.index id := by
    simp [Query.Holds, Query.Group.Holds]
  apply Std.ExtTreeSet.ext_mem
  intro id
  rw [Std.ExtTreeSet.mem_diff_iff, mem_satisfy, mem_satisfy, hatom, hatom,
    Query.Atom.holds_opposite, not_and]
  apply and_congr_right
  intro hmember
  exact ⟨fun hnot _ => hnot, fun hnot => hnot hmember⟩

end Combined

/-- Terms are replaced in the groups of two queries alike. -/
theorem Query.mapTerms_either (replace : String → String) (first second : Query) :
    (first.either second).mapTerms replace =
      (first.mapTerms replace).either (second.mapTerms replace) := by
  simp [Query.mapTerms, Query.either]

namespace Database

/-- A bar between two texts unites what they find; the error is that of the first text that
has one. -/
theorem search_append_bar (database : Database) (first second : String) :
    database.search (first ++ "|" ++ second) = (do
      let hits ← database.search first
      let others ← database.search second
      return hits ∪ others) := by
  rw [search_eq, search_eq, search_eq, Query.parse_append_bar]
  cases Query.parse database.config.lowercase first with
  | error error => rfl
  | ok before =>
      cases Query.parse database.config.lowercase second with
      | error error => rfl
      | ok after =>
          apply congrArg Except.ok
          show database.collection.satisfy ((before.either after).mapTerms _) = _
          rw [Query.mapTerms_either, Collection.satisfy_either]

/-- A blank between two texts of one group each intersects what they find. -/
theorem search_append_space (database : Database) {first second : String} {before after : Query}
    (hbar : '|' ∉ first.toList) (hbar' : '|' ∉ second.toList)
    (hfirst : Query.parse database.config.lowercase first = .ok before)
    (hsecond : Query.parse database.config.lowercase second = .ok after)
    (hfull : before.isEmpty = false) (hfull' : after.isEmpty = false) :
    ∃ hits others, database.search first = .ok hits ∧ database.search second = .ok others ∧
      database.search (first ++ " " ++ second) = .ok (hits ∩ others) := by
  obtain ⟨one, other, rfl, rfl, hboth⟩ :=
    Query.parse_append_space hbar hbar' hfirst hsecond hfull hfull'
  refine ⟨_, _, by rw [search_eq, hfirst, Except.map], by rw [search_eq, hsecond, Except.map], ?_⟩
  rw [search_eq, hboth, Except.map]
  apply congrArg Except.ok
  simp only [Query.mapTerms, List.map_cons, List.map_nil]
  rw [← Collection.satisfy_both, Query.Group.both, Query.Group.both, List.map_append]

/-- A negation in front of a word finds the rest of the corpus. -/
theorem search_negated (database : Database) {word : String} {query : Query}
    (hfull : word ≠ "") (hblank : ∀ c ∈ word.toList, Text.isBlank c = false)
    (hbar : '|' ∉ word.toList)
    (hparse : Query.parse database.config.lowercase word = .ok query) :
    ∃ hits, database.search word = .ok hits ∧
      database.search ("!" ++ word) = .ok (database.corpus.ids \ hits) := by
  obtain ⟨atom, rfl, hnegated⟩ := Query.parse_negated hfull hblank hbar hparse
  refine ⟨_, by rw [search_eq, hparse, Except.map], ?_⟩
  rw [search_eq, hnegated, Except.map]
  exact congrArg Except.ok (database.collection.satisfy_opposite
    { atom with term := searchTerm database.preprocessor database.config atom.term })

/-- The syntax of queries is set algebra: a bar is union, with the error of the first text that
has one, a blank between texts of one group each is intersection, and a negation in front of
a word is the complement in the corpus. -/
theorem search_is_set_algebra (database : Database) :
    (∀ first second,
      database.search (first ++ "|" ++ second) = (do
        let hits ← database.search first
        let others ← database.search second
        return hits ∪ others)) ∧
    (∀ first second before after,
      '|' ∉ first.toList → '|' ∉ second.toList →
      Query.parse database.config.lowercase first = .ok before → before.isEmpty = false →
      Query.parse database.config.lowercase second = .ok after → after.isEmpty = false →
      ∃ hits others, database.search first = .ok hits ∧ database.search second = .ok others ∧
        database.search (first ++ " " ++ second) = .ok (hits ∩ others)) ∧
    (∀ word query,
      word ≠ "" → (∀ c ∈ word.toList, Text.isBlank c = false) → '|' ∉ word.toList →
      Query.parse database.config.lowercase word = .ok query →
      ∃ hits, database.search word = .ok hits ∧
        database.search ("!" ++ word) = .ok (database.corpus.ids \ hits)) := by
  refine ⟨database.search_append_bar, ?_, ?_⟩
  · intro first second before after hbar hbar' hfirst hfull hsecond hfull'
    exact database.search_append_space hbar hbar' hfirst hsecond hfull hfull'
  · intro word query hfull hblank hbar hparse
    exact database.search_negated hfull hblank hbar hparse

/-- Two documents: texts with negations of their own are intersected, and a word that is
negated already is negated once more. -/
theorem search_is_set_algebra_two_documents :
    let database : Database :=
      { config := {}
        corpus := .ofPaths ["a", "b"]
        preprocessor := .reversed
        index := .ofDocuments .reversed [(1, "one two"), (2, "three one")] }
    (∃ hits others, database.search "eno ! !owt" = .ok hits ∧
      database.search "!eerht" = .ok others ∧
      database.search "eno ! !owt !eerht" = .ok (hits ∩ others)) ∧
    ∃ hits, database.search "!eno" = .ok hits ∧
      database.search "!!eno" = .ok (database.corpus.ids \ hits) := by
  intro database
  obtain ⟨-, hspace, hnegation⟩ := search_is_set_algebra database
  refine ⟨?_, ?_⟩
  · exact hspace "eno ! !owt" "!eerht"
      ⟨[⟨[⟨"eno", false⟩, ⟨"owt", false⟩]⟩]⟩ ⟨[⟨[⟨"eerht", true⟩]⟩]⟩
      (by decide) (by decide) (by cbv) rfl (by decide +kernel) rfl
  · have hblank : ("!eno".toList.all (!Text.isBlank ·)) = true := by cbv
    exact hnegation "!eno" ⟨[⟨[⟨"eno", true⟩]⟩]⟩
      (by decide) (by simpa using hblank) (by decide) (by cbv)

end Database

end BooleanRetrieval
