/-
# Result files of foreign matches

A result file begins with the number of all matches, whatever they are.  Then the matches are
named in the order of ids, up to the first for which the corpus has no document: there the file
ends, with an error for this id.  Without such a match the file is complete.
-/

import BooleanRetrieval.Proofs.Path
import BooleanRetrieval.Proofs.Results
import Mathlib.Data.List.Forall2

namespace BooleanRetrieval

/-! ## Names of documents -/

/-- What a result file calls the document of a path. -/
inductive PathStyle.Names : PathStyle → String → String → Prop
  | whole {path : String} : Names .full path path
  | last {path name : String} :
      Path.StandsLast path.toList name.toList → name ≠ ".." → Names .fileName path name
  /-- A path without a last name is named in full. -/
  | nameless {path : String} :
      (∀ name : String, Path.StandsLast path.toList name.toList → name = "..") →
        Names .fileName path path

theorem PathStyle.names_nameOf (style : PathStyle) (document : Document) :
    style.Names document.path (style.nameOf document) := by
  cases style with
  | full => exact .whole
  | fileName =>
      rw [nameOf, Document.fileName]
      cases hlast : (Path.ofText document.path).lastName? with
      | some name =>
          obtain ⟨hstands, hup⟩ := Path.lastName?_eq_some_iff.mp hlast
          exact .last hstands hup
      | none =>
          refine .nameless fun name hstands => ?_
          by_contra hup
          rw [Path.lastName?_eq_some_iff.mpr ⟨hstands, hup⟩] at hlast
          cases hlast

/-! ## Foreign ids -/

namespace Corpus

variable {corpus : Corpus} {id : Nat}

/-- The ids that the corpus has no document for. -/
def Foreign (corpus : Corpus) (id : Nat) : Prop :=
  id = 0 ∨ corpus.size < id

theorem isNone_get?_iff : (corpus.get? id).isNone ↔ corpus.Foreign id := by
  rw [← Option.not_isSome, Bool.not_eq_true', ← Bool.not_eq_true, isSome_get?_iff, mem_ids,
    Foreign]
  omega

theorem isSome_get?_iff_not_foreign : (corpus.get? id).isSome ↔ ¬corpus.Foreign id := by
  rw [← isNone_get?_iff, Option.isNone_iff_eq_none, Option.isSome_iff_ne_none]

/-- The foreign match that comes first. -/
structure FirstForeign (corpus : Corpus) (hits : DocSet) (id : Nat) : Prop where
  mem : id ∈ hits
  foreign : corpus.Foreign id
  first : ∀ other ∈ hits, corpus.Foreign other → id ≤ other

theorem FirstForeign.eq {hits : DocSet} {other : Nat} (hid : corpus.FirstForeign hits id)
    (hother : corpus.FirstForeign hits other) : id = other :=
  Nat.le_antisymm (hid.first other hother.mem hother.foreign)
    (hother.first id hid.mem hid.foreign)

end Corpus

namespace Results

variable {corpus : Corpus} {hits : DocSet} {ids : List Nat}

/-! ## Naming matches in order -/

/-- The error is that of the first id without a document. -/
theorem nameMatches_snd (corpus : Corpus) (style : PathStyle) (ids : List Nat) :
    (nameMatches corpus style ids).2 =
      (ids.find? fun id => (corpus.get? id).isNone).map .foreignDocument := by
  induction ids with
  | nil => rfl
  | cons id rest ih =>
      rw [nameMatches, List.find?_cons]
      cases corpus.get? id with
      | none => rfl
      | some document => exact ih

/-- The ids before it are named by their documents. -/
theorem nameMatches_fst (corpus : Corpus) (style : PathStyle) (ids : List Nat) :
    List.Forall₂ (fun id name => ∃ path, corpus.paths[id - 1]? = some path ∧ style.Names path name)
      (ids.takeWhile fun id => (corpus.get? id).isSome) (nameMatches corpus style ids).1 := by
  induction ids with
  | nil => exact .nil
  | cons id rest ih =>
      rw [nameMatches, List.takeWhile_cons]
      cases hget : corpus.get? id with
      | none => exact .nil
      | some document =>
          obtain ⟨-, -, hpath⟩ := Corpus.get?_eq_some_iff.mp hget
          exact .cons ⟨document.path, hpath, style.names_nameOf document⟩ ih

/-- In ascending order, the ids before the first without a property are those up to which all
have it. -/
theorem mem_takeWhile_of_ascends {holds : Nat → Bool} (hascends : ids.Pairwise (· < ·)) {id : Nat} :
    id ∈ ids.takeWhile holds ↔ id ∈ ids ∧ ∀ other ∈ ids, other ≤ id → holds other := by
  induction ids with
  | nil => simp
  | cons first rest ih =>
      obtain ⟨hbefore, hrest⟩ := List.pairwise_cons.mp hascends
      rw [List.takeWhile_cons]
      cases hfirst : holds first with
      | false =>
          rw [if_neg Bool.false_ne_true]
          refine iff_of_false List.not_mem_nil ?_
          rintro ⟨hmem, hall⟩
          have hle : first ≤ id := by
            rcases List.mem_cons.mp hmem with rfl | hmem
            · exact Nat.le_refl _
            · exact Nat.le_of_lt (hbefore id hmem)
          rw [hall first List.mem_cons_self hle] at hfirst
          cases hfirst
      | true =>
          rw [if_pos rfl, List.mem_cons, List.mem_cons, ih hrest, List.forall_mem_cons]
          constructor
          · rintro (rfl | ⟨hmem, hall⟩)
            · refine ⟨.inl rfl, fun _ => hfirst, fun other hother hle => ?_⟩
              exact absurd (hbefore other hother) (Nat.not_lt_of_le hle)
            · exact ⟨.inr hmem, fun _ => hfirst, hall⟩
          · rintro ⟨rfl | hmem, -, hall⟩
            · exact .inl rfl
            · exact .inr ⟨hmem, hall⟩

theorem ascends_toList (hits : DocSet) : hits.toList.Pairwise (· < ·) :=
  Std.ExtTreeSet.ordered_toList.imp Nat.compare_eq_lt.mp

/-- The foreign id that is found in order is the first. -/
theorem firstForeign_of_find? {id : Nat}
    (hfind : hits.toList.find? (fun id => (corpus.get? id).isNone) = some id) :
    corpus.FirstForeign hits id := by
  obtain ⟨hforeign, before, after, hids, hnone⟩ := List.find?_eq_some_iff_append.mp hfind
  have hmem (other : Nat) : other ∈ hits ↔ other ∈ before ++ id :: after := by
    rw [← hids, Std.ExtTreeSet.mem_toList]
  have hascends := ascends_toList hits
  rw [hids, List.pairwise_append, List.pairwise_cons] at hascends
  refine ⟨(hmem id).mpr (by simp), Corpus.isNone_get?_iff.mp hforeign, ?_⟩
  intro other hother hforeign'
  rcases List.mem_append.mp ((hmem other).mp hother) with hearly | hlate
  · have hhere := hnone other hearly
    rw [Corpus.isNone_get?_iff.mpr hforeign'] at hhere
    cases hhere
  · rcases List.mem_cons.mp hlate with rfl | hlate
    · exact Nat.le_refl _
    · exact Nat.le_of_lt (hascends.2.1.1 other hlate)

theorem find?_eq_some_iff_firstForeign {id : Nat} :
    hits.toList.find? (fun id => (corpus.get? id).isNone) = some id ↔
      corpus.FirstForeign hits id := by
  refine ⟨firstForeign_of_find?, fun hfirst => ?_⟩
  cases hfind : hits.toList.find? fun id => (corpus.get? id).isNone with
  | none =>
      have hnone := List.find?_eq_none.mp hfind id (Std.ExtTreeSet.mem_toList.mpr hfirst.mem)
      exact absurd (Corpus.isNone_get?_iff.mpr hfirst.foreign) hnone
  | some other => rw [hfirst.eq (firstForeign_of_find? hfind)]

/-! ## Result files -/

/-- A result file holds the number of all matches and names the matches before the first foreign
one, each on a line.  It is complete if and only if no match is foreign; else the error is for the
first foreign match, be it 0 or beyond the corpus. -/
theorem render_stops_at_foreign (hits : DocSet) (corpus : Corpus) (style : PathStyle) :
    ∃ (ids : List Nat) (names : List String),
      ids.Pairwise (· < ·) ∧
      (∀ id, id ∈ ids ↔
        id ∈ hits ∧ ∀ other ∈ hits, other ≤ id → ¬corpus.Foreign other) ∧
      List.Forall₂
        (fun id name => ∃ path, corpus.paths[id - 1]? = some path ∧ style.Names path name)
        ids names ∧
      (render hits corpus style).1 =
        String.join ((toString hits.size :: names).map (· ++ "\n")) ∧
      ((render hits corpus style).2 = none ↔ ∀ id ∈ hits, ¬corpus.Foreign id) ∧
      ∀ error, (render hits corpus style).2 = some error ↔
        ∃ id, corpus.FirstForeign hits id ∧ error = .foreignDocument id ∧
          error.kind = .invalidArgument ∧
          error.message = s!"InvalidArgument: document {id} is not in the corpus" := by
  have hrender : (render hits corpus style).2 = (nameMatches corpus style hits.toList).2 := rfl
  rw [hrender, nameMatches_snd]
  refine ⟨_, _, (ascends_toList hits).sublist (List.takeWhile_sublist _), fun id => ?_,
    nameMatches_fst corpus style hits.toList, rfl, ?_, fun error => ?_⟩
  · rw [mem_takeWhile_of_ascends (ascends_toList hits)]
    simp only [Std.ExtTreeSet.mem_toList, Corpus.isSome_get?_iff_not_foreign]
  · rw [Option.map_eq_none_iff, List.find?_eq_none]
    simp only [Std.ExtTreeSet.mem_toList, Corpus.isNone_get?_iff]
  · rw [Option.map_eq_some_iff]
    simp only [find?_eq_some_iff_firstForeign]
    constructor
    · rintro ⟨id, hfirst, rfl⟩
      exact ⟨id, hfirst, rfl, rfl, rfl⟩
    · rintro ⟨id, hfirst, rfl, -, -⟩
      exact ⟨id, hfirst, rfl⟩

/-- Two of three matches are beyond the corpus: the count is of all of them. -/
example : render (.ofList [7, 2, 4]) (.ofPaths ["a", "docs/b/."]) .fileName =
    ("3\nb\n", some (.foreignDocument 4)) := by
  decide +kernel

end Results

end BooleanRetrieval
