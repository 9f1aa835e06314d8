/-
# Corpora

The ids of a corpus are those at which it has a document.  The paths of a manifest are lines of
it, so none of them holds a line end; paths that are all distinct tell the ids.
-/

import BooleanRetrieval.Corpus
import BooleanRetrieval.Proofs.Text.Split

namespace BooleanRetrieval.Corpus

variable {corpus : Corpus} {id : Nat}

theorem mem_ids : id ∈ corpus.ids ↔ 1 ≤ id ∧ id ≤ corpus.size :=
  DocSet.mem_upTo

/-- The document of an id is at its place and bears this id. -/
theorem get?_eq_some_iff {document : Document} :
    corpus.get? id = some document ↔
      1 ≤ id ∧ document.id = id ∧ corpus.paths[id - 1]? = some document.path := by
  obtain ⟨own, path⟩ := document
  rw [get?]
  split
  · next hzero => simp [hzero]
  · next hpos =>
      simp only [Option.map_eq_some_iff, Document.mk.injEq]
      constructor
      · intro hplace
        rcases hplace with ⟨_, hpath, rfl, rfl⟩
        exact ⟨by omega, rfl, hpath⟩
      · intro hparts
        rcases hparts with ⟨-, rfl, hpath⟩
        exact ⟨path, hpath, rfl, rfl⟩

theorem exists_get?_of_mem_ids (hid : id ∈ corpus.ids) :
    ∃ path, corpus.get? id = some ⟨id, path⟩ := by
  obtain ⟨hpos, hle⟩ := mem_ids.mp hid
  rw [size] at hle
  have hplace : corpus.paths[id - 1]? = some corpus.paths[id - 1] :=
    Array.getElem?_eq_getElem (by omega)
  exact ⟨corpus.paths[id - 1], get?_eq_some_iff.mpr ⟨hpos, rfl, hplace⟩⟩

/-- The ids are those at which there is a document. -/
theorem isSome_get?_iff : (corpus.get? id).isSome ↔ id ∈ corpus.ids := by
  constructor
  · intro hsome
    obtain ⟨document, hget⟩ := Option.isSome_iff_exists.mp hsome
    obtain ⟨hpos, -, hplace⟩ := get?_eq_some_iff.mp hget
    obtain ⟨hlt, -⟩ := Array.getElem?_eq_some_iff.mp hplace
    exact mem_ids.mpr ⟨hpos, by rw [size]; omega⟩
  · intro hid
    obtain ⟨path, hget⟩ := exists_get?_of_mem_ids hid
    rw [hget, Option.isSome_some]

/-- Documents are numbered from 1. -/
theorem map_id_documents (corpus : Corpus) :
    corpus.documents.map (·.id) = List.range' 1 corpus.size := by
  rw [documents, List.map_map]
  exact List.zipIdx_map_snd 1 _

/-- Documents have the paths of the corpus, in this order. -/
theorem map_path_documents (corpus : Corpus) :
    corpus.documents.map (·.path) = corpus.paths.toList := by
  rw [documents, List.map_map]
  exact List.zipIdx_map_fst 1 _

/-- The documents are those that are found by their ids. -/
theorem mem_documents {document : Document} :
    document ∈ corpus.documents ↔ corpus.get? document.id = some document := by
  obtain ⟨own, path⟩ := document
  rw [get?_eq_some_iff, documents, List.mem_map]
  constructor
  · intro hlisted
    rcases hlisted with ⟨⟨_, _⟩, hmem, hdocument⟩
    obtain ⟨rfl, rfl⟩ := Document.mk.inj hdocument
    obtain ⟨hle, hget⟩ := List.mk_mem_zipIdx_iff_le_and_getElem?_sub.mp hmem
    exact ⟨hle, rfl, by simpa using hget⟩
  · intro hplace
    rcases hplace with ⟨hle, -, hget⟩
    refine ⟨(path, own), List.mk_mem_zipIdx_iff_le_and_getElem?_sub.mpr ⟨hle, ?_⟩, rfl⟩
    simpa using hget

/-- If no path comes twice, a path tells the id. -/
theorem eq_of_get?_path (hdistinct : corpus.paths.toList.Nodup) {other : Nat} {path : String}
    (hid : corpus.get? id = some ⟨id, path⟩) (hother : corpus.get? other = some ⟨other, path⟩) :
    id = other := by
  obtain ⟨hpos, -, hpath⟩ := get?_eq_some_iff.mp hid
  obtain ⟨hpos', -, hpath'⟩ := get?_eq_some_iff.mp hother
  obtain ⟨hlt, -⟩ := Array.getElem?_eq_some_iff.mp hpath
  have hplace : id - 1 = other - 1 := by
    refine (List.getElem?_inj (by simpa using hlt) hdistinct).mp ?_
    rw [Array.getElem?_toList, Array.getElem?_toList, hpath, hpath']
  omega

/-- The documents of a corpus that have one of the given paths. -/
def idsOf (corpus : Corpus) (paths : List String) : DocSet :=
  .ofList ((corpus.documents.filter fun document => document.path ∈ paths).map (·.id))

theorem mem_idsOf {paths : List String} :
    id ∈ corpus.idsOf paths ↔ ∃ path ∈ paths, corpus.get? id = some ⟨id, path⟩ := by
  rw [idsOf, Std.ExtTreeSet.mem_ofList, List.contains_iff_mem, List.mem_map]
  simp only [List.mem_filter, mem_documents, decide_eq_true_eq]
  constructor
  · intro hlisted
    rcases hlisted with ⟨document, ⟨hdocument, hpath⟩, rfl⟩
    exact ⟨document.path, hpath, hdocument⟩
  · intro hlisted
    rcases hlisted with ⟨path, hpath, hdocument⟩
    exact ⟨⟨id, path⟩, ⟨hdocument, hpath⟩, rfl⟩

/-- If no path comes twice, documents are told by their paths. -/
theorem mem_idsOf_paths (hdistinct : corpus.paths.toList.Nodup) {documents : List Document}
    (hfound : ∀ document ∈ documents, corpus.get? document.id = some document) :
    id ∈ corpus.idsOf (documents.map (·.path)) ↔ id ∈ documents.map (·.id) := by
  rw [mem_idsOf, List.mem_map]
  constructor
  · intro hnamed
    rcases hnamed with ⟨path, hpath, hid⟩
    obtain ⟨document, hmem, rfl⟩ := List.mem_map.mp hpath
    exact ⟨document, hmem, eq_of_get?_path hdistinct (hfound document hmem) hid⟩
  · intro hlisted
    rcases hlisted with ⟨document, hmem, rfl⟩
    exact ⟨document.path, List.mem_map_of_mem hmem, hfound document hmem⟩

/-- A path of a manifest holds no line end. -/
theorem newline_not_mem_path {manifest : String} {document : Document}
    (hfound : (ofManifest manifest).get? id = some document) : '\n' ∉ document.path.toList := by
  obtain ⟨-, -, hplace⟩ := get?_eq_some_iff.mp hfound
  have hpath := Array.mem_of_getElem? hplace
  rw [ofManifest, ofPaths, List.mem_toArray, List.mem_map] at hpath
  obtain ⟨kept, hkept, hpath⟩ := hpath
  obtain ⟨line, hline, rfl⟩ := List.mem_map.mp (List.mem_of_mem_filter hkept)
  rw [← hpath, String.toList_ofList]
  intro hnewline
  have hclear := Text.isMark_eq_false_of_mem_linesBy hline (Text.mem_of_mem_dropBlankEnd hnewline)
  simp at hclear

end BooleanRetrieval.Corpus
