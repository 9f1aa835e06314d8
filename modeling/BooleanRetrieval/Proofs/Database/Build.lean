/-
# Building from files

A computation on a file tree returns a result and leaves a tree.  To build the index of
a corpus whose documents can be read is to add their texts in order, and the tree stays
as it is.
-/

import BooleanRetrieval.Database
import BooleanRetrieval.FileTree
import BooleanRetrieval.Proofs.Corpus
import Mathlib.Tactic.Choose

namespace BooleanRetrieval

/-- A file is there, and it holds a text. -/
def FileTree.Reads (tree : FileTree) (path text : String) : Prop :=
  (tree.read path).bind decodeText = .ok text

/-- No text can be read from a file, for a cause. -/
def FileTree.Unreadable (tree : FileTree) (path : String) (cause : FileError) : Prop :=
  (tree.read path).bind decodeText = .error cause

/-- A file holds one text. -/
theorem FileTree.Reads.eq {tree : FileTree} {path first second : String}
    (hfirst : tree.Reads path first) (hsecond : tree.Reads path second) : first = second :=
  Except.ok.inj (hfirst.symm.trans hsecond)

/-- A file that is not unreadable for any cause holds a text. -/
theorem FileTree.exists_reads {tree : FileTree} {path : String}
    (hreadable : ∀ cause, ¬tree.Unreadable path cause) : ∃ text, tree.Reads path text := by
  cases hread : (tree.read path).bind decodeText with
  | error cause => exact absurd hread (hreadable cause)
  | ok text => exact ⟨text, hread⟩

/-! ## Computations one after the other -/

section Runs

variable {ε α β : Type} {tree after : FileTree}

/-- A computation that succeeds hands its result and its tree on. -/
theorem run_bind_of_ok {x : ExceptT ε (StateM FileTree) α} {a : α}
    (hx : x.run.run tree = (.ok a, after)) (f : α → ExceptT ε (StateM FileTree) β) :
    (x >>= f).run.run tree = (f a).run.run after := by
  show (x.run >>= ExceptT.bindCont f).run tree = _
  rw [StateT.run_bind, hx]
  rfl

/-- What comes after a computation that fails is not run. -/
theorem run_bind_of_error {x : ExceptT ε (StateM FileTree) α} {error : ε}
    (hx : x.run.run tree = (.error error, after)) (f : α → ExceptT ε (StateM FileTree) β) :
    (x >>= f).run.run tree = (.error error, after) := by
  show (x.run >>= ExceptT.bindCont f).run tree = _
  rw [StateT.run_bind, hx]
  rfl

/-- Another wording of its errors changes nothing else of a computation. -/
theorem run_adapt {δ : Type} {x : ExceptT ε (StateM FileTree) α} {result : Except ε α}
    (hx : x.run.run tree = (result, after)) (f : ε → δ) :
    (x.adapt f).run.run tree = (result.mapError f, after) := by
  show (Except.mapError f <$> x.run).run tree = _
  rw [StateT.run_map, hx]
  rfl

theorem run_ofExcept (result : Except ε α) :
    (MonadExcept.ofExcept result : ExceptT ε (StateM FileTree) α).run.run tree =
      (result, tree) := by
  cases result with
  | error error => rfl
  | ok found => rfl

/-- To read a text leaves the tree as it is. -/
theorem run_readText (path : String) :
    (readText (m := StateM FileTree) path).run.run tree =
      ((tree.read path).bind decodeText, tree) := by
  have hstorage : (Storage.read (m := StateM FileTree) path).run.run tree =
      (tree.read path, tree) := rfl
  cases hread : tree.read path with
  | error cause =>
      rw [hread] at hstorage
      exact run_bind_of_error hstorage _
  | ok content =>
      rw [hread] at hstorage
      rw [readText, run_bind_of_ok hstorage, run_ofExcept]
      rfl

/-- A text is read where it is, in whatever words its errors would be. -/
theorem run_adapt_readText {δ : Type} {path text : String} (hreads : tree.Reads path text)
    (f : FileError → δ) :
    ((readText (m := StateM FileTree) path).adapt f).run.run tree = (.ok text, tree) := by
  rw [run_adapt (run_readText path), hreads]
  rfl

/-- A text that cannot be read is an error in the given words. -/
theorem run_adapt_readText_of_unreadable {δ : Type} {path : String} {cause : FileError}
    (hunreadable : tree.Unreadable path cause) (f : FileError → δ) :
    ((readText (m := StateM FileTree) path).adapt f).run.run tree = (.error (f cause), tree) := by
  rw [run_adapt (run_readText path), hunreadable]
  rfl

/-- A document is loaded when its text can be read. -/
theorem run_load {document : Document} {text : String}
    (hreads : tree.Reads document.path text) :
    (document.load (m := StateM FileTree)).run.run tree = (.ok text, tree) :=
  run_adapt_readText hreads _

/-- A part of a computation that succeeds has succeeded. -/
theorem ok_of_run_bind {x : ExceptT ε (StateM FileTree) α}
    {f : α → ExceptT ε (StateM FileTree) β} {b : β}
    (hbind : (x >>= f).run.run tree = (.ok b, after)) :
    ∃ a middle, x.run.run tree = (.ok a, middle) ∧ (f a).run.run middle = (.ok b, after) := by
  rcases hx : x.run.run tree with ⟨result, middle⟩
  cases result with
  | error error =>
      rw [run_bind_of_error hx] at hbind
      cases hbind
  | ok a =>
      rw [run_bind_of_ok hx] at hbind
      exact ⟨a, middle, rfl, hbind⟩

/-- Another wording of its errors does not make a computation succeed. -/
theorem ok_of_run_adapt {δ : Type} {x : ExceptT ε (StateM FileTree) α} {f : ε → δ} {a : α}
    (hadapt : (x.adapt f).run.run tree = (.ok a, after)) : x.run.run tree = (.ok a, after) := by
  rcases hx : x.run.run tree with ⟨result, middle⟩
  rw [run_adapt hx] at hadapt
  cases result with
  | error error => cases hadapt
  | ok found =>
      obtain ⟨hfound, rfl⟩ := Prod.mk.inj hadapt
      obtain rfl := Except.ok.inj hfound
      rfl

/-- A text that was read is there, and the tree stays as it is. -/
theorem reads_of_run_readText {path text : String}
    (hread : (readText (m := StateM FileTree) path).run.run tree = (.ok text, after)) :
    tree.Reads path text ∧ after = tree := by
  rw [run_readText] at hread
  obtain ⟨htext, rfl⟩ := Prod.mk.inj hread
  exact ⟨htext, rfl⟩

end Runs

/-! ## Documents in order -/

/-- Documents with the ids from 1 on and their texts, from paths and texts. -/
def numbered (documents : List (String × String)) : List (Document × String) :=
  (documents.zipIdx 1).map fun (document, id) => (⟨id, document.1⟩, document.2)

/-- The ids and texts of documents. -/
def idTexts (entries : List (Document × String)) : List (Nat × String) :=
  entries.map fun entry => (entry.1.id, entry.2)

theorem documents_ofPaths (documents : List (String × String)) :
    (Corpus.ofPaths (documents.map (·.1))).documents = (numbered documents).map (·.1) := by
  simp [Corpus.documents, Corpus.ofPaths, numbered, List.zipIdx_map]

/-- The documents of a corpus are in the order of their ids. -/
theorem documents_ascend (corpus : Corpus) :
    corpus.documents.Pairwise fun first second => first.id < second.id := by
  rw [← List.pairwise_map, Corpus.map_id_documents]
  exact List.pairwise_lt_range'

/-- The document of an id is at its place. -/
theorem mem_idTexts_numbered {documents : List (String × String)} {id : Nat} {text : String} :
    (id, text) ∈ idTexts (numbered documents) ↔
      1 ≤ id ∧ (documents.map (·.2))[id - 1]? = some text := by
  rw [idTexts, numbered, List.map_map, List.mem_map, List.getElem?_map,
    Option.map_eq_some_iff]
  constructor
  · intro hlisted
    rcases hlisted with ⟨⟨document, _⟩, hmem, hentry⟩
    obtain ⟨rfl, rfl⟩ := Prod.mk.inj hentry
    obtain ⟨hle, hget⟩ := List.mk_mem_zipIdx_iff_le_and_getElem?_sub.mp hmem
    exact ⟨hle, document, hget, rfl⟩
  · intro hplace
    rcases hplace with ⟨hle, document, hget, rfl⟩
    exact ⟨(document, id), List.mk_mem_zipIdx_iff_le_and_getElem?_sub.mpr ⟨hle, hget⟩, rfl⟩

/-- The texts of documents that can be read are added in order. -/
theorem run_foldlM_load (preprocessor : Preprocessor) {tree : FileTree}
    {entries : List (Document × String)}
    (hreads : ∀ entry ∈ entries, tree.Reads entry.1.path entry.2) (index : Index) :
    ((entries.map (·.1)).foldlM (m := ExceptT Error (StateM FileTree))
        (fun (index : Index) (document : Document) => do
          return index.addDocument preprocessor document.id (← document.load)) index).run.run tree =
      (.ok ((idTexts entries).foldl
        (fun index (id, text) => index.addDocument preprocessor id text) index), tree) := by
  induction entries generalizing index with
  | nil => rfl
  | cons entry rest ih =>
      obtain ⟨hfirst, hrest⟩ := List.forall_mem_cons.mp hreads
      have hload : (do
          let text ← entry.1.load (m := StateM FileTree)
          return index.addDocument preprocessor entry.1.id text).run.run tree =
            (.ok (index.addDocument preprocessor entry.1.id entry.2), tree) := by
        rw [run_bind_of_ok (run_load hfirst)]
        rfl
      rw [List.map_cons, List.foldlM_cons, run_bind_of_ok hload]
      exact ih hrest _

/-- The first document whose text cannot be read is where the building of an index stops. -/
theorem run_buildIndex_of_unreadable {preprocessor : Preprocessor} {tree : FileTree}
    {corpus : Corpus} {before rest : List Document} {document : Document} {cause : FileError}
    (hdocuments : corpus.documents = before ++ document :: rest)
    (hbefore : ∀ earlier ∈ before, ∃ text, tree.Reads earlier.path text)
    (hunreadable : tree.Unreadable document.path cause) :
    (corpus.buildIndex (m := StateM FileTree) preprocessor).run.run tree =
      (.error (.document document.id document.path cause), tree) := by
  choose! text htext using hbefore
  have hentries : ∀ entry ∈ before.map (fun earlier => (earlier, text earlier)),
      tree.Reads entry.1.path entry.2 := by
    simpa using htext
  have hread := run_foldlM_load preprocessor hentries .empty
  rw [List.map_map, Function.comp_def, List.map_id'] at hread
  rw [Corpus.buildIndex, hdocuments, List.foldlM_append, run_bind_of_ok hread, List.foldlM_cons]
  exact run_bind_of_error (run_bind_of_error (run_adapt_readText_of_unreadable hunreadable _) _) _

/-- The documents of an index that was built can be read, and the tree stays as it is. -/
theorem reads_of_run_buildIndex {preprocessor : Preprocessor} {tree after : FileTree}
    {corpus : Corpus} {index : Index}
    (hbuild : (corpus.buildIndex (m := StateM FileTree) preprocessor).run.run tree =
      (.ok index, after)) :
    (∀ document ∈ corpus.documents, ∃ text, tree.Reads document.path text) ∧ after = tree := by
  rw [Corpus.buildIndex] at hbuild
  generalize corpus.documents = documents at hbuild
  generalize Index.empty = start at hbuild
  induction documents generalizing start with
  | nil => exact ⟨List.forall_mem_nil _, (Prod.mk.inj hbuild).2.symm⟩
  | cons document rest ih =>
      rw [List.foldlM_cons] at hbuild
      obtain ⟨next, middle, hfirst, hrest⟩ := ok_of_run_bind hbuild
      obtain ⟨text, _, hload, hnext⟩ := ok_of_run_bind hfirst
      obtain ⟨hreads, rfl⟩ := reads_of_run_readText (ok_of_run_adapt hload)
      obtain ⟨-, rfl⟩ := Prod.mk.inj hnext
      obtain ⟨hothers, rfl⟩ := ih next hrest
      exact ⟨List.forall_mem_cons.mpr ⟨⟨text, hreads⟩, hothers⟩, rfl⟩

/-- A corpus whose documents can be read, with their texts. -/
theorem Corpus.exists_texts {tree : FileTree} {corpus : Corpus}
    (hreads : ∀ document ∈ corpus.documents, ∃ text, tree.Reads document.path text) :
    ∃ documents : List (String × String), corpus = .ofPaths (documents.map (·.1)) ∧
      ∀ document ∈ documents, tree.Reads document.1 document.2 := by
  choose! text htext using hreads
  refine ⟨corpus.documents.map fun document => (document.path, text document), ?_, ?_⟩
  · rw [List.map_map, ofPaths]
    show corpus = ⟨(corpus.documents.map (·.path)).toArray⟩
    rw [map_path_documents, Array.toArray_toList]
  · exact List.forall_mem_map.mpr htext

/-- The index of a corpus whose documents can be read is that of their texts. -/
theorem run_buildIndex (preprocessor : Preprocessor) {tree : FileTree}
    {documents : List (String × String)}
    (hreads : ∀ document ∈ documents, tree.Reads document.1 document.2) :
    ((Corpus.ofPaths (documents.map (·.1))).buildIndex (m := StateM FileTree)
        preprocessor).run.run tree =
      (.ok (Index.ofDocuments preprocessor (idTexts (numbered documents))), tree) := by
  have hentries : ∀ entry ∈ numbered documents, tree.Reads entry.1.path entry.2 := by
    intro entry hmem
    obtain ⟨⟨document, id⟩, hdocument, rfl⟩ := List.mem_map.mp hmem
    exact hreads document (List.fst_mem_of_mem_zipIdx hdocument)
  rw [Corpus.buildIndex, documents_ofPaths]
  exact run_foldlM_load preprocessor hentries .empty

end BooleanRetrieval
