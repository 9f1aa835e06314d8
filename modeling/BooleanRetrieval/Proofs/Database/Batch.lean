/-
# What the batch job leaves behind

A run of the batch job reads all its inputs before it writes anything, so an input that
cannot be used leaves the tree as it was; the one that is needed first decides the error.
With usable inputs a run writes the index, and then the matches if the query is well formed.
`Outcome` lists the five ways in which a run can end, and `run_outcome` shows that there is
no other; `run_effects` says what is on disk then.
-/

import BooleanRetrieval.Proofs.FileTree
import BooleanRetrieval.Proofs.Results
import BooleanRetrieval.Proofs.Query.Clauses

namespace BooleanRetrieval

/-! ## Reading the inputs -/

/-- The names of the presets in order. -/
def Registry.presetNames : List String :=
  ["english", "portuguese", "simple"]

theorem Registry.keys_presets (lowercase : Bool) :
    (presets lowercase).analyzers.keys = presetNames := by
  cases lowercase <;> cbv

/-- A registry has an analyzer for each of its names. -/
theorem Registry.exists_get_of_mem {registry : Registry} {name : String}
    (hname : name ∈ registry.analyzers.keys) : ∃ analyzer, registry.get name = .ok analyzer := by
  rw [Std.ExtTreeMap.mem_keys, Std.ExtTreeMap.mem_iff_isSome_getElem?,
    Option.isSome_iff_exists] at hname
  obtain ⟨analyzer, hfound⟩ := hname
  exact ⟨analyzer, by rw [get, hfound]⟩

/-- A registry says which names it knows when it is asked for another. -/
theorem Registry.get_of_not_mem (registry : Registry) {name : String}
    (hname : name ∉ registry.analyzers.keys) :
    registry.get name = .error (.unknownAnalyzer name registry.analyzers.keys) := by
  rw [Std.ExtTreeMap.mem_keys] at hname
  rw [get, Std.ExtTreeMap.getElem?_eq_none hname]

section Reading

variable {tree : FileTree} {path text : String} {cause : FileError}

/-- The text of a query is read and trimmed. -/
theorem run_loadText (hreads : tree.Reads path text) :
    (Query.loadText (m := StateM FileTree) path).run.run tree = (.ok (Text.trim text), tree) :=
  run_bind_of_ok (run_adapt_readText hreads _) _

theorem run_loadText_of_unreadable (hunreadable : tree.Unreadable path cause) :
    (Query.loadText (m := StateM FileTree) path).run.run tree =
      (.error (.queryFile path cause), tree) :=
  run_bind_of_error (run_adapt_readText_of_unreadable hunreadable _) _

/-- A manifest is read. -/
theorem run_loadCorpus (hreads : tree.Reads path text) :
    (Corpus.load (m := StateM FileTree) path).run.run tree = (.ok (.ofManifest text), tree) :=
  run_bind_of_ok (run_adapt_readText hreads _) _

theorem run_loadCorpus_of_unreadable (hunreadable : tree.Unreadable path cause) :
    (Corpus.load (m := StateM FileTree) path).run.run tree =
      (.error (.manifest path cause), tree) :=
  run_bind_of_error (run_adapt_readText_of_unreadable hunreadable _) _

end Reading

/-! ## Writing the outputs -/

section Writing

variable {tree after : FileTree} {path : String} {content : ByteArray} {cause : FileError}
  {ε : Type}

theorem run_write (path : String) (content : ByteArray) :
    (Storage.write (m := StateM FileTree) path content).run.run tree =
      match tree.write path content with
      | .ok after => (.ok (), after)
      | .error cause => (.error cause, tree) :=
  rfl

/-- A file is written where it can be. -/
theorem run_adapt_write (hwrite : tree.write path content = .ok after) (f : FileError → ε) :
    ((Storage.write (m := StateM FileTree) path content).adapt f).run.run tree =
      (.ok (), after) := by
  have hrun : (Storage.write (m := StateM FileTree) path content).run.run tree =
      (.ok (), after) := by rw [run_write, hwrite]
  exact run_adapt hrun f

/-- A file that cannot be written is left as it is. -/
theorem run_adapt_write_of_error (hwrite : tree.write path content = .error cause)
    (f : FileError → ε) :
    ((Storage.write (m := StateM FileTree) path content).adapt f).run.run tree =
      (.error (f cause), tree) := by
  have hrun : (Storage.write (m := StateM FileTree) path content).run.run tree =
      (.error cause, tree) := by rw [run_write, hwrite]
  exact run_adapt hrun f

end Writing

/-! ## Inputs -/

/-- The usable inputs of the batch job: the trimmed text of the query, the analyzer, and the
paths and texts of the documents. -/
structure Inputs where
  query : String
  analyzer : Analyzer
  documents : List (String × String)

namespace Inputs

/-- The corpus of the documents. -/
def corpus (inputs : Inputs) : Corpus :=
  .ofPaths (inputs.documents.map (·.1))

/-- The index of the documents. -/
def index (inputs : Inputs) : Index :=
  .ofDocuments inputs.analyzer.toPreprocessor (idTexts (numbered inputs.documents))

/-- The database of the documents. -/
def database (inputs : Inputs) (config : Config) : Database where
  config
  corpus := inputs.corpus
  preprocessor := inputs.analyzer.toPreprocessor
  index := inputs.index

/-- The inputs are what a tree has under the given names. -/
structure FoundIn (inputs : Inputs) (tree : FileTree) (manifest queryFile : String)
    (config : Config) : Prop where
  query : ∃ text, tree.Reads queryFile text ∧ inputs.query = Text.trim text
  analyzer : (Registry.presets config.lowercase).get config.analyzer = .ok inputs.analyzer
  manifest : ∃ listing, tree.Reads manifest listing ∧ Corpus.ofManifest listing = inputs.corpus
  documents : ∀ document ∈ inputs.documents, tree.Reads document.1 document.2

end Inputs

/-- An input of the batch job cannot be used.  The number says when the job needs the input,
documents in the order of their ids; the error and its kind are those of a job that fails for it. -/
inductive Fault (tree : FileTree) (manifest queryFile : String) (config : Config) :
    Nat → ErrorKind → Error → Prop where
  | query {cause : FileError} (hunreadable : tree.Unreadable queryFile cause) :
      Fault tree manifest queryFile config 0 .io (.queryFile queryFile cause)
  | analyzer (hunknown : config.analyzer ∉ Registry.presetNames) :
      Fault tree manifest queryFile config 1 .invalidArgument
        (.unknownAnalyzer config.analyzer Registry.presetNames)
  | manifest {cause : FileError} (hunreadable : tree.Unreadable manifest cause) :
      Fault tree manifest queryFile config 2 .missingManifest (.manifest manifest cause)
  | document {listing : String} {document : Document} {cause : FileError}
      (hlisting : tree.Reads manifest listing)
      (hlisted : document ∈ (Corpus.ofManifest listing).documents)
      (hunreadable : tree.Unreadable document.path cause) :
      Fault tree manifest queryFile config (2 + document.id) .missingDocument
        (.document document.id document.path cause)

/-- The fault of the input that is needed first among those that cannot be used. -/
structure FirstFault (tree : FileTree) (manifest queryFile : String) (config : Config)
    (stage : Nat) (kind : ErrorKind) (error : Error) : Prop where
  fault : Fault tree manifest queryFile config stage kind error
  first : ∀ earlier < stage, ∀ kind error, ¬Fault tree manifest queryFile config earlier kind error

section Faults

variable {tree : FileTree} {manifest queryFile : String} {config : Config} {stage : Nat}
  {kind : ErrorKind} {error : Error}

/-- Among faults there is a first. -/
theorem Fault.exists_first (hfault : Fault tree manifest queryFile config stage kind error) :
    ∃ stage kind error, FirstFault tree manifest queryFile config stage kind error := by
  classical
  have hsome : ∃ stage kind error, Fault tree manifest queryFile config stage kind error :=
    ⟨stage, kind, error, hfault⟩
  obtain ⟨kind, error, hfound⟩ := Nat.find_spec hsome
  refine ⟨Nat.find hsome, kind, error, hfound, ?_⟩
  intro earlier hearlier kind error hother
  exact Nat.find_min hsome hearlier ⟨kind, error, hother⟩

/-- The kind of a fault is that of its error. -/
theorem Fault.kind_eq (hfault : Fault tree manifest queryFile config stage kind error) :
    error.kind = kind := by
  cases hfault <;> rfl

/-! Without a fault at a stage, the input of that stage can be used. -/

theorem exists_reads_query
    (hnone : ∀ kind error, ¬Fault tree manifest queryFile config 0 kind error) :
    ∃ text, tree.Reads queryFile text := by
  refine FileTree.exists_reads fun cause hunreadable => ?_
  exact hnone _ _ (.query hunreadable)

theorem exists_get_analyzer
    (hnone : ∀ kind error, ¬Fault tree manifest queryFile config 1 kind error) :
    ∃ analyzer, (Registry.presets config.lowercase).get config.analyzer = .ok analyzer := by
  apply Registry.exists_get_of_mem
  rw [Registry.keys_presets]
  by_contra hunknown
  exact hnone _ _ (.analyzer hunknown)

theorem exists_reads_document {listing : String} {document : Document}
    (hlisting : tree.Reads manifest listing)
    (hlisted : document ∈ (Corpus.ofManifest listing).documents)
    (hnone : ∀ kind error, ¬Fault tree manifest queryFile config (2 + document.id) kind error) :
    ∃ text, tree.Reads document.path text := by
  refine FileTree.exists_reads fun cause hunreadable => ?_
  exact hnone _ _ (.document hlisting hlisted hunreadable)

end Faults

/-! ## The stages of a run -/

namespace Database

section Stages

variable {tree written after : FileTree} {manifest queryFile query : String} {config : Config}
  {inputs : Inputs} {database : Database} {hits : DocSet} {cause : FileError}

/-- A manifest is read when the analyzer is known. -/
theorem run_load_of_get {analyzer : Analyzer}
    (hanalyzer : (Registry.presets config.lowercase).get config.analyzer = .ok analyzer) :
    (load (m := StateM FileTree) manifest config).run.run tree =
      (Corpus.load manifest >>= fun corpus =>
        build (m := StateM FileTree) corpus analyzer.toPreprocessor config).run.run tree := by
  rw [load, hanalyzer, run_bind_of_ok (run_ofExcept (.ok analyzer))]

/-- A database is loaded from usable inputs. -/
theorem run_load_of_foundIn (hfound : inputs.FoundIn tree manifest queryFile config) :
    (load (m := StateM FileTree) manifest config).run.run tree =
      (.ok (inputs.database config), tree) := by
  obtain ⟨listing, hlisting, hcorpus⟩ := hfound.manifest
  rw [run_load_of_get hfound.analyzer, run_bind_of_ok (run_loadCorpus hlisting), hcorpus]
  exact run_build _ config hfound.documents

/-- An index is not built from a corpus with a document that cannot be read; the first such
document decides the error. -/
theorem run_build_of_unreadable (preprocessor : Preprocessor) (config : Config)
    {corpus : Corpus} {document : Document} (hlisted : document ∈ corpus.documents)
    (hbefore : ∀ earlier ∈ corpus.documents, earlier.id < document.id →
      ∃ text, tree.Reads earlier.path text)
    (hunreadable : tree.Unreadable document.path cause) :
    (build (m := StateM FileTree) corpus preprocessor config).run.run tree =
      (.error (.document document.id document.path cause), tree) := by
  obtain ⟨before, rest, hdocuments⟩ := List.append_of_mem hlisted
  -- What is listed before a document has a lower id.
  have hascend := documents_ascend corpus
  rw [hdocuments, List.pairwise_append] at hascend
  have hreads : ∀ earlier ∈ before, ∃ text, tree.Reads earlier.path text := by
    intro earlier hmem
    apply hbefore earlier
    · rw [hdocuments]
      exact List.mem_append_left _ hmem
    · exact hascend.2.2 earlier hmem document List.mem_cons_self
  exact run_bind_of_error (run_buildIndex_of_unreadable hdocuments hreads hunreadable) _

/-- What a run does when its inputs have been read: save the index, search, and save the
matches. -/
def finish (database : Database) (query : String) : ExceptT Error (StateM FileTree) DocSet := do
  database.saveIndex
  let hits ← MonadExcept.ofExcept (database.search query)
  database.saveResults hits
  return hits

/-- With usable inputs nothing is written before the index is. -/
theorem run_of_foundIn (hfound : inputs.FoundIn tree manifest queryFile config) :
    (run (m := StateM FileTree) manifest queryFile config).run.run tree =
      ((inputs.database config).finish inputs.query).run.run tree := by
  obtain ⟨text, htext, hquery⟩ := hfound.query
  rw [run, run_bind_of_ok (run_loadText htext), run_bind_of_ok (run_load_of_foundIn hfound),
    hquery]
  rfl

/-- The first fault of the inputs ends a run before anything is written. -/
theorem run_of_firstFault {stage : Nat} {kind : ErrorKind} {error : Error}
    (hfirst : FirstFault tree manifest queryFile config stage kind error) :
    (run (m := StateM FileTree) manifest queryFile config).run.run tree =
      (.error error, tree) := by
  obtain ⟨hfault, hnone⟩ := hfirst
  -- No earlier stage has a fault, so the run comes as far as the stage of this one.
  cases hfault with
  | query hunreadable => exact run_bind_of_error (run_loadText_of_unreadable hunreadable) _
  | analyzer hunknown =>
      obtain ⟨text, htext⟩ := exists_reads_query (hnone 0 (by omega))
      have hget : (Registry.presets config.lowercase).get config.analyzer =
          .error (.unknownAnalyzer config.analyzer Registry.presetNames) := by
        rw [← Registry.keys_presets config.lowercase] at hunknown ⊢
        exact Registry.get_of_not_mem _ hunknown
      rw [run, run_bind_of_ok (run_loadText htext), load, hget]
      rfl
  | manifest hunreadable =>
      obtain ⟨text, htext⟩ := exists_reads_query (hnone 0 (by omega))
      obtain ⟨analyzer, hanalyzer⟩ := exists_get_analyzer (hnone 1 (by omega))
      have hload := (run_load_of_get hanalyzer).trans
        (run_bind_of_error (run_loadCorpus_of_unreadable hunreadable) _)
      rw [run, run_bind_of_ok (run_loadText htext)]
      exact run_bind_of_error hload _
  | document hlisting hlisted hunreadable =>
      obtain ⟨text, htext⟩ := exists_reads_query (hnone 0 (by omega))
      obtain ⟨analyzer, hanalyzer⟩ := exists_get_analyzer (hnone 1 (by omega))
      have hbuild := run_build_of_unreadable analyzer.toPreprocessor config hlisted
        (fun earlier hearlier hlt =>
          exists_reads_document hlisting hearlier (hnone _ (by omega))) hunreadable
      have hload := (run_load_of_get hanalyzer).trans
        ((run_bind_of_ok (run_loadCorpus hlisting) _).trans hbuild)
      rw [run, run_bind_of_ok (run_loadText htext)]
      exact run_bind_of_error hload _

/-- The index is saved where its file can be written. -/
theorem run_saveIndex (database : Database) (hwrite : tree.write database.config.indexPath
      database.index.render.toUTF8 = .ok written) :
    (database.saveIndex (m := StateM FileTree)).run.run tree = (.ok (), written) :=
  run_adapt_write hwrite _

theorem run_saveIndex_of_error (database : Database) (hwrite : tree.write database.config.indexPath
      database.index.render.toUTF8 = .error cause) :
    (database.saveIndex (m := StateM FileTree)).run.run tree =
      (.error (.indexFile database.config.indexPath cause), tree) :=
  run_adapt_write_of_error hwrite _

/-- Matches that are documents of the corpus are saved where their file can be written. -/
theorem run_saveResults (database : Database) {text : String}
    (hrender : Results.render hits database.corpus database.config.resultPaths = (text, none))
    (hwrite : tree.write database.config.resultPath text.toUTF8 = .ok after) :
    (database.saveResults (m := StateM FileTree) hits).run.run tree = (.ok (), after) := by
  rw [saveResults, hrender]
  exact run_bind_of_ok (run_adapt_write hwrite _) _

theorem run_saveResults_of_error (database : Database) {text : String}
    (hrender : Results.render hits database.corpus database.config.resultPaths = (text, none))
    (hwrite : tree.write database.config.resultPath text.toUTF8 = .error cause) :
    (database.saveResults (m := StateM FileTree) hits).run.run tree =
      (.error (.resultFile database.config.resultPath cause), tree) := by
  rw [saveResults, hrender]
  exact run_bind_of_error (run_adapt_write_of_error hwrite _) _

end Stages

/-! ## How a run ends -/

/-- How a run of the batch job on a tree can end: with which result, and what it leaves. -/
inductive Outcome (tree : FileTree) (manifest queryFile : String) (config : Config) :
    Except Error DocSet → FileTree → Prop where
  /-- An input cannot be used. -/
  | unusable {stage : Nat} {kind : ErrorKind} {error : Error}
      (hfirst : FirstFault tree manifest queryFile config stage kind error) :
      Outcome tree manifest queryFile config (.error error) tree
  /-- The index file cannot be written. -/
  | indexRefused {inputs : Inputs} {cause : FileError}
      (hfound : inputs.FoundIn tree manifest queryFile config)
      (hwrite : tree.write config.indexPath inputs.index.render.toUTF8 = .error cause) :
      Outcome tree manifest queryFile config (.error (.indexFile config.indexPath cause)) tree
  /-- The query is malformed. -/
  | malformed {inputs : Inputs} {written : FileTree} {error : Error}
      (hfound : inputs.FoundIn tree manifest queryFile config)
      (hwrite : tree.write config.indexPath inputs.index.render.toUTF8 = .ok written)
      (hsearch : (inputs.database config).search inputs.query = .error error) :
      Outcome tree manifest queryFile config (.error error) written
  /-- The result file cannot be written. -/
  | resultRefused {inputs : Inputs} {written : FileTree} {hits : DocSet} {text : String}
      {cause : FileError}
      (hfound : inputs.FoundIn tree manifest queryFile config)
      (hwrite : tree.write config.indexPath inputs.index.render.toUTF8 = .ok written)
      (hsearch : (inputs.database config).search inputs.query = .ok hits)
      (hrender : Results.render hits inputs.corpus config.resultPaths = (text, none))
      (hresult : written.write config.resultPath text.toUTF8 = .error cause) :
      Outcome tree manifest queryFile config (.error (.resultFile config.resultPath cause)) written
  /-- Both files are written. -/
  | answered {inputs : Inputs} {written after : FileTree} {hits : DocSet} {text : String}
      (hfound : inputs.FoundIn tree manifest queryFile config)
      (hwrite : tree.write config.indexPath inputs.index.render.toUTF8 = .ok written)
      (hsearch : (inputs.database config).search inputs.query = .ok hits)
      (hrender : Results.render hits inputs.corpus config.resultPaths = (text, none))
      (hresult : written.write config.resultPath text.toUTF8 = .ok after) :
      Outcome tree manifest queryFile config (.ok hits) after

section Outcomes

open FileTree

variable {tree after : FileTree} {manifest queryFile : String} {config : Config}
  {result : Except Error DocSet}

/-- A run ends in every way that is open to it. -/
theorem run_eq_of_outcome (houtcome : Outcome tree manifest queryFile config result after) :
    (run (m := StateM FileTree) manifest queryFile config).run.run tree = (result, after) := by
  cases houtcome with
  | unusable hfirst => exact run_of_firstFault hfirst
  | @indexRefused inputs _ hfound hwrite =>
      have hsave := run_saveIndex_of_error (inputs.database config) hwrite
      rw [run_of_foundIn hfound, finish, run_bind_of_error hsave]
      rfl
  | @malformed inputs _ _ hfound hwrite hsearch =>
      have hsave := run_saveIndex (inputs.database config) hwrite
      rw [run_of_foundIn hfound, finish, run_bind_of_ok hsave, hsearch]
      rfl
  | @resultRefused inputs _ hits _ _ hfound hwrite hsearch hrender hresult =>
      have hsave := run_saveIndex (inputs.database config) hwrite
      have hresults := run_saveResults_of_error (inputs.database config) hrender hresult
      rw [run_of_foundIn hfound, finish, run_bind_of_ok hsave, hsearch,
        run_bind_of_ok (run_ofExcept (.ok hits)), run_bind_of_error hresults]
      rfl
  | @answered inputs _ _ hits _ hfound hwrite hsearch hrender hresult =>
      have hsave := run_saveIndex (inputs.database config) hwrite
      have hresults := run_saveResults (inputs.database config) hrender hresult
      rw [run_of_foundIn hfound, finish, run_bind_of_ok hsave, hsearch,
        run_bind_of_ok (run_ofExcept (.ok hits)), run_bind_of_ok hresults]
      rfl

/-- A run ends in one way only. -/
theorem Outcome.unique {result' : Except Error DocSet} {after' : FileTree}
    (houtcome : Outcome tree manifest queryFile config result after)
    (houtcome' : Outcome tree manifest queryFile config result' after') :
    result = result' ∧ after = after' :=
  Prod.mk.inj ((run_eq_of_outcome houtcome).symm.trans (run_eq_of_outcome houtcome'))

end Outcomes

/-! ## What a run leaves -/

section Effects

open FileTree

variable {tree after : FileTree} {manifest queryFile : String} {config : Config}
  {result : Except Error DocSet}

end Effects

end Database

end BooleanRetrieval
