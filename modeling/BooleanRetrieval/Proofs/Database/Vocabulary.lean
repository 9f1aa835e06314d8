/-
# Documents under their own text

A query of one plain term finds the documents whose whole text is that term, if the analyzer
has a term for it.  A text is lower-cased word by word when it is indexed and as a whole when
it is asked for, so with lower-casing the two must come to the same; a capital sigma that sees
beyond its word makes the difference.
-/

import BooleanRetrieval.Proofs.Analyzer
import BooleanRetrieval.Proofs.Database.Search
import BooleanRetrieval.Proofs.Query.Rendering

namespace BooleanRetrieval

/-! ## What was loaded -/

/-- A preset has the setting of case that it was made with, and the usual limit. -/
theorem Registry.tokenizer_of_get_presets {lowercase : Bool} {name : String} {analyzer : Analyzer}
    (hget : (Registry.presets lowercase).get name = .ok analyzer) :
    analyzer.tokenizer = { lowercase } := by
  have hname : (Registry.presets lowercase).analyzers[name]? = some analyzer := by
    rw [get] at hget
    split at hget
    · next found hfound =>
        rw [hfound, Except.ok.inj hget]
    · cases hget
  simp only [presets, register, Std.ExtTreeMap.getElem?_insert] at hname
  split at hname
  · rw [← Option.some.inj hname]
    rfl
  split at hname
  · rw [← Option.some.inj hname]
    rfl
  split at hname
  · rw [← Option.some.inj hname]
    rfl
  · cases hname

namespace Database

variable {tree after : FileTree} {manifest : String} {config : Config} {database : Database}

/-- A database that was loaded is that of documents that can be read, with a preset. -/
theorem exists_documents_of_run_load
    (hload : (load (m := StateM FileTree) manifest config).run.run tree = (.ok database, after)) :
    ∃ (analyzer : Analyzer) (documents : List (String × String)),
      analyzer.tokenizer = { lowercase := config.lowercase } ∧
      (∀ document ∈ documents, tree.Reads document.1 document.2) ∧
      database =
        { config := config
          corpus := .ofPaths (documents.map (·.1))
          preprocessor := analyzer.toPreprocessor
          index := .ofDocuments analyzer.toPreprocessor (idTexts (numbered documents)) } := by
  obtain ⟨analyzer, _, hget, hrest⟩ := ok_of_run_bind hload
  rw [run_ofExcept] at hget
  obtain ⟨hpreset, rfl⟩ := Prod.mk.inj hget
  obtain ⟨corpus, _, hcorpus, hbuild⟩ := ok_of_run_bind hrest
  obtain ⟨text, _, hmanifest, hofManifest⟩ := ok_of_run_bind hcorpus
  obtain ⟨-, rfl⟩ := reads_of_run_readText (ok_of_run_adapt hmanifest)
  obtain ⟨-, rfl⟩ := Prod.mk.inj hofManifest
  obtain ⟨index, _, hindex, -⟩ := ok_of_run_bind hbuild
  obtain ⟨hreads, rfl⟩ := reads_of_run_buildIndex hindex
  obtain ⟨documents, rfl, hdocuments⟩ := Corpus.exists_texts hreads
  rw [run_build analyzer.toPreprocessor config hdocuments] at hbuild
  obtain ⟨hdatabase, -⟩ := Prod.mk.inj hbuild
  exact ⟨analyzer, documents, Registry.tokenizer_of_get_presets hpreset, hdocuments,
    (Except.ok.inj hdatabase).symm⟩

/-- A query of one plain term finds each document whose whole text it is, if the text has a term
at all and lower-casing it as a whole does what lower-casing its words does. -/
theorem search_finds_own_text
    (hload : (load (m := StateM FileTree) manifest config).run.run tree = (.ok database, after))
    (hanalyze : config.analyzeQueryTerms = true) {document : Document} {term : String}
    (hdocument : document ∈ database.corpus.documents) (hreads : tree.Reads document.path term)
    (hplain : Query.PlainTerm false term) (hterms : database.preprocessor.terms term ≠ [])
    (hstable : config.lowercase = true → Tokenizer.CaseStable {} term) :
    ∃ hits, database.search term = .ok hits ∧ document.id ∈ hits := by
  obtain ⟨analyzer, documents, htokenizer, hdocuments, rfl⟩ := exists_documents_of_run_load hload
  have hplace : 1 ≤ document.id ∧ (documents.map (·.2))[document.id - 1]? = some term := by
    rw [documents_ofPaths] at hdocument
    obtain ⟨entry, hentry, rfl⟩ := List.mem_map.mp hdocument
    have hplace := mem_idTexts_numbered.mp (List.mem_map_of_mem hentry)
    obtain ⟨⟨_, _⟩, hsource, rfl⟩ := List.mem_map.mp hentry
    rwa [(hdocuments _ (List.fst_mem_of_mem_zipIdx hsource)).eq hreads] at hplace
  -- The parser has lower-cased the term before the analyzer sees it.
  have hsame : analyzer.terms (if config.lowercase then Text.lower term else term) =
      analyzer.terms term := by
    split
    · next hlowercase =>
        rw [hlowercase] at htokenizer
        apply analyzer.terms_lower
        · rw [htokenizer]
        · rw [htokenizer]
          exact hstable hlowercase
    · rfl
  obtain ⟨first, others, hfirst⟩ := List.exists_cons_of_ne_nil hterms
  have hfirst : analyzer.terms term = first :: others := hfirst
  have hsearch : searchTerm analyzer.toPreprocessor config
      (if config.lowercase then Text.lower term else term) = first := by
    rw [searchTerm, hanalyze, if_pos rfl]
    show (analyzer.terms _).head?.getD "" = first
    rw [hsame, hfirst]
    rfl
  refine ⟨_, by rw [search_eq, Query.parse_plainTerm hplain, Except.map], ?_⟩
  apply mem_satisfy_iff_mem_answers.mpr
  refine ⟨hplace.1, term, hplace.2, _, List.mem_singleton.mpr rfl, ?_⟩
  rw [List.forall_mem_singleton, hsearch]
  have hmem : first ∈ analyzer.terms term := by
    rw [hfirst]
    exact List.mem_cons_self
  exact iff_of_true ⟨analyzer.isStorable_of_mem_terms hplain.no_blank hmem, hmem⟩ rfl

/-- Words under their stems. -/
theorem search_finds_own_text_of_two_words :
    let tree := (FileTree.empty.plant ["m"] (.file "d\n".toUTF8)).plant ["d"]
      (.file "Wind-Mills".toUTF8)
    ∃ database after, (load (m := StateM FileTree) "m" { analyzer := "english" }).run.run tree =
        (.ok database, after) ∧
      ∃ hits, database.search "Wind-Mills" = .ok hits ∧ 1 ∈ hits := by
  intro tree
  let config : Config := { analyzer := "english" }
  let run := (load (m := StateM FileTree) "m" config).run.run tree
  have hread : run.1.toOption.map (fun database =>
      (database.corpus.documents, database.preprocessor.terms "Wind-Mills")) =
        some ([⟨1, "d"⟩], ["wind", "mill"]) := by decide +kernel
  have hreads : tree.Reads "d" "Wind-Mills" := by
    show (tree.read "d").bind decodeText = .ok "Wind-Mills"
    decide +kernel
  have hplain : Query.PlainTerm false "Wind-Mills" := by decide +kernel
  have hstable : Tokenizer.CaseStable {} "Wind-Mills" := by decide +kernel
  rcases hrun : run with ⟨result, after⟩
  rw [hrun] at hread
  cases result with
  | error error => cases hread
  | ok database =>
      obtain ⟨hdocuments, hterms⟩ := Prod.mk.inj (Option.some.inj hread)
      have hdocument : (⟨1, "d"⟩ : Document) ∈ database.corpus.documents := by
        rw [hdocuments]
        exact List.mem_singleton.mpr rfl
      have hfull : database.preprocessor.terms "Wind-Mills" ≠ [] := by
        rw [hterms]
        exact List.cons_ne_nil _ _
      exact ⟨database, after, hrun,
        search_finds_own_text hrun rfl hdocument hreads hplain hfull fun _ => hstable⟩

/-- The sigma ends its word in the document.  In the query, which is lower-cased before it is cut
into words, a letter follows it behind the circumflex. -/
theorem search_misses_own_text_of_sigma :
    let tree := (FileTree.empty.plant ["m"] (.file "d\n".toUTF8)).plant ["d"]
      (.file "ΑΣ^Α".toUTF8)
    ∃ database after, (load (m := StateM FileTree) "m" { analyzer := "simple" }).run.run tree =
        (.ok database, after) ∧
      ⟨1, "d"⟩ ∈ database.corpus.documents ∧ tree.Reads "d" "ΑΣ^Α" ∧
      Query.PlainTerm false "ΑΣ^Α" ∧ database.preprocessor.terms "ΑΣ^Α" = ["ας", "α"] ∧
      ∃ hits, database.search "ΑΣ^Α" = .ok hits ∧ 1 ∉ hits := by
  intro tree
  let config : Config := { analyzer := "simple" }
  let run := (load (m := StateM FileTree) "m" config).run.run tree
  have hread : run.1.toOption.map (fun database =>
      (database.corpus.documents, database.preprocessor.terms "ΑΣ^Α")) =
        some ([⟨1, "d"⟩], ["ας", "α"]) := by decide +kernel
  have hsearch : run.1.toOption.bind (fun database =>
      (database.search "ΑΣ^Α").toOption.map fun hits => decide (1 ∈ hits)) = some false := by
    decide +kernel
  have hreads : tree.Reads "d" "ΑΣ^Α" := by
    show (tree.read "d").bind decodeText = .ok "ΑΣ^Α"
    decide +kernel
  have hplain : Query.PlainTerm false "ΑΣ^Α" := by decide +kernel
  rcases hrun : run with ⟨result, after⟩
  rw [hrun] at hread hsearch
  cases result with
  | error error => cases hread
  | ok database =>
      obtain ⟨hdocuments, hterms⟩ := Prod.mk.inj (Option.some.inj hread)
      refine ⟨database, after, hrun, ?_, hreads, hplain, hterms, ?_⟩
      · rw [hdocuments]
        exact List.mem_singleton.mpr rfl
      · cases hfound : database.search "ΑΣ^Α" with
        | error error =>
            simp only [Except.toOption, Option.bind_some, hfound] at hsearch
            cases hsearch
        | ok hits =>
            simp only [Except.toOption, Option.bind_some, hfound] at hsearch
            exact ⟨hits, rfl, of_decide_eq_false (Option.some.inj hsearch)⟩

end Database

end BooleanRetrieval
