/-
# What a search finds

A search on the database of a corpus finds the documents whose texts are as the query
asks.  Nothing of the index is left in this statement: a text is as an atom asks if the
preprocessor emits the term for it exactly when the atom is not negated, as far as the
term can be stored at all.
-/

import BooleanRetrieval.Proofs.Database.Build
import BooleanRetrieval.Proofs.Index.Content
import BooleanRetrieval.Proofs.Query.Evaluation

namespace BooleanRetrieval

/-- The term that is looked up for a query term: the term itself, or the first of its
terms if query terms pass through the preprocessor; the empty term if there is none. -/
def searchTerm (preprocessor : Preprocessor) (config : Config) (term : String) : String :=
  if config.analyzeQueryTerms then (preprocessor.terms term).head?.getD "" else term

/-- Whether a text has a term that an index can hold. -/
def HasTerm (preprocessor : Preprocessor) (text term : String) : Prop :=
  isStorable term ∧ term ∈ preprocessor.terms text

instance (preprocessor : Preprocessor) (text term : String) :
    Decidable (HasTerm preprocessor text term) :=
  inferInstanceAs (Decidable (_ ∧ _))

/-- Whether a text is as some group of a query asks. -/
def Answers (preprocessor : Preprocessor) (config : Config) (query : Query) (text : String) :
    Prop :=
  ∃ group ∈ query.groups, ∀ atom ∈ group.atoms,
    (HasTerm preprocessor text (searchTerm preprocessor config atom.term) ↔ atom.negated = false)

instance (preprocessor : Preprocessor) (config : Config) (query : Query) (text : String) :
    Decidable (Answers preprocessor config query text) :=
  inferInstanceAs (Decidable (∃ group ∈ query.groups, ∀ atom ∈ group.atoms, _))

/-- The ids of the texts that are as a query asks. -/
def answers (preprocessor : Preprocessor) (config : Config) (query : Query)
    (texts : List String) : Set Nat :=
  {id | 1 ≤ id ∧ ∃ text, texts[id - 1]? = some text ∧ Answers preprocessor config query text}

/-- The size of a set of documents counts its members. -/
theorem size_eq_ncard {found : DocSet} {ids : Set Nat} (hfound : ∀ id, id ∈ found ↔ id ∈ ids) :
    found.size = ids.ncard := by
  have hids : ids = found.toList.toFinset := by
    ext id
    rw [← hfound, Finset.mem_coe, List.mem_toFinset, Std.ExtTreeSet.mem_toList]
  have hnodup : found.toList.Nodup := by
    refine Std.ExtTreeSet.distinct_toList.imp ?_
    rintro first second hne rfl
    exact hne Std.ReflCmp.compare_self
  rw [hids, Set.ncard_coe_finset, List.toFinset_card_of_nodup hnodup,
    Std.ExtTreeSet.length_toList]

/-- A query whose terms stay as they are stays as it is. -/
theorem Query.mapTerms_self (query : Query) : query.mapTerms (fun term => term) = query := by
  simp [Query.mapTerms]

/-- What a query with other terms asks of the index. -/
theorem Query.holds_mapTerms {index : Index} {id : Nat} {query : Query}
    {replace : String → String} :
    (query.mapTerms replace).Holds index id ↔
      ∃ group ∈ query.groups, ∀ atom ∈ group.atoms,
        (id ∈ index.documents (replace atom.term) ↔ atom.negated = false) := by
  simp [Query.Holds, Query.Group.Holds, Query.Atom.Holds, Query.mapTerms]

namespace Database

variable {tree : FileTree}

/-- A query is asked with the terms to look up in place of its own. -/
theorem parseQuery_eq (database : Database) (text : String) :
    database.parseQuery text = (Query.parse database.config.lowercase text).map
      (·.mapTerms (searchTerm database.preprocessor database.config)) := by
  have hterms (query : Query) :
      (if database.config.analyzeQueryTerms then query.mapTerms database.indexTerm else query) =
        query.mapTerms (searchTerm database.preprocessor database.config) := by
    cases hanalyze : database.config.analyzeQueryTerms with
    | false =>
        have hsame : searchTerm database.preprocessor database.config = fun term => term := by
          funext term
          rw [searchTerm, hanalyze, if_neg Bool.false_ne_true]
        rw [hsame, Query.mapTerms_self, if_neg Bool.false_ne_true]
    | true =>
        have hsame : searchTerm database.preprocessor database.config = database.indexTerm := by
          funext term
          rw [searchTerm, hanalyze, if_pos rfl]
          rfl
        rw [hsame, if_pos rfl]
  rw [parseQuery]
  cases Query.parse database.config.lowercase text with
  | error error => rfl
  | ok query =>
      exact congrArg Except.ok (hterms query)

/-- A search fails as the parser does, and else returns the documents that satisfy the query
with the terms to look up. -/
theorem search_eq (database : Database) (text : String) :
    database.search text = (Query.parse database.config.lowercase text).map fun query =>
      database.collection.satisfy
        (query.mapTerms (searchTerm database.preprocessor database.config)) := by
  rw [search, parseQuery_eq]
  cases Query.parse database.config.lowercase text with
  | error error => rfl
  | ok query => rfl

/-- The database of documents that can be read. -/
theorem run_build (preprocessor : Preprocessor) (config : Config)
    {documents : List (String × String)}
    (hreads : ∀ document ∈ documents, tree.Reads document.1 document.2) :
    (build (m := StateM FileTree) (.ofPaths (documents.map (·.1))) preprocessor config).run.run
        tree =
      (.ok
        { config := config
          corpus := .ofPaths (documents.map (·.1))
          preprocessor := preprocessor
          index := .ofDocuments preprocessor (idTexts (numbered documents)) }, tree) := by
  rw [build, run_bind_of_ok (run_buildIndex preprocessor hreads)]
  rfl

/-- The members of the corpus are the ids of the texts. -/
theorem mem_ids_ofPaths {documents : List (String × String)} {id : Nat} :
    id ∈ (Corpus.ofPaths (documents.map (·.1))).ids ↔
      1 ≤ id ∧ ∃ text, (documents.map (·.2))[id - 1]? = some text := by
  have hplace : (∃ text, (documents.map (·.2))[id - 1]? = some text) ↔
      id - 1 < documents.length := by
    rw [← Option.isSome_iff_exists]
    simp
  have hsize : (Corpus.ofPaths (documents.map (·.1))).size = documents.length := by
    simp [Corpus.size, Corpus.ofPaths]
  rw [Corpus.ids, DocSet.mem_upTo, hplace, hsize]
  constructor
  · intro hrange
    rcases hrange with ⟨hpos, hle⟩
    exact ⟨hpos, by omega⟩
  · intro hrange
    rcases hrange with ⟨hpos, hlt⟩
    exact ⟨hpos, by omega⟩

/-- A document is found under the storable terms of its text. -/
theorem mem_documents_numbered {preprocessor : Preprocessor} {documents : List (String × String)}
    {id : Nat} {text term : String} (hpos : 1 ≤ id)
    (htext : (documents.map (·.2))[id - 1]? = some text) :
    id ∈ (Index.ofDocuments preprocessor (idTexts (numbered documents))).documents term ↔
      HasTerm preprocessor text term := by
  rw [Index.mem_documents_ofDocuments, HasTerm]
  constructor
  · intro hfound
    rcases hfound with ⟨hstorable, other, hother, hterm⟩
    obtain ⟨-, hother⟩ := mem_idTexts_numbered.mp hother
    rw [htext] at hother
    obtain rfl := Option.some.inj hother
    exact ⟨hstorable, hterm⟩
  · intro hhas
    rcases hhas with ⟨hstorable, hterm⟩
    exact ⟨hstorable, text, mem_idTexts_numbered.mpr ⟨hpos, htext⟩, hterm⟩

/-- What satisfies a query on the index of texts, seen from the texts. -/
theorem mem_satisfy_iff_mem_answers {preprocessor : Preprocessor} {config : Config}
    {documents : List (String × String)} {query : Query} {id : Nat} :
    id ∈ Collection.satisfy
        ⟨.ofDocuments preprocessor (idTexts (numbered documents)),
          (Corpus.ofPaths (documents.map (·.1))).ids⟩
        (query.mapTerms (searchTerm preprocessor config)) ↔
      id ∈ answers preprocessor config query (documents.map (·.2)) := by
  rw [Collection.mem_satisfy, Query.holds_mapTerms, mem_ids_ofPaths]
  constructor
  · intro hsatisfies
    rcases hsatisfies with ⟨⟨hpos, text, htext⟩, group, hgroup, hatoms⟩
    refine ⟨hpos, text, htext, group, hgroup, ?_⟩
    intro atom hatom
    rw [← mem_documents_numbered hpos htext]
    exact hatoms atom hatom
  · intro hanswers
    rcases hanswers with ⟨hpos, text, htext, group, hgroup, hatoms⟩
    refine ⟨⟨hpos, text, htext⟩, group, hgroup, ?_⟩
    intro atom hatom
    rw [mem_documents_numbered hpos htext]
    exact hatoms atom hatom

/-- A database is built from documents that can be read, and a search on it fails as the
parser does, or finds and counts the documents whose texts are as the query asks. -/
theorem search_build (preprocessor : Preprocessor) (config : Config)
    {documents : List (String × String)}
    (hreads : ∀ document ∈ documents, tree.Reads document.1 document.2) :
    ∃ database : Database,
      (build (m := StateM FileTree) (.ofPaths (documents.map (·.1))) preprocessor
        config).run.run tree = (.ok database, tree) ∧
      ∀ text,
        match Query.parse config.lowercase text with
        | .error error => database.search text = .error error
        | .ok query =>
          ∃ hits, database.search text = .ok hits ∧
            (∀ id, id ∈ hits ↔
              id ∈ answers preprocessor config query (documents.map (·.2))) ∧
            hits.size = (answers preprocessor config query (documents.map (·.2))).ncard := by
  refine ⟨_, run_build preprocessor config hreads, ?_⟩
  intro text
  split
  · next error hparse => rw [search_eq, hparse, Except.map]
  · next query hparse =>
      refine ⟨_, by rw [search_eq, hparse, Except.map], ?_, ?_⟩
      · intro id
        exact mem_satisfy_iff_mem_answers
      · apply size_eq_ncard
        intro id
        exact mem_satisfy_iff_mem_answers

/-- Two documents, of which the second has a term and lacks another. -/
theorem search_build_one_without_two :
    let tree := (FileTree.empty.plant ["a"] (.file "one two".toUTF8)).plant ["b"]
      (.file "three one".toUTF8)
    ∃ database : Database,
      (build (m := StateM FileTree) (.ofPaths ["a", "b"]) .reversed {}).run.run tree =
        (.ok database, tree) ∧
      ∃ hits, database.search "one !two" = .ok hits ∧ 2 ∈ hits ∧ 1 ∉ hits := by
  intro tree
  have hreads : ∀ document ∈ [("a", "one two"), ("b", "three one")],
      tree.Reads document.1 document.2 := by
    intro document hmem
    rcases List.mem_pair.mp hmem with rfl | rfl
    · show (tree.read "a").bind decodeText = .ok "one two"
      decide +kernel
    · show (tree.read "b").bind decodeText = .ok "three one"
      decide +kernel
  have hparse : Query.parse true "one !two" =
      .ok ⟨[⟨[⟨"one", false⟩, ⟨"two", true⟩]⟩]⟩ := by decide +kernel
  obtain ⟨database, hbuild, hsearch⟩ := search_build .reversed {} hreads
  have hfound := hsearch "one !two"
  rw [hparse] at hfound
  obtain ⟨hits, hhits, hmem, -⟩ := hfound
  refine ⟨database, hbuild, hits, hhits, ?_, ?_⟩
  · rw [hmem]
    exact ⟨by decide, "three one", rfl, by decide +kernel⟩
  · rw [hmem]
    intro hanswered
    rcases hanswered with ⟨-, text, htext, hanswers⟩
    obtain rfl := Option.some.inj htext
    exact absurd hanswers (by decide +kernel)

end Database

end BooleanRetrieval
