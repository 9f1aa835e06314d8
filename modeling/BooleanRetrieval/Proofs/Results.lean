/-
# What a result file tells

Matches that are documents of the corpus are written without an error: the count of them and
then, in the order of ids, a line for each.  A search finds nothing else.  The paths of a
manifest hold no line end, so the lines are not broken, and they tell the matches if no path
comes twice.
-/

import BooleanRetrieval.Results
import BooleanRetrieval.Proofs.Corpus
import BooleanRetrieval.Proofs.Database.Search
import BooleanRetrieval.Proofs.FileTree

namespace BooleanRetrieval

namespace Results

open Text

/-- The lines of a text. -/
def textLines (text : String) : List String :=
  (linesBy (· = '\n') text.toList).map String.ofList

variable {corpus : Corpus} {hits : DocSet}

/-! ## Lines of a result file -/

/-- Listed ids of the corpus stand for documents, which are named one by one. -/
theorem exists_documents {ids : List Nat} (hlisted : ∀ id ∈ ids, id ∈ corpus.ids) :
    ∃ documents : List Document, documents.map (·.id) = ids ∧
      (∀ document ∈ documents, corpus.get? document.id = some document) ∧
      ∀ style, nameMatches corpus style ids = (documents.map style.nameOf, none) := by
  induction ids with
  | nil => exact ⟨[], rfl, by simp, fun _ => rfl⟩
  | cons id rest ih =>
      obtain ⟨hid, hrest⟩ := List.forall_mem_cons.mp hlisted
      obtain ⟨path, hdocument⟩ := Corpus.exists_get?_of_mem_ids hid
      obtain ⟨documents, hids, hfound, hnames⟩ := ih hrest
      refine ⟨⟨id, path⟩ :: documents, by rw [List.map_cons, hids], ?_, ?_⟩
      · exact List.forall_mem_cons.mpr ⟨hdocument, hfound⟩
      · intro style
        rw [nameMatches, hdocument, hnames style, List.map_cons]

/-- Matches that are documents of the corpus are written without an error: their number, and
their names in the order of ids. -/
theorem exists_render_eq (hlisted : ∀ id ∈ hits, id ∈ corpus.ids) :
    ∃ documents : List Document, documents.map (·.id) = hits.toList ∧
      (∀ document ∈ documents, corpus.get? document.id = some document) ∧
      ∀ style, render hits corpus style =
        (String.join ((toString hits.size :: documents.map style.nameOf).map (· ++ "\n")),
          none) := by
  have hmatches : ∀ id ∈ hits.toList, id ∈ corpus.ids := fun id hid =>
    hlisted id (Std.ExtTreeSet.mem_toList.mp hid)
  obtain ⟨documents, hids, hfound, hnames⟩ := exists_documents hmatches
  refine ⟨documents, hids, hfound, fun style => ?_⟩
  rw [render, hnames style]

theorem exists_render (style : PathStyle) (hlisted : ∀ id ∈ hits, id ∈ corpus.ids) :
    ∃ text, render hits corpus style = (text, none) := by
  obtain ⟨documents, -, -, hrender⟩ := exists_render_eq hlisted
  exact ⟨_, hrender style⟩

/-- A number in decimal holds no line end. -/
theorem newline_not_mem_toString (count : Nat) : '\n' ∉ (toString count).toList := by
  intro hnewline
  rw [Nat.toString_eq_ofList_toDigits, String.toList_ofList] at hnewline
  exact absurd (Nat.isDigit_of_mem_toDigits (by decide) (by decide) hnewline) (by decide)

/-- If no line holds a line end, lines that are all ended come back. -/
theorem textLines_join {lines : List String} (hclear : ∀ line ∈ lines, '\n' ∉ line.toList) :
    textLines (String.join (lines.map (· ++ "\n"))) = lines := by
  rw [textLines, linesBy_join hclear, List.map_map]
  simp

/-- Matches of a manifest are written in full as their number and their paths, a line for each. -/
theorem exists_textLines_eq {manifest : String}
    (hlisted : ∀ id ∈ hits, id ∈ (Corpus.ofManifest manifest).ids) :
    ∃ documents : List Document, documents.map (·.id) = hits.toList ∧
      (∀ document ∈ documents,
        (Corpus.ofManifest manifest).get? document.id = some document) ∧
      textLines (render hits (.ofManifest manifest) .full).1 =
        toString hits.size :: documents.map (·.path) := by
  obtain ⟨documents, hids, hfound, hrender⟩ := exists_render_eq hlisted
  refine ⟨documents, hids, hfound, ?_⟩
  rw [hrender .full]
  refine textLines_join (List.forall_mem_cons.mpr ⟨newline_not_mem_toString hits.size, ?_⟩)
  intro path hpath
  obtain ⟨document, hmem, rfl⟩ := List.mem_map.mp hpath
  exact Corpus.newline_not_mem_path (hfound document hmem)

end Results

namespace Database

open Results

variable {database : Database} {manifest query : String} {hits : DocSet}

/-- What a search finds are documents of the corpus. -/
theorem subset_of_search (hsearch : database.search query = .ok hits) :
    ∀ id ∈ hits, id ∈ database.corpus.ids := by
  rw [search_eq, FileTree.map_eq_ok_iff] at hsearch
  obtain ⟨parsed, -, rfl⟩ := hsearch
  intro id hid
  exact (Collection.mem_satisfy.mp hid).1

/-- The matches of a search are written and read back: they are documents of the manifest, no
style of names fails, and in full the lines are the number of matches and the paths of the
matching documents in the order of ids, which tell the matches if no path comes twice. -/
theorem results_come_back (hcorpus : database.corpus = .ofManifest manifest)
    (hsearch : database.search query = .ok hits) :
    (∀ id ∈ hits, 1 ≤ id ∧ id ≤ database.corpus.size) ∧
      (∀ style, (render hits database.corpus style).2 = none) ∧
      ∃ documents : List Document,
        (documents.map (·.id)).Pairwise (· < ·) ∧
        (∀ id, id ∈ documents.map (·.id) ↔ id ∈ hits) ∧
        (∀ document ∈ documents, database.corpus.get? document.id = some document) ∧
        textLines (render hits database.corpus .full).1 =
          toString hits.size :: documents.map (·.path) ∧
        (textLines (render hits database.corpus .full).1).length = hits.size + 1 ∧
        (database.corpus.paths.toList.Nodup →
          database.corpus.idsOf (textLines (render hits database.corpus .full).1).tail =
            hits) := by
  have hsubset := subset_of_search hsearch
  rw [hcorpus] at hsubset ⊢
  obtain ⟨documents, hids, hfound, hlines⟩ := exists_textLines_eq hsubset
  have hmem : ∀ id, id ∈ documents.map (·.id) ↔ id ∈ hits := by
    intro id
    rw [hids, Std.ExtTreeSet.mem_toList]
  refine ⟨fun id hid => Corpus.mem_ids.mp (hsubset id hid), fun style => ?_, documents, ?_, hmem,
    hfound, hlines, ?_, fun hdistinct => ?_⟩
  · obtain ⟨text, hrender⟩ := exists_render style hsubset
    rw [hrender]
  · rw [hids]
    exact Std.ExtTreeSet.ordered_toList.imp Nat.compare_eq_lt.mp
  · have hlength := congrArg List.length hids
    rw [List.length_map, Std.ExtTreeSet.length_toList] at hlength
    rw [hlines, List.length_cons, List.length_map, hlength]
  · rw [hlines, List.tail_cons]
    apply Std.ExtTreeSet.ext_mem
    intro id
    rw [Corpus.mem_idsOf_paths hdistinct hfound, hmem]

/-- Two of three documents, from a manifest with a blank line and a path that starts with a
blank. -/
theorem results_come_back_two_of_three :
    let database : Database :=
      { config := {}
        corpus := .ofManifest "b/x.txt\n\n a.txt \r\nc\n"
        preprocessor := .reversed
        index := .ofDocuments .reversed [(1, "one two"), (2, "three"), (3, "one")] }
    ∃ hits, database.search "!one | two" = .ok hits ∧ hits.toList = [1, 2] ∧
      database.corpus.idsOf (textLines (render hits database.corpus .full).1).tail = hits := by
  intro database
  have hfound : (database.search "!one | two").toOption.map (·.toList) = some [1, 2] := by
    cbv
  cases hsearch : database.search "!one | two" with
  | error _ =>
      rw [hsearch] at hfound
      cases hfound
  | ok hits =>
      rw [hsearch] at hfound
      obtain ⟨-, -, _, -, -, -, -, -, hrecovered⟩ := results_come_back rfl hsearch
      have hdistinct : database.corpus.paths.toList.Nodup := by
        cbv
        decide
      exact ⟨hits, rfl, Option.some.inj hfound, hrecovered hdistinct⟩

end Database

end BooleanRetrieval
