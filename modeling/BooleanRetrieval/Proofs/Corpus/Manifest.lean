/-
# What a manifest lists

A manifest names a document on each line that is not blank, by what is left of the line without
the blanks at its end.  Lines are cut at line feeds only, so a carriage return is such a blank.
Blank lines take no id, and blanks at the ends of lines say nothing, so a manifest with more of
them lists the same; and paths that have no line feed and no blank at the end are listed as they
are.
-/

import BooleanRetrieval.Proofs.Corpus
import Mathlib.Data.List.Forall2

namespace BooleanRetrieval

open Text

namespace Corpus

/-! ## Lines and paths -/

/-- A line that names a path: blanks may follow the path, which ends in another character. -/
structure Names (line : List Char) (path : String) : Prop where
  exists_blanks : ∃ blanks, line = path.toList ++ blanks ∧ ∀ c ∈ blanks, isBlank c
  no_blank_end : ∃ c, path.toList.getLast? = some c ∧ isBlank c = false

/-- A path that a manifest can list. -/
structure IsListed (path : String) : Prop where
  no_newline : '\n' ∉ path.toList
  not_blank : path.toList.all isBlank = false
  no_blank_end : path.toList.getLast?.any isBlank = false

/-- Lines to which blank lines have been added, and blanks at the ends of lines. -/
inductive Padded : List (List Char) → List (List Char) → Prop
  | nil : Padded [] []
  | blankLine {line : List Char} {lines padded : List (List Char)} :
      line.all isBlank → Padded lines padded → Padded lines (line :: padded)
  | line {line blanks : List Char} {lines padded : List (List Char)} :
      blanks.all isBlank → Padded lines padded →
      Padded (line :: lines) ((line ++ blanks) :: padded)

/-- The paths that lines name. -/
def pathsOf (lines : List (List Char)) : List String :=
  ((lines.map dropBlankEnd).filter (!·.isEmpty)).map String.ofList

/-- A line that is not blank names a path. -/
theorem names_dropBlankEnd {line : List Char} (hline : line.all isBlank = false) :
    Names line (.ofList (dropBlankEnd line)) := by
  have hfull : line.rdropWhile isBlank ≠ [] := by
    rw [← dropBlankEnd_eq_rdropWhile, ← List.isEmpty_eq_false_iff, isEmpty_dropBlankEnd, hline]
  refine ⟨⟨line.rtakeWhile isBlank, ?_, fun c => List.mem_rtakeWhile_imp⟩, ?_⟩
  · rw [String.toList_ofList, dropBlankEnd_eq_rdropWhile, List.rdropWhile_append_rtakeWhile]
  · refine ⟨_, ?_, by simpa using List.rdropWhile_last_not isBlank line hfull⟩
    rw [String.toList_ofList, dropBlankEnd_eq_rdropWhile, List.getLast?_eq_some_getLast]

theorem pathsOf_cons (line : List Char) (rest : List (List Char)) :
    pathsOf (line :: rest) =
      if line.all isBlank then pathsOf rest
      else .ofList (dropBlankEnd line) :: pathsOf rest := by
  rw [pathsOf, List.map_cons, List.filter_cons, isEmpty_dropBlankEnd]
  cases line.all isBlank <;> rfl

/-- The lines that are not blank name these paths, one by one. -/
theorem forall₂_names_pathsOf (lines : List (List Char)) :
    List.Forall₂ Names (lines.filter fun line => !line.all isBlank) (pathsOf lines) := by
  induction lines with
  | nil => exact .nil
  | cons line rest ih =>
      rw [pathsOf_cons, List.filter_cons]
      cases hline : line.all isBlank with
      | true => exact ih
      | false => exact .cons (names_dropBlankEnd hline) ih

/-- Blank lines and blanks at the ends of lines name nothing. -/
theorem Padded.pathsOf_eq {lines padded : List (List Char)} (hpadded : Padded lines padded) :
    pathsOf padded = pathsOf lines := by
  induction hpadded with
  | nil => rfl
  | blankLine hblank _ ih => rw [pathsOf_cons, if_pos hblank, ih]
  | line hblanks _ ih =>
      rw [pathsOf_cons, pathsOf_cons, dropBlankEnd_append hblanks, List.all_append, hblanks,
        Bool.and_true, ih]

/-- A path that can be listed names itself. -/
theorem pathsOf_map_toList {paths : List String} (hlisted : ∀ path ∈ paths, IsListed path) :
    pathsOf (paths.map String.toList) = paths := by
  induction paths with
  | nil => rfl
  | cons path rest ih =>
      obtain ⟨hpath, hrest⟩ := List.forall_mem_cons.mp hlisted
      have hself : dropBlankEnd path.toList = path.toList := by
        rw [dropBlankEnd_eq_rdropWhile, List.rdropWhile_eq_self_iff]
        intro hfull
        simpa [List.getLast?_eq_some_getLast hfull] using hpath.no_blank_end
      rw [List.map_cons, pathsOf_cons, hpath.not_blank, if_neg Bool.false_ne_true, hself,
        String.ofList_toList, ih hrest]

/-! ## Texts -/

/-- Nothing behind the last line feed is no line, and it would name nothing. -/
theorem pathsOf_dropLast {pieces : List (List Char)}
    (hempty : pieces.getLast?.any (·.isEmpty)) : pathsOf pieces.dropLast = pathsOf pieces := by
  rcases List.eq_nil_or_concat' pieces with rfl | ⟨before, last, rfl⟩
  · rfl
  · have hlast : last = [] := by simpa using hempty
    simp [pathsOf, hlast, dropBlankEnd]

/-- A manifest lists the paths that the pieces of its text between line feeds name. -/
theorem ofManifest_eq (text : String) :
    ofManifest text = ofPaths (pathsOf (text.toList.splitOn '\n')) := by
  have hpieces : text.toList.splitOn '\n' = piecesBetween (· = '\n') text.toList := by
    rw [piecesBetween_eq_splitOnP, List.splitOn_eq_splitOnP]
    rfl
  show ofPaths (pathsOf (linesBy (· = '\n') text.toList)) = _
  rw [hpieces, linesBy]
  split
  · next hempty => rw [pathsOf_dropLast hempty]
  · rfl

/-- Pieces that are joined with line feeds are those of the text. -/
theorem ofManifest_intercalate {lines : List (List Char)} (hclear : ∀ line ∈ lines, '\n' ∉ line) :
    ofManifest (.ofList (['\n'].intercalate lines)) = ofPaths (pathsOf lines) := by
  rw [ofManifest_eq, String.toList_ofList]
  by_cases hnone : lines = []
  · rw [hnone]
    rfl
  · rw [List.splitOn_intercalate '\n' hclear hnone]

/-- The documents of a manifest are numbered from 1 and have the paths that its lines name; an id
finds the document that bears it, and the ids are those that find one.  More blank lines, and more
blanks at the ends of lines, change nothing; and paths that a manifest can list are what the
manifest of these lines lists. -/
theorem ofManifest_lists_lines (text : String) :
    List.Forall₂ Names ((text.toList.splitOn '\n').filter fun line => !line.all isBlank)
        ((ofManifest text).documents.map (·.path)) ∧
      (ofManifest text).documents.map (·.id) = List.range' 1 (ofManifest text).size ∧
      (∀ id, ((ofManifest text).get? id).isSome ↔ 1 ≤ id ∧ id ≤ (ofManifest text).size) ∧
      (∀ id document, (ofManifest text).get? id = some document ↔
        document ∈ (ofManifest text).documents ∧ document.id = id) ∧
      (∀ id, id ∈ (ofManifest text).ids ↔ ((ofManifest text).get? id).isSome) ∧
      (∀ padded : List (List Char), (∀ line ∈ padded, '\n' ∉ line) →
        Padded (text.toList.splitOn '\n') padded →
        ofManifest (.ofList (['\n'].intercalate padded)) = ofManifest text) ∧
      ∀ paths : List String, (∀ path ∈ paths, IsListed path) →
        ofManifest ("\n".intercalate paths) = ofPaths paths := by
  have hsome (id : Nat) : ((ofManifest text).get? id).isSome ↔ id ∈ (ofManifest text).ids :=
    isSome_get?_iff
  refine ⟨?_, map_id_documents _, fun id => (hsome id).trans mem_ids, fun id document => ?_,
    fun id => (hsome id).symm, fun padded hclear hpadded => ?_, fun paths hlisted => ?_⟩
  · rw [map_path_documents, ofManifest_eq]
    exact forall₂_names_pathsOf _
  · rw [mem_documents]
    refine ⟨fun hget => ?_, fun ⟨hget, hid⟩ => hid ▸ hget⟩
    obtain ⟨-, rfl, -⟩ := get?_eq_some_iff.mp hget
    exact ⟨hget, rfl⟩
  · rw [ofManifest_intercalate hclear, hpadded.pathsOf_eq, ofManifest_eq]
  · have hclear : ∀ line ∈ paths.map String.toList, '\n' ∉ line := by
      intro line hline
      obtain ⟨path, hpath, rfl⟩ := List.mem_map.mp hline
      exact (hlisted path hpath).no_newline
    have htext : "\n".intercalate paths =
        .ofList (['\n'].intercalate (paths.map String.toList)) := by
      rw [← String.toList_inj, String.toList_intercalate, String.toList_ofList,
        String.toList_ofList]
    rw [htext, ofManifest_intercalate hclear, pathsOf_map_toList hlisted]

/-- Two documents, the second with a blank in front; a manifest with more blanks; and one of the
two paths only. -/
theorem ofManifest_lists_lines_padded :
    let text := "b/x.txt\r\n\n a.txt\n"
    let padded := ["\t".toList, "b/x.txt\r".toList ++ [' '], [] ++ ['\r'], [],
      " a.txt".toList ++ ['\u2003'], [] ++ []]
    (ofManifest text).documents = [⟨1, "b/x.txt"⟩, ⟨2, " a.txt"⟩] ∧
      ofManifest (.ofList (['\n'].intercalate padded)) = ofManifest text ∧
      ofManifest ("\n".intercalate ["b/x.txt", " a.txt"]) = ofPaths ["b/x.txt", " a.txt"] := by
  intro text padded
  obtain ⟨-, -, -, -, -, hpadded, hlisted⟩ := ofManifest_lists_lines text
  have hlines : text.toList.splitOn '\n' = ["b/x.txt\r".toList, [], " a.txt".toList, []] := by
    decide +kernel
  refine ⟨by decide +kernel, hpadded padded (by decide +kernel) ?_, hlisted _ ?_⟩
  · rw [hlines]
    exact .blankLine (by decide +kernel) <| .line (by decide +kernel) <| .line (by decide +kernel) <|
      .blankLine rfl <| .line (by decide +kernel) <| .line rfl .nil
  · intro path hpath
    rcases List.mem_pair.mp hpath with rfl | rfl
    · exact ⟨by decide +kernel, by decide +kernel, by decide +kernel⟩
    · exact ⟨by decide +kernel, by decide +kernel, by decide +kernel⟩

end Corpus

end BooleanRetrieval
