/-
# Index files come back

An index with writable terms and postings is read back from the text of its file, with
counters that are taken from its postings.  Every index that a reader accepts is of
this kind, whatever the bytes it was read from, so writing and reading leave it as it
is.  So is every index built from documents, unless a number is too large.
-/

import BooleanRetrieval.Proofs.Index.Reading

namespace BooleanRetrieval.Index

open Text

/-- Every line of the index can be written. -/
def Writable (index : Index) : Prop :=
  ∀ term list, index.find? term = some list → WritableTerm term ∧ list.Writable

variable {index : Index} {term other : String} {list : PostingList}

/-! ## Writing -/

/-- However the entries of an index are handed out, the terms are distinct. -/
theorem nodup_of_perm_toList {entries : List (String × PostingList)}
    (hperm : entries.Perm index.postings.toList) : (entries.map (·.1)).Nodup := by
  rw [(hperm.map _).nodup_iff, Std.ExtTreeMap.map_fst_toList_eq_keys]
  exact Std.ExtTreeMap.nodup_keys

/-- The terms of the sorted entries are the terms of the index, each once. -/
theorem nodup_sortEntries (index : Index) :
    ((sortEntries index.postings.toList).map (·.1)).Nodup :=
  nodup_of_perm_toList (List.mergeSort_perm _ _)

theorem mem_sortEntries {entry : String × PostingList} :
    entry ∈ sortEntries index.postings.toList ↔ index.find? entry.1 = some entry.2 := by
  rw [sortEntries, (List.mergeSort_perm _ _).mem_iff, find?]
  exact Std.ExtTreeMap.mem_toList_iff_getElem?_eq_some

/-- The entries that are written: those with postings, in the order of terms. -/
def writtenEntries (entries : List (String × PostingList)) : List (String × PostingList) :=
  (sortEntries entries).filter fun entry => !entry.2.isEmpty

theorem renderEntries_eq (entries : List (String × PostingList)) :
    renderEntries entries = String.join
      ((writtenEntries entries).map fun entry => renderEntry entry.1 entry.2 ++ "\n") := rfl

/-- If no term holds a line end, the lines of the text are those of the written entries. -/
theorem linesBy_renderEntries {entries : List (String × PostingList)}
    (hclear : ∀ entry ∈ writtenEntries entries, '\n' ∉ entry.1.toList) :
    linesBy (· = '\n') (renderEntries entries).toList =
      (writtenEntries entries).map fun entry => (renderEntry entry.1 entry.2).toList := by
  have hlines : ∀ line ∈ (writtenEntries entries).map fun entry => renderEntry entry.1 entry.2,
      '\n' ∉ line.toList := by
    intro line hline
    obtain ⟨entry, hmem, rfl⟩ := List.mem_map.mp hline
    exact newline_not_mem_renderEntry (hclear entry hmem) entry.2
  have hjoin := linesBy_join hlines
  rw [List.map_map, List.map_map] at hjoin
  exact hjoin

/-- The bytes of the line of an entry. -/
def lineBytes (entry : String × PostingList) : List UInt8 :=
  encode (renderEntry entry.1 entry.2).toList

/-- The lines of the file of a writable index are those of its entries. -/
theorem fileLines_render (hwritable : index.Writable) :
    fileLines index.render.toUTF8 = (sortEntries index.postings.toList).map lineBytes := by
  have hentry : ∀ entry ∈ sortEntries index.postings.toList,
      WritableTerm entry.1 ∧ entry.2.Writable := fun entry hmem =>
    hwritable entry.1 entry.2 (mem_sortEntries.mp hmem)
  have hwritten : writtenEntries index.postings.toList = sortEntries index.postings.toList := by
    rw [writtenEntries, List.filter_eq_self]
    intro entry hmem
    rw [(hentry entry hmem).2.nonempty]
    rfl
  have hclear : ∀ entry ∈ writtenEntries index.postings.toList, '\n' ∉ entry.1.toList := by
    intro entry hmem
    rw [hwritten] at hmem
    exact (hentry entry hmem).1.no_newline
  rw [fileLines, toList_data_toUTF8, linesBy_encode, render, linesBy_renderEntries hclear,
    hwritten, List.map_map]
  rfl

/-! ## Reading what is written -/

/-- The line of an entry that can be written is this entry. -/
theorem entryOf?_lineBytes (hterm : WritableTerm term) (hlist : list.Writable) :
    entryOf? (lineBytes (term, list)) = some (term, list) := by
  have hdecode := decodeText_encode (renderEntry term list).toList
  rw [String.ofList_toList] at hdecode
  have htext : textOf? (lineBytes (term, list)) = some (renderEntry term list) :=
    textOf?_eq_some_iff.mpr ⟨_, hdecode, trimEnd_renderEntry term hlist.nonempty⟩
  rw [entryOf?, htext, Option.bind_some]
  exact entry?_renderEntry hterm.ne_empty hterm.no_mark hlist

/-- Every line of a writable index is the entry it was written for. -/
theorem entryOf?_of_mem_sortEntries (hwritable : index.Writable) {entry : String × PostingList}
    (hmem : entry ∈ sortEntries index.postings.toList) :
    entryOf? (lineBytes entry) = some entry := by
  obtain ⟨hterm, hlist⟩ := hwritable entry.1 entry.2 (mem_sortEntries.mp hmem)
  exact entryOf?_lineBytes hterm hlist

theorem faultless_render (hwritable : index.Writable) :
    Faultless (fileLines index.render.toUTF8) := by
  have hterms : ((sortEntries index.postings.toList).map lineBytes).filterMap termOf? =
      (sortEntries index.postings.toList).map (·.1) := by
    rw [List.filterMap_map, ← List.filterMap_eq_map]
    apply List.filterMap_congr
    intro entry hmem
    rw [Function.comp_apply, termOf?, entryOf?_of_mem_sortEntries hwritable hmem]
    rfl
  rw [fileLines_render hwritable, faultless_iff, hterms]
  refine ⟨?_, nodup_sortEntries index⟩
  intro bytes hline
  obtain ⟨entry, hmem, rfl⟩ := List.mem_map.mp hline
  exact isBlankOrEntry_of_entryOf? (entryOf?_of_mem_sortEntries hwritable hmem)

/-- The lines of a writable index say what it holds. -/
theorem find?_eq_some_iff_line (hwritable : index.Writable) (term : String)
    (list : PostingList) :
    index.find? term = some list ↔
      ∃ bytes ∈ fileLines index.render.toUTF8, entryOf? bytes = some (term, list) := by
  have hfind : index.find? term = some list ↔
      (term, list) ∈ sortEntries index.postings.toList := by
    rw [mem_sortEntries]
  rw [hfind, fileLines_render hwritable]
  constructor
  · intro hmem
    exact ⟨lineBytes (term, list), List.mem_map_of_mem hmem,
      entryOf?_of_mem_sortEntries hwritable hmem⟩
  · intro hline
    rcases hline with ⟨bytes, hlisted, hbytes⟩
    obtain ⟨entry, hmem, rfl⟩ := List.mem_map.mp hlisted
    rw [entryOf?_of_mem_sortEntries hwritable hmem] at hbytes
    obtain rfl := Option.some.inj hbytes
    exact hmem

/-- A writable index is read back from its file, with the counters of its postings. -/
theorem read_render (hwritable : index.Writable) :
    read index.render.toUTF8 = .ok
      { postings := index.postings
        documentCount := index.lastDocument
        tokenCount := index.occurrences } := by
  rw [read_eq_readLines, readLines_eq_ok_iff]
  exact ⟨faultless_render hwritable, find?_eq_some_iff_line hwritable, ⟨rfl, rfl⟩⟩

/-! ## What a reader accepts -/

/-- A line that holds no byte of a line end says nothing with line ends. -/
theorem newline_not_mem_of_textOf? {bytes : List UInt8} {text : String}
    (hbytes : ∀ byte ∈ bytes, isLineEnd byte = false) (htext : textOf? bytes = some text) :
    '\n' ∉ text.toList := by
  obtain ⟨whole, hdecode, rfl⟩ := textOf?_eq_some_iff.mp htext
  intro hnewline
  rw [trimEnd, String.toList_ofList] at hnewline
  have hend : '\n'.toUInt8 ∈ encode whole.toList :=
    List.mem_flatMap.mpr ⟨_, mem_of_mem_dropBlankEnd hnewline, by decide⟩
  rw [encode_of_decodeText hdecode] at hend
  exact absurd (hbytes _ hend) (by decide)

/-- Whatever bytes are read, the index is writable and counted. -/
theorem of_read {content : ByteArray} (hread : read content = .ok index) :
    index.Writable ∧ index.Counted := by
  obtain ⟨-, hholds⟩ := readLines_eq_ok_iff.mp hread
  refine ⟨fun term list hfind => ?_, hholds.counted⟩
  obtain ⟨bytes, hmem, hbytes⟩ := (hholds.find?_eq_some_iff term list).mp hfind
  obtain ⟨text, htext, hentry⟩ := Option.bind_eq_some_iff.mp hbytes
  have hline := newline_not_mem_of_textOf?
    (fun _ hbyte => isMark_eq_false_of_mem_linesBy hmem hbyte) htext
  have hisEntry := entry?_eq_some_iff.mp hentry
  exact ⟨hisEntry.writableTerm hline, hisEntry.writable⟩

/-- Every index that a reader accepts holds terms and postings that can be written, counts
them, and stays as it is when it is written and read again. -/
theorem read_render_of_read {content : ByteArray} (hread : read content = .ok index) :
    (∀ term list, index.find? term = some list → WritableTerm term ∧ list.Writable) ∧
      index.documentCount = index.lastDocument ∧ index.tokenCount = index.occurrences ∧
      ∃ reread, read index.render.toUTF8 = .ok reread ∧ reread = index ∧
        reread.render.toUTF8 = index.render.toUTF8 := by
  obtain ⟨hwritable, hcounted⟩ := of_read hread
  have hreread := read_render hwritable
  rw [← hcounted.documentCount_eq, ← hcounted.tokenCount_eq] at hreread
  exact ⟨hwritable, hcounted.documentCount_eq, hcounted.tokenCount_eq, index, hreread, rfl, rfl⟩

/-- A file with blanks around terms and postings, leading zeros and a blank line. -/
theorem read_render_of_read_with_blanks :
    ∃ index, read " a b:c: 3,02\t 5,1 \r\n \n\td: 05,7".toUTF8 = .ok index ∧
      index.documentCount = index.lastDocument ∧ read index.render.toUTF8 = .ok index := by
  cases hread : read " a b:c: 3,02\t 5,1 \r\n \n\td: 05,7".toUTF8 with
  | error _ =>
      have hsome : (read " a b:c: 3,02\t 5,1 \r\n \n\td: 05,7".toUTF8).toOption.isSome := by
        decide +kernel
      rw [hread] at hsome
      cases hsome
  | ok index =>
      obtain ⟨-, hdocuments, -, reread, hreread, hsame, -⟩ := read_render_of_read hread
      rw [hsame] at hreread
      exact ⟨index, rfl, hdocuments, hreread⟩

/-! ## Indexes of documents -/

/-- An index of documents is writable when ids and counts are numbers of an index file. -/
theorem writable_ofDocuments {preprocessor : Preprocessor} {documents : List (Nat × String)}
    (hids : ∀ document ∈ documents, 1 ≤ document.1 ∧ document.1 ≤ maxNumber)
    (hcounts : ∀ document ∈ documents, ∀ term,
      (preprocessor.terms document.2).count term ≤ maxNumber) :
    (ofDocuments preprocessor documents).Writable := by
  intro term list hfind
  obtain ⟨hstorable, hcontent, hfull⟩ := content_of_find? hfind
  refine ⟨writableTerm_of_isStorable hstorable, hfull, hcontent.ascends, ?_⟩
  intro posting hmem
  obtain ⟨text, hlast, hfrequency⟩ := (hcontent.mem_iff posting).mp hmem
  obtain ⟨hdocument, hterm⟩ := mem_of_lastEmitting? hlast
  obtain ⟨hpos, hle⟩ := hids _ hdocument
  refine ⟨hpos, hle, ?_, ?_⟩
  · rw [hfrequency]
    exact List.count_pos_iff.mpr hterm
  · rw [hfrequency]
    exact hcounts _ hdocument term

/-- An index built from documents in any order is read back from its file with the same
terms and postings; its counters become those of the postings. -/
theorem read_render_ofDocuments {preprocessor : Preprocessor} {documents : List (Nat × String)}
    (hids : ∀ document ∈ documents, 1 ≤ document.1 ∧ document.1 ≤ maxNumber)
    (hcounts : ∀ document ∈ documents, ∀ term,
      (preprocessor.terms document.2).count term ≤ maxNumber) :
    ∃ reread, read (ofDocuments preprocessor documents).render.toUTF8 = .ok reread ∧
      reread.postings = (ofDocuments preprocessor documents).postings ∧
      reread.documentCount = (ofDocuments preprocessor documents).lastDocument ∧
      reread.documentCount ≤ (ofDocuments preprocessor documents).documentCount ∧
      reread.tokenCount = (ofDocuments preprocessor documents).occurrences ∧
      reread.tokenCount ≤ (ofDocuments preprocessor documents).tokenCount ∧
      ((documents.map (·.1)).Nodup →
        reread.tokenCount = (ofDocuments preprocessor documents).tokenCount) := by
  refine ⟨_, read_render (writable_ofDocuments hids hcounts), rfl, rfl, ?_, rfl, ?_, ?_⟩
  · exact lastDocument_ofDocuments_le preprocessor documents
  · exact occurrences_ofDocuments_le preprocessor documents
  · exact occurrences_ofDocuments

/-- Two documents in descending order of ids. -/
theorem read_render_ofDocuments_descending :
    ∃ reread, read (ofDocuments .reversed [(3, "eno owt eno"), (1, "eno")]).render.toUTF8 =
        .ok reread ∧
      reread.postings = (ofDocuments .reversed [(3, "eno owt eno"), (1, "eno")]).postings ∧
      reread.tokenCount =
        (ofDocuments .reversed [(3, "eno owt eno"), (1, "eno")]).tokenCount := by
  have hids : ∀ document ∈ [(3, "eno owt eno"), (1, "eno")],
      1 ≤ document.1 ∧ document.1 ≤ maxNumber := by decide
  have hcounts : ∀ document ∈ [(3, "eno owt eno"), (1, "eno")], ∀ term,
      (Preprocessor.reversed.terms document.2).count term ≤ maxNumber := by
    intro document hmem term
    have hlength : (Preprocessor.reversed.terms document.2).length ≤ maxNumber := by
      rcases List.mem_pair.mp hmem with rfl | rfl <;> cbv
    exact Nat.le_trans List.count_le_length hlength
  obtain ⟨reread, hread, hpostings, -, -, -, -, htokens⟩ := read_render_ofDocuments hids hcounts
  exact ⟨reread, hread, hpostings, htokens (by decide)⟩

end BooleanRetrieval.Index
