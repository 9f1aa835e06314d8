/-
# What a reader makes of a file

The lines of a file are read one by one.  A line that is not text, a line that is neither blank
nor an entry, and an entry for a term that an earlier line has, are faults; the first fault of a
file is the error of its reader.  A file without faults is read, and the index then holds what
the lines say: under each term the postings of its line, in their order, although they are added
one at a time.  Where the lines stand makes no difference to that.
-/

import BooleanRetrieval.Index.File
import BooleanRetrieval.Proofs.Index.Entry
import BooleanRetrieval.Proofs.Index.Interchange
import BooleanRetrieval.Proofs.Index.Totals
import BooleanRetrieval.Proofs.Text.Encoding

namespace BooleanRetrieval.Index

open Text

/-- The counters are those of the postings. -/
structure Counted (index : Index) : Prop where
  documentCount_eq : index.documentCount = index.lastDocument
  tokenCount_eq : index.tokenCount = index.occurrences

variable {index : Index} {term other : String} {list : PostingList}

theorem find?_empty (term : String) : empty.find? term = none := by
  simp [find?, empty]

theorem contains_eq_false_iff : index.contains term = false ↔ index.find? term = none := by
  rw [contains, Std.ExtTreeMap.contains_eq_isSome_getElem?, Option.isSome_eq_false_iff,
    Option.isNone_iff_eq_none, find?]

theorem counted_empty : empty.Counted := by
  constructor <;> rfl

/-! ## One posting -/

theorem find?_addCounted (index : Index) (term other : String) (posting : Posting) :
    (addCounted term index posting).find? other =
      if term = other then some ((index.postingsOf term).add posting)
      else index.find? other :=
  getElem?_addPosting index.postings term other posting

/-- A posting of a new document joins the others. -/
theorem mem_allPostings_addCounted {posting : Posting}
    (hascends : (index.postingsOf term).Ascends)
    (hnew : ∀ old ∈ (index.postingsOf term).postings,
      old.document ≠ posting.document) {candidate : Posting} :
    candidate ∈ (addCounted term index posting).allPostings ↔
      candidate = posting ∨ candidate ∈ index.allPostings := by
  rw [mem_allPostings, mem_allPostings]
  constructor
  · intro hmember
    rcases hmember with ⟨place, list, hfind, hmem⟩
    rw [find?_addCounted] at hfind
    split at hfind
    · obtain rfl := Option.some.inj hfind
      rcases (PostingList.mem_add hascends).mp hmem with hsame | ⟨hold, -⟩
      · exact Or.inl hsame
      · cases hterm : index.find? term with
        | none => simp [postingsOf_of_find?_none hterm, PostingList.empty] at hold
        | some old =>
            rw [postingsOf_of_find?_some hterm] at hold
            exact Or.inr ⟨term, old, hterm, hold⟩
    · exact Or.inr ⟨place, list, hfind, hmem⟩
  · intro hcandidate
    rcases hcandidate with rfl | ⟨place, list, hfind, hmem⟩
    · refine ⟨term, _, by rw [find?_addCounted, if_pos rfl], ?_⟩
      exact (PostingList.mem_add hascends).mpr (Or.inl rfl)
    · by_cases hplace : term = place
      · subst hplace
        rw [postingsOf_of_find?_some hfind] at hascends hnew
        refine ⟨term, _, by rw [find?_addCounted, if_pos rfl], ?_⟩
        rw [postingsOf_of_find?_some hfind]
        exact (PostingList.mem_add hascends).mpr (Or.inr ⟨hmem, hnew candidate hmem⟩)
      · exact ⟨place, list, by rw [find?_addCounted, if_neg hplace, hfind], hmem⟩

/-- A posting of a new document keeps the counters right. -/
theorem Counted.addCounted (hcounted : index.Counted) {posting : Posting}
    (hascends : (index.postingsOf term).Ascends)
    (hnew : ∀ old ∈ (index.postingsOf term).postings,
      old.document ≠ posting.document) :
    (addCounted term index posting).Counted where
  documentCount_eq := by
    apply eq_of_forall_ge_iff
    intro bound
    rw [lastDocument_le_iff]
    simp only [mem_allPostings_addCounted hascends hnew, forall_eq_or_imp]
    rw [← lastDocument_le_iff, ← hcounted.documentCount_eq]
    show max index.documentCount posting.document ≤ bound ↔ _
    omega
  tokenCount_eq := by
    have hstep := totalOccurrences_addPosting hascends posting
    have hreplaced : replaced index.postings term posting.document = 0 := by
      apply replaced_eq_zero
      intro list hfind old hmem
      refine hnew old ?_
      rw [postingsOf_of_find?_some hfind]
      exact hmem
    rw [hreplaced, ← occurrences_eq_total index, ← hcounted.tokenCount_eq] at hstep
    rw [occurrences_eq_total]
    exact hstep.symm

/-! ## One entry -/

/-- Postings of one term leave the other terms alone. -/
theorem find?_foldl_addCounted_of_ne (hother : term ≠ other) (postings : List Posting)
    (index : Index) :
    (postings.foldl (addCounted term) index).find? other = index.find? other := by
  induction postings generalizing index with
  | nil => rfl
  | cons posting rest ih => rw [List.foldl_cons, ih, find?_addCounted, if_neg hother]

theorem toList_postingsOf_of_absent (habsent : index.find? term = none) :
    (index.postingsOf term).postings.toList = [] := by
  rw [postingsOf_of_find?_none habsent]
  rfl

/-- Postings are in order before one that comes after them all. -/
theorem ascends_postingsOf {before after : List Posting}
    (hlist : (index.postingsOf term).postings.toList = before)
    (hpairs : (before ++ after).Pairwise (·.document < ·.document)) :
    (index.postingsOf term).Ascends := by
  rw [PostingList.Ascends, hlist]
  exact (List.pairwise_append.mp hpairs).1

/-- A posting beyond all others of its term goes to their end. -/
theorem toList_postingsOf_addCounted {before rest : List Posting} {posting : Posting}
    (hlist : (index.postingsOf term).postings.toList = before)
    (hpairs : (before ++ posting :: rest).Pairwise (·.document < ·.document)) :
    ((addCounted term index posting).postingsOf term).postings.toList = before ++ [posting] := by
  have hbelow : ∀ old ∈ before, old.document < posting.document := fun old hmem =>
    (List.pairwise_append.mp hpairs).2.2 old hmem posting List.mem_cons_self
  have hascends := ascends_postingsOf hlist hpairs
  have hfind : (addCounted term index posting).find? term =
      some ((index.postingsOf term).add posting) := by
    rw [find?_addCounted, if_pos rfl]
  rw [postingsOf_of_find?_some hfind, PostingList.toList_add hascends, hlist,
    List.filter_eq_self.mpr fun old hmem => decide_eq_true (hbelow old hmem),
    List.filter_eq_nil_iff.mpr fun old hmem => by simpa using Nat.le_of_lt (hbelow old hmem)]

/-- Postings in order go one by one to the end of the list of their term. -/
theorem toList_postingsOf_foldl {before postings : List Posting}
    (hlist : (index.postingsOf term).postings.toList = before)
    (hpairs : (before ++ postings).Pairwise (·.document < ·.document)) :
    ((postings.foldl (addCounted term) index).postingsOf term).postings.toList =
      before ++ postings := by
  induction postings generalizing index before with
  | nil =>
      rw [List.append_nil]
      exact hlist
  | cons posting rest ih =>
      have hadd := toList_postingsOf_addCounted hlist hpairs
      rw [List.append_cons] at hpairs ⊢
      exact ih hadd hpairs

/-- Postings in order keep the counters right. -/
theorem Counted.foldl (hcounted : index.Counted) {before postings : List Posting}
    (hlist : (index.postingsOf term).postings.toList = before)
    (hpairs : (before ++ postings).Pairwise (·.document < ·.document)) :
    (postings.foldl (Index.addCounted term) index).Counted := by
  induction postings generalizing index before with
  | nil => exact hcounted
  | cons posting rest ih =>
      have hadd := toList_postingsOf_addCounted hlist hpairs
      have hnew : ∀ old ∈ (index.postingsOf term).postings, old.document ≠ posting.document := by
        intro old hmem
        rw [← Array.mem_toList_iff, hlist] at hmem
        exact Nat.ne_of_lt
          ((List.pairwise_append.mp hpairs).2.2 old hmem posting List.mem_cons_self)
      have hnext := hcounted.addCounted (ascends_postingsOf hlist hpairs) hnew
      rw [List.append_cons] at hpairs
      exact ih hnext hadd hpairs

/-- A new entry is found under its term. -/
theorem find?_addEntry (habsent : index.find? term = none) (hlist : list.isEmpty = false)
    (hascends : list.Ascends) (other : String) :
    (index.addEntry term list).find? other =
      if term = other then some list else index.find? other := by
  rw [addEntry, ← Array.foldl_toList]
  split
  · next hother =>
      subst hother
      have hrun := toList_postingsOf_foldl (toList_postingsOf_of_absent habsent) hascends
      rw [List.nil_append] at hrun
      cases hfind : (list.postings.toList.foldl (addCounted term) index).find? term with
      | none =>
          rw [toList_postingsOf_of_absent hfind] at hrun
          exact absurd hrun.symm (PostingList.isEmpty_eq_false_iff.mp hlist)
      | some found =>
          rw [postingsOf_of_find?_some hfind] at hrun
          cases found
          cases list
          simpa using hrun
  · next hother => exact find?_foldl_addCounted_of_ne hother _ index

/-- A new entry keeps the counters right. -/
theorem Counted.addEntry (hcounted : index.Counted) (habsent : index.find? term = none)
    (hascends : list.Ascends) : (index.addEntry term list).Counted := by
  rw [Index.addEntry, ← Array.foldl_toList]
  exact hcounted.foldl (toList_postingsOf_of_absent habsent) hascends

/-! ## Lines -/

/-- The lines of a file. -/
def fileLines (content : ByteArray) : List (List UInt8) :=
  linesBy isLineEnd content.data.toList

/-- What a line says apart from trailing blanks, if it is text. -/
def textOf? (bytes : List UInt8) : Option String :=
  (decodeText ⟨bytes.toArray⟩).toOption.map trimEnd

theorem textOf?_eq_some_iff {bytes : List UInt8} {text : String} :
    textOf? bytes = some text ↔
      ∃ whole, decodeText ⟨bytes.toArray⟩ = .ok whole ∧ trimEnd whole = text := by
  rw [textOf?]
  cases decodeText ⟨bytes.toArray⟩ with
  | error cause => simp [Except.toOption]
  | ok whole => simp [Except.toOption]

/-- The term and the postings of a line. -/
def entryOf? (bytes : List UInt8) : Option (String × PostingList) :=
  (textOf? bytes).bind entry?

/-- The term of a line. -/
def termOf? (bytes : List UInt8) : Option String :=
  (entryOf? bytes).map (·.1)

/-- What is wrong with the line at a position, counted from 0, and the error for it. -/
inductive Fault (lines : List (List UInt8)) (position : Nat) : Error → Prop
  /-- The line is not text. -/
  | notText {bytes : List UInt8} (hline : lines[position]? = some bytes)
      (htext : textOf? bytes = none) : Fault lines position (.content .notText)
  /-- The line is neither blank nor an entry. -/
  | malformed {bytes : List UInt8} {text : String} (hline : lines[position]? = some bytes)
      (htext : textOf? bytes = some text) (hfull : text ≠ "") (hentry : entry? text = none) :
      Fault lines position (.malformedEntry (position + 1) text)
  /-- An earlier line is an entry for the same term. -/
  | duplicate {bytes : List UInt8} {term : String} (hline : lines[position]? = some bytes)
      (hterm : termOf? bytes = some term)
      (hearlier : term ∈ (lines.take position).filterMap termOf?) :
      Fault lines position (.duplicateTerm (position + 1) term)

/-- No line has a fault. -/
def Faultless (lines : List (List UInt8)) : Prop :=
  ∀ position error, ¬ Fault lines position error

/-- The first line with a fault has this one. -/
def FirstFault (lines : List (List UInt8)) (error : Error) : Prop :=
  ∃ position, Fault lines position error ∧
    ∀ earlier < position, ∀ other, ¬ Fault lines earlier other

/-- A line that is fit to be read, if it is the only one. -/
def IsBlankOrEntry (bytes : List UInt8) : Prop :=
  ∃ text, textOf? bytes = some text ∧ (text = "" ∨ ∃ term list, entry? text = some (term, list))

theorem isBlankOrEntry_of_entryOf? {bytes : List UInt8} {entry : String × PostingList}
    (hentry : entryOf? bytes = some entry) : IsBlankOrEntry bytes := by
  obtain ⟨text, htext, hfound⟩ := Option.bind_eq_some_iff.mp hentry
  exact ⟨text, htext, Or.inr ⟨entry.1, entry.2, hfound⟩⟩

section Faults

variable {lines others : List (List UInt8)} {bytes : List UInt8} {position : Nat}
  {error : Error}

/-- Only of a line that is not text the error is not one of parsing. -/
theorem Fault.kind_eq (hfault : Fault lines position error) :
    error.kind = if error = .content .notText then .io else .parse := by
  cases hfault with
  | notText => rfl
  | malformed => rfl
  | duplicate => rfl

theorem Fault.lt_length (hfault : Fault lines position error) : position < lines.length := by
  have hline : ∃ bytes, lines[position]? = some bytes := by
    cases hfault with
    | notText hline => exact ⟨_, hline⟩
    | malformed hline => exact ⟨_, hline⟩
    | duplicate hline => exact ⟨_, hline⟩
  obtain ⟨bytes, hbytes⟩ := hline
  exact (List.getElem?_eq_some_iff.mp hbytes).1

/-- Of the other lines only the earlier ones matter. -/
theorem Fault.congr (hline : lines[position]? = others[position]?)
    (htake : lines.take position = others.take position) (hfault : Fault lines position error) :
    Fault others position error := by
  cases hfault with
  | notText hbytes htext => exact .notText (hline ▸ hbytes) htext
  | malformed hbytes htext hfull hentry => exact .malformed (hline ▸ hbytes) htext hfull hentry
  | duplicate hbytes hterm hearlier => exact .duplicate (hline ▸ hbytes) hterm (htake ▸ hearlier)

/-- Later lines do not change the faults of a line. -/
theorem fault_append_iff (hposition : position < lines.length) (later : List (List UInt8)) :
    Fault (lines ++ later) position error ↔ Fault lines position error := by
  have hline : (lines ++ later)[position]? = lines[position]? :=
    List.getElem?_append_left hposition
  have htake : (lines ++ later).take position = lines.take position :=
    List.take_append_of_le_length (Nat.le_of_lt hposition)
  exact ⟨.congr hline htake, .congr hline.symm htake.symm⟩

theorem entry?_empty : entry? "" = none := rfl

/-- The last line has no fault if it is blank or an entry for a new term. -/
theorem no_fault_concat_iff :
    (∀ error, ¬ Fault (lines ++ [bytes]) lines.length error) ↔
      IsBlankOrEntry bytes ∧
        ∀ term, termOf? bytes = some term → term ∉ lines.filterMap termOf? := by
  have hline : (lines ++ [bytes])[lines.length]? = some bytes := List.getElem?_concat_length
  have htake : (lines ++ [bytes]).take lines.length = lines := List.take_left
  constructor
  · intro hnone
    constructor
    · cases htext : textOf? bytes with
      | none => exact absurd (.notText hline htext) (hnone _)
      | some text =>
          refine ⟨text, htext, Classical.or_iff_not_imp_left.mpr fun hfull => ?_⟩
          cases hentry : entry? text with
          | none => exact absurd (.malformed hline htext hfull hentry) (hnone _)
          | some found => exact ⟨found.1, found.2, rfl⟩
    · intro term hterm hearlier
      exact hnone _ (.duplicate hline hterm (htake.symm ▸ hearlier))
  · intro hread error hfault
    rcases hread with ⟨⟨text, htext, hfit⟩, hnew⟩
    cases hfault with
    | notText hline' htext' =>
        obtain rfl := Option.some.inj (hline.symm.trans hline')
        rw [htext] at htext'
        cases htext'
    | malformed hline' htext' hfull hentry =>
        obtain rfl := Option.some.inj (hline.symm.trans hline')
        obtain rfl := Option.some.inj (htext.symm.trans htext')
        rw [hentry] at hfit
        simp [hfull] at hfit
    | duplicate hline' hterm hearlier =>
        obtain rfl := Option.some.inj (hline.symm.trans hline')
        exact hnew _ hterm (htake ▸ hearlier)

theorem faultless_concat_iff :
    Faultless (lines ++ [bytes]) ↔
      Faultless lines ∧ ∀ error, ¬ Fault (lines ++ [bytes]) lines.length error := by
  constructor
  · intro hfaultless
    refine ⟨fun position error hfault => ?_, hfaultless lines.length⟩
    exact hfaultless position error ((fault_append_iff hfault.lt_length _).mpr hfault)
  · intro hparts position error hfault
    rcases hparts with ⟨hlines, hlast⟩
    have hlength := hfault.lt_length
    rw [List.length_append, List.length_singleton] at hlength
    rcases Nat.lt_or_eq_of_le (Nat.le_of_lt_succ hlength) with hlt | rfl
    · exact hlines position error ((fault_append_iff hlt _).mp hfault)
    · exact hlast error hfault

/-- Where the lines stand makes no difference to whether there is a fault. -/
theorem faultless_iff :
    Faultless lines ↔
      (∀ bytes ∈ lines, IsBlankOrEntry bytes) ∧ (lines.filterMap termOf?).Nodup := by
  induction lines using List.reverseRecOn with
  | nil =>
      refine ⟨fun _ => ⟨by simp, by simp⟩, fun _ position error hfault => ?_⟩
      exact absurd hfault.lt_length (Nat.not_lt_zero _)
  | append_singleton lines bytes ih =>
      have hterms : (∀ term, termOf? bytes = some term → term ∉ lines.filterMap termOf?) ↔
          (lines.filterMap termOf?).Disjoint ([bytes].filterMap termOf?) := by
        rw [List.disjoint_comm]
        simp [List.Disjoint]
      have hone : ([bytes].filterMap termOf?).Nodup := by
        cases hterm : termOf? bytes <;> simp [hterm]
      rw [faultless_concat_iff, no_fault_concat_iff, ih, List.forall_mem_append,
        List.forall_mem_singleton, List.filterMap_append, List.nodup_append', hterms]
      tauto

/-- There is a first fault if there is one. -/
theorem faultless_or_exists_firstFault (lines : List (List UInt8)) :
    Faultless lines ∨ ∃ error, FirstFault lines error := by
  classical
  by_cases hfault : ∃ position error, Fault lines position error
  · obtain ⟨error, herror⟩ := Nat.find_spec hfault
    refine Or.inr ⟨error, Nat.find hfault, herror, fun earlier hlt other hother => ?_⟩
    exact Nat.find_min hfault hlt ⟨other, hother⟩
  · exact Or.inl fun position error herror => hfault ⟨position, error, herror⟩

end Faults

/-! ## Reading lines -/

/-- The index holds what the lines say and counts it. -/
structure Holds (index : Index) (lines : List (List UInt8)) : Prop where
  find?_eq_some_iff (term : String) (list : PostingList) :
    index.find? term = some list ↔ ∃ bytes ∈ lines, entryOf? bytes = some (term, list)
  counted : index.Counted

/-- Read the lines of a file. -/
def readLines (lines : List (List UInt8)) : Except Error Index :=
  (lines.zipIdx 1).foldlM (fun index (bytes, number) => index.readLine number bytes) empty

theorem read_eq_readLines (content : ByteArray) :
    read content = readLines (fileLines content) := rfl

theorem readLines_concat (lines : List (List UInt8)) (bytes : List UInt8) :
    readLines (lines ++ [bytes]) = (do
      let index ← readLines lines
      index.readLine (lines.length + 1) bytes) := by
  rw [readLines, List.zipIdx_append, List.foldlM_append, Nat.add_comm]
  congr 1
  funext index
  exact bind_pure _

/-- What becomes of a line that is text. -/
theorem readLine_of_textOf? {bytes : List UInt8} {text : String}
    (htext : textOf? bytes = some text) (index : Index) (number : Nat) :
    index.readLine number bytes =
      if text = "" then .ok index
      else
        match entry? text with
        | none => .error (.malformedEntry number text)
        | some (term, list) =>
          if index.contains term then .error (.duplicateTerm number term)
          else .ok (index.addEntry term list) := by
  obtain ⟨whole, hdecode, rfl⟩ := textOf?_eq_some_iff.mp htext
  simp only [← String.isEmpty_iff]
  rw [readLine, hdecode]
  rfl

/-- What becomes of a line that is not. -/
theorem readLine_of_not_text {bytes : List UInt8} (htext : textOf? bytes = none) (index : Index)
    (number : Nat) : index.readLine number bytes = .error (.content .notText) := by
  rw [textOf?, Option.map_eq_none_iff] at htext
  cases hdecode : decodeText ⟨bytes.toArray⟩ with
  | error cause =>
      obtain rfl : cause = .notText := by
        rw [decodeText] at hdecode
        split at hdecode
        · cases hdecode
        · exact (Except.error.inj hdecode).symm
      rw [readLine, hdecode]
      rfl
  | ok decoded =>
      rw [hdecode] at htext
      cases htext

section Steps

variable {index : Index} {lines : List (List UInt8)} {bytes : List UInt8}

theorem holds_empty : empty.Holds [] where
  find?_eq_some_iff term list := by simp [find?_empty]
  counted := counted_empty

/-- The index holds a term if a line is an entry for it. -/
theorem Holds.contains_iff (hholds : index.Holds lines) {term : String} :
    index.contains term ↔ term ∈ lines.filterMap termOf? := by
  rw [contains, Std.ExtTreeMap.contains_eq_isSome_getElem?, Option.isSome_iff_exists,
    List.mem_filterMap]
  simp only [termOf?, Option.map_eq_some_iff, Prod.exists]
  constructor
  · intro hfound
    rcases hfound with ⟨list, hfind⟩
    obtain ⟨bytes, hmem, hentry⟩ := (hholds.find?_eq_some_iff term list).mp hfind
    exact ⟨bytes, hmem, term, list, hentry, rfl⟩
  · intro hline
    rcases hline with ⟨bytes, hmem, found, list, hentry, rfl⟩
    exact ⟨list, (hholds.find?_eq_some_iff found list).mpr ⟨bytes, hmem, hentry⟩⟩

/-- A line that is no entry adds nothing. -/
theorem Holds.append_of_no_entry (hholds : index.Holds lines) (hentry : entryOf? bytes = none) :
    index.Holds (lines ++ [bytes]) := by
  refine ⟨fun term list => ?_, hholds.counted⟩
  rw [hholds.find?_eq_some_iff]
  simp [or_and_right, exists_or, hentry]

/-- An entry for a new term is added. -/
theorem Holds.append_of_entry (hholds : index.Holds lines) {term : String} {list : PostingList}
    (hentry : entryOf? bytes = some (term, list)) (habsent : index.find? term = none)
    (hlist : list.Writable) : (index.addEntry term list).Holds (lines ++ [bytes]) := by
  refine ⟨fun other found => ?_, hholds.counted.addEntry habsent hlist.ascends⟩
  have hlast : entryOf? bytes = some (other, found) ↔ term = other ∧ list = found := by
    rw [hentry, Option.some_inj, Prod.mk.injEq]
  rw [find?_addEntry habsent hlist.nonempty hlist.ascends]
  simp only [List.mem_append, or_and_right, exists_or, ← hholds.find?_eq_some_iff,
    List.mem_singleton, exists_eq_left, hlast]
  by_cases hother : term = other
  · simp [← hother, habsent]
  · simp [hother]

/-- Reading a line without a fault makes the index hold this line too. -/
theorem Holds.readLine (hholds : index.Holds lines)
    (hline : ∀ error, ¬ Fault (lines ++ [bytes]) lines.length error) :
    ∃ after, index.readLine (lines.length + 1) bytes = .ok after ∧
      after.Holds (lines ++ [bytes]) := by
  obtain ⟨⟨text, htext, hfit⟩, hnew⟩ := no_fault_concat_iff.mp hline
  rw [readLine_of_textOf? htext]
  have hentry : entryOf? bytes = entry? text := by
    rw [entryOf?, htext, Option.bind_some]
  by_cases hblank : text = ""
  · rw [if_pos hblank]
    rw [hblank, entry?_empty] at hentry
    exact ⟨index, rfl, hholds.append_of_no_entry hentry⟩
  · obtain ⟨term, list, hfound⟩ := hfit.resolve_left hblank
    rw [hfound] at hentry
    have hterm : term ∉ lines.filterMap termOf? := by
      apply hnew
      rw [termOf?, hentry, Option.map_some]
    have habsent : index.contains term = false :=
      Bool.eq_false_iff.mpr (hholds.contains_iff.not.mpr hterm)
    rw [if_neg hblank, hfound]
    refine ⟨index.addEntry term list, by simp [habsent], ?_⟩
    exact hholds.append_of_entry hentry (contains_eq_false_iff.mp habsent)
      (entry?_eq_some_iff.mp hfound).writable

/-- A fault is the error of reading its line. -/
theorem Holds.readLine_of_fault (hholds : index.Holds lines) {later : List (List UInt8)}
    {error : Error} (hfault : Fault (lines ++ bytes :: later) lines.length error) :
    index.readLine (lines.length + 1) bytes = .error error := by
  have hhere : (lines ++ bytes :: later)[lines.length]? = some bytes := by simp
  have hbefore : (lines ++ bytes :: later).take lines.length = lines := List.take_left
  cases hfault with
  | notText hline htext =>
      obtain rfl := Option.some.inj (hhere.symm.trans hline)
      exact readLine_of_not_text htext index _
  | malformed hline htext hfull hentry =>
      obtain rfl := Option.some.inj (hhere.symm.trans hline)
      rw [readLine_of_textOf? htext, if_neg hfull, hentry]
  | duplicate hline hterm hearlier =>
      obtain rfl := Option.some.inj (hhere.symm.trans hline)
      obtain ⟨⟨term, list⟩, hentry, rfl⟩ := Option.map_eq_some_iff.mp hterm
      obtain ⟨text, htext, hfound⟩ := Option.bind_eq_some_iff.mp hentry
      have hfull : text ≠ "" := by
        rintro rfl
        cases hfound
      rw [hbefore, ← hholds.contains_iff] at hearlier
      rw [readLine_of_textOf? htext, if_neg hfull, hfound]
      exact if_pos hearlier

/-- Lines without a fault are read, and the index holds them. -/
theorem readLines_of_faultless (hfaultless : Faultless lines) :
    ∃ index, readLines lines = .ok index ∧ index.Holds lines := by
  induction lines using List.reverseRecOn with
  | nil => exact ⟨empty, rfl, holds_empty⟩
  | append_singleton lines bytes ih =>
      obtain ⟨hlines, hlast⟩ := faultless_concat_iff.mp hfaultless
      obtain ⟨index, hread, hholds⟩ := ih hlines
      rw [readLines_concat, hread]
      exact hholds.readLine hlast

/-- An error ends the reading of lines. -/
theorem readLines_append_of_error {error : Error} (hread : readLines lines = .error error)
    (later : List (List UInt8)) : readLines (lines ++ later) = .error error := by
  rw [readLines, List.zipIdx_append, List.foldlM_append, ← readLines, hread]
  rfl

/-- The first fault is the error of reading lines. -/
theorem readLines_of_firstFault {error : Error} (hfirst : FirstFault lines error) :
    readLines lines = .error error := by
  obtain ⟨position, hfault, hnone⟩ := hfirst
  have hlength := hfault.lt_length
  have hcut : lines = lines.take position ++ lines[position] :: lines.drop (position + 1) := by
    rw [List.getElem_cons_drop, List.take_append_drop]
  have hposition : (lines.take position).length = position := List.length_take_of_le (by omega)
  have hbefore : Faultless (lines.take position) := by
    intro earlier other hother
    have hlt : earlier < position := hposition ▸ hother.lt_length
    refine hnone earlier hlt other ?_
    rw [hcut]
    exact (fault_append_iff hother.lt_length _).mpr hother
  obtain ⟨index, hread, hholds⟩ := readLines_of_faultless hbefore
  rw [hcut] at hfault
  have hline : index.readLine ((lines.take position).length + 1) lines[position] = .error error :=
    hholds.readLine_of_fault (by rwa [hposition])
  rw [hcut, List.append_cons]
  apply readLines_append_of_error
  rw [readLines_concat, hread]
  exact hline

/-- An index is determined by the lines that it holds. -/
theorem Holds.eq {other : Index} (hholds : index.Holds lines) (hother : other.Holds lines) :
    index = other := by
  have hfind (term : String) : index.find? term = other.find? term := by
    apply Option.ext
    intro list
    rw [hholds.find?_eq_some_iff, hother.find?_eq_some_iff]
  have hpostings : index.postings = other.postings :=
    Std.ExtTreeMap.ext_getElem? fun {term} => hfind term
  apply eq_of_find? hfind
  · rw [hholds.counted.documentCount_eq, hother.counted.documentCount_eq, lastDocument,
      lastDocument, allPostings, allPostings, hpostings]
  · rw [hholds.counted.tokenCount_eq, hother.counted.tokenCount_eq, occurrences_eq_total,
      occurrences_eq_total, hpostings]

end Steps

/-! ## Reading files -/

/-- A file is read as an index if it has no fault and the index holds its lines. -/
theorem readLines_eq_ok_iff {lines : List (List UInt8)} {index : Index} :
    readLines lines = .ok index ↔ Faultless lines ∧ index.Holds lines := by
  constructor
  · intro hread
    rcases faultless_or_exists_firstFault lines with hfaultless | ⟨error, hfirst⟩
    · obtain ⟨found, hfound, hholds⟩ := readLines_of_faultless hfaultless
      obtain rfl := Except.ok.inj (hfound.symm.trans hread)
      exact ⟨hfaultless, hholds⟩
    · rw [readLines_of_firstFault hfirst] at hread
      cases hread
  · intro hlines
    rcases hlines with ⟨hfaultless, hholds⟩
    obtain ⟨found, hfound, hfoundHolds⟩ := readLines_of_faultless hfaultless
    rw [hfound, hfoundHolds.eq hholds]

theorem readLines_eq_error_iff {lines : List (List UInt8)} {error : Error} :
    readLines lines = .error error ↔ FirstFault lines error := by
  constructor
  · intro hread
    rcases faultless_or_exists_firstFault lines with hfaultless | ⟨other, hfirst⟩
    · obtain ⟨found, hfound, -⟩ := readLines_of_faultless hfaultless
      rw [hfound] at hread
      cases hread
    · rw [readLines_of_firstFault hfirst] at hread
      obtain rfl := Except.error.inj hread
      exact hfirst
  · exact readLines_of_firstFault

/-- Lines are read in any order. -/
theorem readLines_perm {lines others : List (List UInt8)} {index : Index}
    (hperm : others.Perm lines) (hread : readLines lines = .ok index) :
    readLines others = .ok index := by
  rw [readLines_eq_ok_iff, faultless_iff] at hread ⊢
  obtain ⟨⟨hfit, hterms⟩, hholds⟩ := hread
  refine ⟨⟨fun bytes hmem => hfit bytes (hperm.mem_iff.mp hmem), ?_⟩, ?_, hholds.counted⟩
  · exact (hperm.filterMap _).nodup_iff.mpr hterms
  · intro term list
    simp only [hholds.find?_eq_some_iff, hperm.mem_iff]

/-- A file is read unless one of its lines has a fault, and then the first fault is the error.  An
index that is read holds under each term the postings of the line that is its entry, and nothing
else; it counts them; and the lines can come in any order. -/
theorem read_reports_first_fault (content : ByteArray) :
    (∀ error, read content = .error error ↔
      ∃ position, Fault (fileLines content) position error ∧
        ∀ earlier < position, ∀ other, ¬ Fault (fileLines content) earlier other) ∧
    (∀ position error, Fault (fileLines content) position error →
      error.kind = if error = .content .notText then .io else .parse) ∧
    ((∃ index, read content = .ok index) ↔
      ∀ position error, ¬ Fault (fileLines content) position error) ∧
    (∀ index, read content = .ok index →
      (∀ term list, index.find? term = some list ↔
        ∃ bytes ∈ fileLines content, entryOf? bytes = some (term, list)) ∧
      index.documentCount = index.lastDocument ∧ index.tokenCount = index.occurrences ∧
      ∀ other, (fileLines other).Perm (fileLines content) → read other = .ok index) := by
  refine ⟨fun error => readLines_eq_error_iff, fun position error => Fault.kind_eq, ?_, ?_⟩
  · constructor
    · intro hread
      rcases hread with ⟨index, hread⟩
      exact (readLines_eq_ok_iff.mp hread).1
    · intro hfaultless
      obtain ⟨index, hread, -⟩ := readLines_of_faultless hfaultless
      exact ⟨index, hread⟩
  · intro index hread
    obtain ⟨-, hholds⟩ := readLines_eq_ok_iff.mp hread
    refine ⟨hholds.find?_eq_some_iff, hholds.counted.documentCount_eq,
      hholds.counted.tokenCount_eq, fun other hperm => ?_⟩
    exact readLines_perm hperm hread

/-- Lines with blanks and one without a line end, in another order. -/
theorem read_reports_first_fault_reordered :
    ∃ index, read "b: 2,1\n\n a: 1,1  3,02 \r\nc: 7,1".toUTF8 = .ok index ∧
      read "c: 7,1\n a: 1,1  3,02 \r\nb: 2,1\n\n".toUTF8 = .ok index := by
  obtain ⟨-, -, -, hread⟩ :=
    read_reports_first_fault "b: 2,1\n\n a: 1,1  3,02 \r\nc: 7,1".toUTF8
  cases hfile : read "b: 2,1\n\n a: 1,1  3,02 \r\nc: 7,1".toUTF8 with
  | error _ =>
      have hsome : (read "b: 2,1\n\n a: 1,1  3,02 \r\nc: 7,1".toUTF8).toOption.isSome := by
        decide +kernel
      rw [hfile] at hsome
      cases hsome
  | ok index =>
      obtain ⟨-, -, -, hperm⟩ := hread index hfile
      exact ⟨index, rfl, hperm _ (by decide +kernel)⟩

end BooleanRetrieval.Index
