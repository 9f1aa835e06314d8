/-
# The grammar of entries

A line is an entry if a colon and a space stand in it, with a term before the first of them
and a series of items after it, to the end of the line.  An item is two numerals with a comma
between, and between two items there is a gap of spaces and tabs.  The reader accepts these
lines and no others: what it cannot read as an item is never cut off.
-/

import BooleanRetrieval.Index.Entry
import BooleanRetrieval.Proofs.Posting
import BooleanRetrieval.Proofs.Text.Split

namespace BooleanRetrieval.Index

open Text

/-- Digits that denote a number of an index file; zeros may come first. -/
structure Numeral (digits : List Char) (number : Nat) : Prop where
  ne_nil : digits ≠ []
  isDigit (c : Char) : c ∈ digits → c.isDigit
  value_eq : Nat.ofDigitChars 10 digits 0 = number
  le : number ≤ maxNumber

/-- Two numerals with a comma between. -/
inductive Item : List Char → Posting → Prop
  | mk {document frequency : List Char} {posting : Posting}
      (hdocument : Numeral document posting.document)
      (hfrequency : Numeral frequency posting.frequency) :
      Item (document ++ ',' :: frequency) posting

/-- Spaces and tabs between two items. -/
structure Gap (gap : List Char) : Prop where
  ne_nil : gap ≠ []
  eq_or_eq (c : Char) : c ∈ gap → c = ' ' ∨ c = '\t'

/-- Items with gaps between them. -/
inductive Series : List Char → List Posting → Prop
  | single {item : List Char} {posting : Posting} (hitem : Item item posting) :
      Series item [posting]
  | cons {item gap rest : List Char} {posting : Posting} {postings : List Posting}
      (hitem : Item item posting) (hgap : Gap gap) (hrest : Series rest postings) :
      Series (item ++ gap ++ rest) (posting :: postings)

/-- A line that is the entry of a term. -/
structure IsEntry (line term : String) (list : PostingList) : Prop where
  cut : ∃ after, CutAtFirst [':', ' '] line.toList term.toList after ∧
    Series after list.postings.toList
  term_ne_empty : term ≠ ""
  ascends : list.Ascends
  document_pos (posting : Posting) : posting ∈ list.postings → 1 ≤ posting.document
  frequency_pos (posting : Posting) : posting ∈ list.postings → 1 ≤ posting.frequency

/-! ## Numerals -/

theorem number?_eq_some_iff {digits : List Char} {number : Nat} :
    number? digits = some number ↔ Numeral digits number := by
  rw [number?, Option.ite_none_left_eq_some]
  dsimp only
  rw [Option.ite_none_right_eq_some, Option.some_inj, ← Nat.ofDigitChars_eq_foldl]
  simp only [Bool.or_eq_true, List.isEmpty_iff, Bool.not_eq_true', not_or, Bool.not_eq_false,
    List.all_eq_true]
  constructor
  · intro hread
    rcases hread with ⟨⟨hne, hdigits⟩, hle, rfl⟩
    exact ⟨hne, hdigits, rfl, hle⟩
  · intro hnumeral
    rcases hnumeral with ⟨hne, hdigits, rfl, hle⟩
    exact ⟨⟨hne, hdigits⟩, hle, rfl⟩

/-- No comma, space or tab is a digit. -/
theorem Numeral.ne_of_mem {digits : List Char} {number : Nat} (hnumeral : Numeral digits number)
    {c : Char} (hc : c ∈ digits) {other : Char} (hother : other.isDigit = false) : c ≠ other := by
  rintro rfl
  rw [hnumeral.isDigit c hc] at hother
  cases hother

/-! ## Items -/

/-- A list of texts is read when each of them is. -/
theorem mapM_eq_some_iff {α β : Type} {f : α → Option β} {items : List α} {values : List β} :
    items.mapM f = some values ↔ List.Forall₂ (fun item value => f item = some value)
      items values := by
  induction items generalizing values with
  | nil =>
      rw [List.mapM_nil, List.forall₂_nil_left_iff]
      exact ⟨fun h => (Option.some.inj h).symm, fun h => by rw [h]; rfl⟩
  | cons item rest ih =>
      rw [List.mapM_cons, List.forall₂_cons_left_iff]
      constructor
      · intro h
        obtain ⟨value, hvalue, h⟩ := Option.bind_eq_some_iff.mp h
        obtain ⟨others, hothers, h⟩ := Option.bind_eq_some_iff.mp h
        exact ⟨value, others, hvalue, ih.mp hothers, (Option.some.inj h).symm⟩
      · intro hcons
        rcases hcons with ⟨value, others, hvalue, hothers, rfl⟩
        rw [hvalue, ih.mpr hothers]
        rfl

theorem posting?_eq_some_iff {item : List Char} {posting : Posting} :
    posting? item = some posting ↔ Item item posting := by
  constructor
  · intro hread
    rw [posting?] at hread
    split at hread
    · next document frequency hpieces =>
        obtain ⟨documentNumber, hdocument, hread⟩ := Option.bind_eq_some_iff.mp hread
        obtain ⟨frequencyNumber, hfrequency, hread⟩ := Option.bind_eq_some_iff.mp hread
        obtain rfl := Option.some.inj hread
        obtain ⟨comma, hcomma, rfl⟩ := eq_append_of_piecesBetween_eq_pair hpieces
        obtain rfl := of_decide_eq_true hcomma
        exact ⟨number?_eq_some_iff.mp hdocument, number?_eq_some_iff.mp hfrequency⟩
    · cases hread
  · intro hitem
    cases hitem with
    | @mk document frequency _ hdocument hfrequency =>
        have hclear {digits : List Char} {number : Nat} (hnumeral : Numeral digits number) :
            ∀ c ∈ digits, decide (c = ',') = false := fun c hc =>
          decide_eq_false (hnumeral.ne_of_mem hc (by decide))
        have hpieces : piecesBetween (· = ',') (document ++ ',' :: frequency) =
            [document, frequency] := by
          rw [piecesBetween_append_mark (by rfl), piecesBetween_of_no_mark (hclear hdocument),
            piecesBetween_of_no_mark (hclear hfrequency)]
          rfl
        rw [posting?, hpieces]
        simp [number?_eq_some_iff.mpr hdocument, number?_eq_some_iff.mpr hfrequency]

/-! ## Series -/

theorem isSeparator_iff {c : Char} : isSeparator c ↔ c = ' ' ∨ c = '\t' := by
  simp [isSeparator]

/-- An item is a piece of its own. -/
theorem Item.isSeparator_eq_false {item : List Char} {posting : Posting}
    (hitem : Item item posting) {c : Char} (hc : c ∈ item) : isSeparator c = false := by
  rw [Bool.eq_false_iff, ne_eq, isSeparator_iff, not_or]
  cases hitem with
  | mk hdocument hfrequency =>
      rcases List.mem_append.mp hc with hdigit | hrest
      · exact ⟨hdocument.ne_of_mem hdigit (by decide), hdocument.ne_of_mem hdigit (by decide)⟩
      · rcases List.mem_cons.mp hrest with rfl | hdigit
        · decide
        · exact ⟨hfrequency.ne_of_mem hdigit (by decide), hfrequency.ne_of_mem hdigit (by decide)⟩

theorem Item.ne_nil {item : List Char} {posting : Posting} (hitem : Item item posting) :
    item ≠ [] := by
  cases hitem
  simp

/-- What the reader checks of the pieces between separators. -/
theorem postings?_eq_some_iff_pieces {chars : List Char} {postings : List Posting} :
    postings? chars = some postings ↔
      (piecesBetween isSeparator chars).head? ≠ some [] ∧
      (piecesBetween isSeparator chars).getLast? ≠ some [] ∧
      List.Forall₂ Item ((piecesBetween isSeparator chars).filter (!·.isEmpty)) postings := by
  have hany (piece : Option (List Char)) : piece.any (·.isEmpty) = true ↔ piece = some [] := by
    cases piece <;> simp
  rw [postings?, Option.ite_none_left_eq_some, Bool.or_eq_true, not_or, hany, hany,
    mapM_eq_some_iff, and_assoc]
  simp only [posting?_eq_some_iff]

/-- Pieces that are items, with the last at the end, are a series after separators. -/
theorem exists_series_of_pieces {chars : List Char} {postings : List Posting}
    (hlast : (piecesBetween isSeparator chars).getLast? ≠ some [])
    (hitems : List.Forall₂ Item ((piecesBetween isSeparator chars).filter (!·.isEmpty))
      postings) :
    ∃ separators rest, chars = separators ++ rest ∧
      (∀ c ∈ separators, c = ' ' ∨ c = '\t') ∧ Series rest postings := by
  -- By length: a cut leaves what is after the separator, which is not the tail.
  induction hlength : chars.length using Nat.strong_induction_on generalizing chars postings with
  | _ length ih =>
  rcases no_mark_or_exists_cut isSeparator chars with
    hclear | ⟨piece, separator, after, rfl, hseparator, hpiece⟩
  · rw [piecesBetween_of_no_mark hclear] at hlast hitems
    have hfull : chars ≠ [] := by simpa using hlast
    rw [List.filter_cons_of_pos (by simpa using hfull), List.filter_nil,
      List.forall₂_cons_left_iff] at hitems
    obtain ⟨posting, others, hitem, hothers, rfl⟩ := hitems
    rw [List.forall₂_nil_left_iff.mp hothers]
    exact ⟨[], chars, rfl, by simp, .single hitem⟩
  · rw [piecesBetween_append_mark hseparator, piecesBetween_of_no_mark hpiece] at hlast hitems
    rw [List.getLast?_append_of_ne_nil _ (piecesBetween_ne_nil _ _)] at hlast
    rw [List.filter_append] at hitems
    have hshorter : after.length < length := by
      rw [← hlength, List.length_append, List.length_cons]
      omega
    have hgap {separators : List Char} (hseparators : ∀ c ∈ separators, c = ' ' ∨ c = '\t') :
        ∀ c ∈ separator :: separators, c = ' ' ∨ c = '\t' :=
      List.forall_mem_cons.mpr ⟨isSeparator_iff.mp hseparator, hseparators⟩
    by_cases hempty : piece = []
    · subst hempty
      obtain ⟨separators, rest, rfl, hseparators, hseries⟩ := ih _ hshorter hlast hitems rfl
      exact ⟨separator :: separators, rest, rfl, hgap hseparators, hseries⟩
    · rw [List.filter_cons_of_pos (by simpa using hempty), List.filter_nil,
        List.singleton_append, List.forall₂_cons_left_iff] at hitems
      obtain ⟨posting, others, hitem, hothers, rfl⟩ := hitems
      obtain ⟨separators, rest, rfl, hseparators, hseries⟩ := ih _ hshorter hlast hothers rfl
      refine ⟨[], piece ++ separator :: separators ++ rest, by simp, by simp, ?_⟩
      exact .cons hitem ⟨List.cons_ne_nil _ _, hgap hseparators⟩ hseries

/-- The pieces of a series are its items and what is empty between them. -/
theorem Series.pieces {chars : List Char} {postings : List Posting}
    (hseries : Series chars postings) :
    (piecesBetween isSeparator chars).head? ≠ some [] ∧
      (piecesBetween isSeparator chars).getLast? ≠ some [] ∧
      List.Forall₂ Item ((piecesBetween isSeparator chars).filter (!·.isEmpty)) postings := by
  induction hseries with
  | @single item posting hitem =>
      rw [piecesBetween_of_no_mark fun c hc => hitem.isSeparator_eq_false hc]
      refine ⟨by simpa using hitem.ne_nil, by simpa using hitem.ne_nil, ?_⟩
      rw [List.filter_cons_of_pos (by simpa using hitem.ne_nil)]
      exact .cons hitem .nil
  | @cons item gap rest posting postings hitem hgap _ ih =>
      obtain ⟨-, hlast, hitems⟩ := ih
      obtain ⟨separator, separators, rfl⟩ := List.exists_cons_of_ne_nil hgap.ne_nil
      obtain ⟨hseparator, hseparators⟩ := List.forall_mem_cons.mp fun c hc =>
        isSeparator_iff.mpr (hgap.eq_or_eq c hc)
      have hpieces : piecesBetween isSeparator (item ++ separator :: separators ++ rest) =
          item :: (List.replicate separators.length [] ++ piecesBetween isSeparator rest) := by
        rw [List.append_assoc, List.cons_append, piecesBetween_append_mark hseparator,
          piecesBetween_of_no_mark fun c hc => hitem.isSeparator_eq_false hc,
          piecesBetween_append_of_marks hseparators]
        rfl
      rw [hpieces]
      refine ⟨by simpa using hitem.ne_nil, ?_, ?_⟩
      · rwa [← List.cons_append, List.getLast?_append_of_ne_nil _ (piecesBetween_ne_nil _ _)]
      · rw [List.filter_cons_of_pos (by simpa using hitem.ne_nil), List.filter_append,
          List.filter_replicate_of_neg (by simp), List.nil_append]
        exact .cons hitem hitems

theorem postings?_eq_some_iff {chars : List Char} {postings : List Posting} :
    postings? chars = some postings ↔ Series chars postings := by
  rw [postings?_eq_some_iff_pieces]
  constructor
  · intro hpieces
    rcases hpieces with ⟨hhead, hlast, hitems⟩
    obtain ⟨separators, rest, rfl, hseparators, hseries⟩ := exists_series_of_pieces hlast hitems
    cases separators with
    | nil => exact hseries
    | cons separator separators =>
        have hcut := piecesBetween_append_mark
          (isSeparator_iff.mpr (hseparators separator List.mem_cons_self)) [] (separators ++ rest)
        exact absurd (by rw [List.cons_append, ← List.nil_append (separator :: _), hcut]; rfl) hhead
  · exact Series.pieces

theorem Series.ne_nil {chars : List Char} {postings : List Posting}
    (hseries : Series chars postings) : postings ≠ [] := by
  cases hseries with
  | single => exact List.cons_ne_nil _ _
  | cons => exact List.cons_ne_nil _ _

/-- No number of a series is too large. -/
theorem Series.le_maxNumber {chars : List Char} {postings : List Posting}
    (hseries : Series chars postings) {posting : Posting} (hmem : posting ∈ postings) :
    posting.document ≤ maxNumber ∧ posting.frequency ≤ maxNumber := by
  have hle {item : List Char} {posting : Posting} (hitem : Item item posting) :
      posting.document ≤ maxNumber ∧ posting.frequency ≤ maxNumber := by
    cases hitem with
    | mk hdocument hfrequency => exact ⟨hdocument.le, hfrequency.le⟩
  induction hseries with
  | single hitem =>
      rw [List.mem_singleton.mp hmem]
      exact hle hitem
  | cons hitem _ _ ih =>
      rcases List.mem_cons.mp hmem with rfl | hrest
      · exact hle hitem
      · exact ih hrest

/-! ## Lines -/

theorem ascendsFrom_iff {bound : Nat} {postings : List Posting} :
    ascendsFrom bound postings ↔
      (∀ posting ∈ postings, bound < posting.document) ∧
        postings.Pairwise (·.document < ·.document) := by
  induction postings generalizing bound with
  | nil => simp [ascendsFrom]
  | cons posting rest ih =>
      rw [ascendsFrom, Bool.and_eq_true, decide_eq_true_eq, ih, List.pairwise_cons,
        List.forall_mem_cons]
      constructor
      · intro hchecks
        rcases hchecks with ⟨hfirst, hrest, hpairs⟩
        exact ⟨⟨hfirst, fun other h => Nat.lt_trans hfirst (hrest other h)⟩, hrest, hpairs⟩
      · intro hordered
        rcases hordered with ⟨⟨hfirst, -⟩, hrest, hpairs⟩
        exact ⟨hfirst, hrest, hpairs⟩

/-- What the reader checks of a line. -/
theorem entry?_eq_some_iff_checks {line term : String} {list : PostingList} :
    entry? line = some (term, list) ↔
      ∃ after, splitAtFirst? [':', ' '] line.toList = some (term.toList, after) ∧
        postings? after = some list.postings.toList ∧ term ≠ "" ∧
        ascendsFrom 0 list.postings.toList ∧ ∀ posting ∈ list.postings, 0 < posting.frequency := by
  unfold entry?
  constructor
  · intro hentry
    obtain ⟨⟨before, after⟩, hsplit, hentry⟩ := Option.bind_eq_some_iff.mp hentry
    obtain ⟨postings, hpostings, hentry⟩ := Option.bind_eq_some_iff.mp hentry
    obtain ⟨_, hguard, hentry⟩ := Option.bind_eq_some_iff.mp hentry
    obtain ⟨rfl, rfl⟩ := Prod.mk.inj (Option.some.inj hentry)
    replace hguard := (Option.ite_none_right_eq_some.mp hguard).1
    simp only [Bool.and_eq_true, Bool.not_eq_true', List.isEmpty_eq_false_iff,
      List.all_eq_true, decide_eq_true_eq] at hguard
    obtain ⟨⟨hbefore, hascends⟩, hpositive⟩ := hguard
    refine ⟨after, by rw [hsplit, String.toList_ofList], hpostings, ?_, hascends, ?_⟩
    · rw [ne_eq, ← String.toList_eq_nil_iff, String.toList_ofList]
      exact hbefore
    · simpa using hpositive
  · intro hparts
    rcases hparts with ⟨after, hsplit, hpostings, hterm, hascends, hpositive⟩
    have hguard : (!term.toList.isEmpty && ascendsFrom 0 list.postings.toList &&
        list.postings.toList.all (0 < ·.frequency)) = true := by
      simp only [Bool.and_eq_true, Bool.not_eq_true', List.isEmpty_eq_false_iff, ne_eq,
        String.toList_eq_nil_iff, List.all_eq_true, decide_eq_true_eq, Array.mem_toList_iff]
      exact ⟨⟨hterm, hascends⟩, hpositive⟩
    simp only [hsplit, hpostings, hguard, guard, if_true, Option.bind_eq_bind, Option.bind_some]
    rw [String.ofList_toList]
    rfl

theorem entry?_eq_some_iff {line term : String} {list : PostingList} :
    entry? line = some (term, list) ↔ IsEntry line term list := by
  rw [entry?_eq_some_iff_checks]
  constructor
  · intro hchecks
    rcases hchecks with ⟨after, hsplit, hpostings, hterm, hascends, hpositive⟩
    obtain ⟨habove, hpairs⟩ := ascendsFrom_iff.mp hascends
    exact
      { cut := ⟨after, (splitAtFirst?_eq_some_iff (by simp)).mp hsplit,
          postings?_eq_some_iff.mp hpostings⟩
        term_ne_empty := hterm
        ascends := hpairs
        document_pos := fun posting hmem => habove posting (Array.mem_toList_iff.mpr hmem)
        frequency_pos := hpositive }
  · intro hentry
    obtain ⟨after, hcut, hseries⟩ := hentry.cut
    refine ⟨after, (splitAtFirst?_eq_some_iff (by simp)).mpr hcut,
      postings?_eq_some_iff.mpr hseries, hentry.term_ne_empty, ?_, hentry.frequency_pos⟩
    exact ascendsFrom_iff.mpr ⟨fun posting hmem =>
      hentry.document_pos posting (Array.mem_toList_iff.mp hmem), hentry.ascends⟩

/-- The reader of entries accepts exactly the lines of the grammar, each as what it is an entry
of, and no other line. -/
theorem entry?_reads_grammar (line : String) :
    (∀ term list, entry? line = some (term, list) ↔ IsEntry line term list) ∧
      ((∀ term list, ¬ IsEntry line term list) ↔ entry? line = none) := by
  refine ⟨fun term list => entry?_eq_some_iff, ?_⟩
  rw [Option.eq_none_iff_forall_ne_some, Prod.forall]
  simp only [ne_eq, entry?_eq_some_iff]

end BooleanRetrieval.Index
