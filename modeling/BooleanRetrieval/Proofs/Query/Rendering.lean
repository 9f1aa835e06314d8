/-
# Rendering queries

The text of a query is read back as the query exactly if the query is readable: every group
has atoms, and every term is plain.  A plain term is a word that holds no sign with a meaning
where the sign would have it, and is in lower case if terms are put in lower case.  All that
the parser returns is readable, so what is rendered after parsing is stable.
-/

import BooleanRetrieval.Proofs.Query.Clauses
import BooleanRetrieval.Proofs.Text.Lowercase

namespace BooleanRetrieval.Query

open Text

/-! ## Readable queries -/

/-- A term that stands for itself in the text of a query. -/
structure PlainTerm (lowercase : Bool) (term : String) : Prop where
  ne_empty : term ≠ ""
  no_blank : ∀ c ∈ term.toList, isBlank c = false
  no_bar : '|' ∉ term.toList
  no_negation : term.toList.head? ≠ some '!'
  no_and : touchesAnd term.toList = false
  lowered : lowercase = true → lower term = term

instance (lowercase : Bool) (term : String) : Decidable (PlainTerm lowercase term) :=
  decidable_of_iff
    (term ≠ "" ∧ term.toList.all (!isBlank ·) ∧ '|' ∉ term.toList ∧
      term.toList.head? ≠ some '!' ∧ touchesAnd term.toList = false ∧
      (lowercase = true → lower term = term))
    ⟨fun ⟨hempty, hblank, hbar, hnegation, hand, hlowered⟩ =>
        ⟨hempty, by simpa using hblank, hbar, hnegation, hand, hlowered⟩,
      fun hplain => ⟨hplain.ne_empty, by simpa using hplain.no_blank, hplain.no_bar,
        hplain.no_negation, hplain.no_and, hplain.lowered⟩⟩

/-- A query whose text can be read. -/
structure Readable (lowercase : Bool) (query : Query) : Prop where
  atoms_ne_nil : ∀ group ∈ query.groups, group.atoms ≠ []
  plain : ∀ group ∈ query.groups, ∀ atom ∈ group.atoms, PlainTerm lowercase atom.term

/-- The characters that mean something in a query. -/
def signs : List Char :=
  ['|', '!', '&']

theorem isMark_of_mem_signs {sign : Char} (hsign : sign ∈ signs) : IsMark sign := by
  have hmarks : signs.all fun c => breakClass c ≠ .letter && c ≠ '\u0307' := by decide +kernel
  have hmark := List.all_eq_true.mp hmarks sign hsign
  rw [Bool.and_eq_true, decide_eq_true_iff, decide_eq_true_iff] at hmark
  exact { not_letter := hmark.1, not_dot := hmark.2 }

theorem isMark_bar : IsMark '|' :=
  isMark_of_mem_signs (by decide)

theorem isMark_negation : IsMark '!' :=
  isMark_of_mem_signs (by decide)

theorem isMark_and : IsMark '&' :=
  isMark_of_mem_signs (by decide)

theorem touchesAnd_eq_false_iff {term : List Char} :
    touchesAnd term = false ↔ term.head? ≠ some '&' ∧ term.getLast? ≠ some '&' := by
  simp [touchesAnd]

/-- The lower case of a plain term is plain. -/
theorem PlainTerm.lower {term : String} (hplain : PlainTerm false term) :
    PlainTerm true (lower term) where
  ne_empty := by simpa using hplain.ne_empty
  no_blank := no_blank_lower hplain.no_blank
  no_bar hbar := by
    rw [toList_lower] at hbar
    exact hplain.no_bar (mem_of_mem_lowerAfter isMark_bar hbar)
  no_negation hfirst := by
    rw [toList_lower] at hfirst
    exact hplain.no_negation (head?_of_head?_lowerAfter isMark_negation hfirst)
  no_and := by
    obtain ⟨hfirst, hlast⟩ := touchesAnd_eq_false_iff.mp hplain.no_and
    rw [toList_lower, touchesAnd_eq_false_iff]
    exact ⟨fun hand => hfirst (head?_of_head?_lowerAfter isMark_and hand),
      fun hand => hlast (getLast?_of_getLast?_lowerAfter isMark_and hand)⟩
  lowered _ := lower_lower term

/-- A plain term is plain whatever is done about case, once that is done. -/
theorem PlainTerm.folded {term : String} (hplain : PlainTerm false term) (lowercase : Bool) :
    PlainTerm lowercase (if lowercase then Text.lower term else term) := by
  cases lowercase with
  | false => exact hplain
  | true => exact hplain.lower

/-! ## What the parser returns -/

/-- What is left of a word is a plain term, unless it touches the sign for "and". -/
theorem plainTerm_remainder {word : List Char} (hblank : ∀ c ∈ word, isBlank c = false)
    (hbar : '|' ∉ word) (hterm : isBare word = false)
    (hand : touchesAnd (remainder word) = false) :
    PlainTerm false (.ofList (remainder word)) := by
  have hmem : ∀ c ∈ remainder word, c ∈ word := fun c hc =>
    (List.dropWhile_suffix _).subset hc
  have hfull : remainder word ≠ [] := by simpa [isBare] using hterm
  refine ⟨?_, ?_, ?_, ?_, ?_, by simp⟩
  · simpa using hfull
  · rw [String.toList_ofList]
    exact fun c hc => hblank c (hmem c hc)
  · rw [String.toList_ofList]
    exact fun hc => hbar (hmem _ hc)
  · rw [String.toList_ofList]
    intro hfirst
    have hclear := List.head?_dropWhile_not (· = '!') word
    rw [← remainder, hfirst] at hclear
    simp at hclear
  · rw [String.toList_ofList]
    exact hand

/-- The atoms of a clause without a fault have plain terms. -/
theorem plainTerm_of_mem_clauseAtoms {lowercase : Bool} {words : List (List Char)} {atom : Atom}
    (hblank : ∀ word ∈ words, ∀ c ∈ word, isBlank c = false)
    (hbar : ∀ word ∈ words, '|' ∉ word)
    (hand : ∀ word ∈ words, touchesAnd (remainder word) = false)
    (hatom : atom ∈ clauseAtoms lowercase words) : PlainTerm lowercase atom.term := by
  obtain ⟨⟨before, word⟩, hpair, hword⟩ := List.mem_filterMap.mp hatom
  have hmem : word ∈ words := (List.of_mem_zip hpair).2
  simp only [atom?] at hword
  split at hword
  · cases hword
  · next hterm =>
      cases hword
      exact (plainTerm_remainder (hblank word hmem) (hbar word hmem)
        (Bool.eq_false_of_not_eq_true hterm) (hand word hmem)).folded lowercase

/-- A word of a text holds neither blanks nor bars. -/
theorem no_mark_of_mem_clauses {chars word : List Char} {words : List (List Char)}
    (hwords : words ∈ clauses chars) (hword : word ∈ words) :
    (∀ c ∈ word, isBlank c = false) ∧ '|' ∉ word := by
  obtain ⟨piece, hpiece, rfl⟩ := List.mem_map.mp hwords
  have hword := List.mem_of_mem_filter hword
  refine ⟨fun c hc => isMark_eq_false_of_mem_piecesBetween hword hc, fun hbar => ?_⟩
  have hclear := isMark_eq_false_of_mem_piecesBetween hpiece
    (mem_of_mem_piecesBetween hword hbar)
  simp at hclear

/-- What the parser returns is readable. -/
theorem readable_of_parse {lowercase : Bool} {text : String} {query : Query}
    (hparse : parse lowercase text = .ok query) : query.Readable lowercase := by
  rw [parse_eq_ofClauses, ofClauses_eq_ok_iff] at hparse
  obtain ⟨hfault, rfl⟩ := hparse
  have hgroup : ∀ group ∈ (clauses text.toList).filterMap (group? lowercase),
      ∃ words ∈ clauses text.toList, words ≠ [] ∧ group = ⟨clauseAtoms lowercase words⟩ := by
    intro group hmem
    obtain ⟨words, hwords, hgroup⟩ := List.mem_filterMap.mp hmem
    rw [group?] at hgroup
    split at hgroup
    · cases hgroup
    · next hfull =>
        cases hgroup
        exact ⟨words, hwords, by simpa using hfull, rfl⟩
  constructor
  · intro group hmem
    obtain ⟨words, hwords, hfull, rfl⟩ := hgroup group hmem
    exact clauseAtoms_ne_nil lowercase hfull (fault?_eq_none_iff.mp (hfault words hwords)).2
  · intro group hmem atom hatom
    obtain ⟨words, hwords, -, rfl⟩ := hgroup group hmem
    exact plainTerm_of_mem_clauseAtoms
      (fun word hword => (no_mark_of_mem_clauses hwords hword).1)
      (fun word hword => (no_mark_of_mem_clauses hwords hword).2)
      (fault?_eq_none_iff.mp (hfault words hwords)).1 hatom

/-! ## Reading what was rendered -/

/-- The word that an atom is rendered as. -/
def Atom.word (atom : Atom) : List Char :=
  atom.render.toList

theorem Atom.word_eq (atom : Atom) :
    atom.word = if atom.negated then '!' :: atom.term.toList else atom.term.toList := by
  rw [word, render]
  split
  · simp
  · rfl

section Words

theorem remainder_of_no_negation {term : List Char} (hfirst : term.head? ≠ some '!') :
    remainder term = term := by
  cases term with
  | nil => rfl
  | cons c rest =>
      have hc : c ≠ '!' := by simpa using hfirst
      simp [remainder, hc]

theorem negations_of_no_negation {term : List Char} (hfirst : term.head? ≠ some '!') :
    negations term = 0 := by
  cases term with
  | nil => rfl
  | cons c rest =>
      have hc : c ≠ '!' := by simpa using hfirst
      simp [negations, hc]

variable {lowercase : Bool} {atom : Atom}

/-- The term of an atom is what is left of its word. -/
theorem remainder_word (hplain : PlainTerm lowercase atom.term) :
    remainder atom.word = atom.term.toList := by
  have hterm := remainder_of_no_negation hplain.no_negation
  rw [atom.word_eq]
  split
  · rw [remainder, List.dropWhile_cons_of_pos (by simp), ← remainder, hterm]
  · exact hterm

theorem isBare_word (hplain : PlainTerm lowercase atom.term) : isBare atom.word = false := by
  rw [isBare, remainder_word hplain]
  simpa using hplain.ne_empty

/-- A negated atom is negated once. -/
theorem negations_word (hplain : PlainTerm lowercase atom.term) :
    negations atom.word = if atom.negated then 1 else 0 := by
  have hterm := negations_of_no_negation hplain.no_negation
  rw [atom.word_eq]
  split
  · simpa [negations] using hterm
  · exact hterm

/-- The word of an atom can stand between blanks and bars. -/
theorem no_mark_of_mem_word (hplain : PlainTerm lowercase atom.term) :
    (∀ c ∈ atom.word, isBlank c = false) ∧ '|' ∉ atom.word := by
  have hblank : isBlank '!' = false := by cbv
  rw [atom.word_eq]
  split
  · exact ⟨List.forall_mem_cons.mpr ⟨hblank, hplain.no_blank⟩, by simpa using hplain.no_bar⟩
  · exact ⟨hplain.no_blank, hplain.no_bar⟩

theorem word_ne_nil (hplain : PlainTerm lowercase atom.term) : atom.word ≠ [] := by
  intro hnone
  have hterm := isBare_word hplain
  rw [hnone] at hterm
  cases hterm

/-- The word of an atom is read as the atom, after words that have terms. -/
theorem atom?_word (hplain : PlainTerm lowercase atom.term) {before : List (List Char)}
    (hbefore : waiting before = []) : atom? lowercase before atom.word = some atom := by
  have hterm : (if lowercase then lower atom.term else atom.term) = atom.term := by
    split
    · next hlowercase => exact hplain.lowered hlowercase
    · rfl
  have hnegated : decide (negations atom.word % 2 = 1) = atom.negated := by
    rw [negations_word hplain]
    cases atom.negated with
    | false => rfl
    | true => rfl
  rw [atom?, isBare_word hplain, if_neg Bool.false_ne_true, hbefore, remainder_word hplain,
    String.ofList_toList]
  simp only [List.map_nil, List.sum_nil, Nat.zero_add, hterm, hnegated]

end Words

/-- Words that each have a term leave no negation waiting. -/
theorem waiting_words {lowercase : Bool} {atoms : List Atom}
    (hplain : ∀ atom ∈ atoms, PlainTerm lowercase atom.term) :
    waiting (atoms.map Atom.word) = [] := by
  rcases List.eq_nil_or_concat' atoms with rfl | ⟨before, atom, rfl⟩
  · rfl
  · have hterm := isBare_word (hplain atom (by simp))
    rw [List.map_append, List.map_singleton, waiting_concat, hterm, if_neg Bool.false_ne_true]

/-- The words of atoms are read as the atoms. -/
theorem clauseAtoms_words {lowercase : Bool} {atoms : List Atom}
    (hplain : ∀ atom ∈ atoms, PlainTerm lowercase atom.term) :
    clauseAtoms lowercase (atoms.map Atom.word) = atoms := by
  induction atoms using List.reverseRecOn with
  | nil => rfl
  | append_singleton before atom ih =>
      obtain ⟨hbefore, hatom⟩ := List.forall_mem_append.mp hplain
      rw [List.map_append, List.map_singleton, clauseAtoms_concat, ih hbefore,
        atom?_word (hatom atom List.mem_cons_self) (waiting_words hbefore)]
      rfl

/-- The words of atoms are a clause without a fault. -/
theorem fault?_words {lowercase : Bool} {atoms : List Atom}
    (hplain : ∀ atom ∈ atoms, PlainTerm lowercase atom.term) :
    fault? (atoms.map Atom.word) = none := by
  rw [fault?_eq_none_iff, List.forall_mem_map]
  constructor
  · intro atom hatom
    rw [remainder_word (hplain atom hatom)]
    exact (hplain atom hatom).no_and
  · rcases List.eq_nil_or_concat' atoms with rfl | ⟨before, atom, rfl⟩
    · rfl
    · simpa using isBare_word (hplain atom (by simp))

/-- Words with a blank between are the words of the clause they make up. -/
theorem blankSeparated_intercalate {words : List (List Char)}
    (hwords : ∀ word ∈ words, word ≠ [] ∧ ∀ c ∈ word, isBlank c = false) :
    blankSeparated ([' '].intercalate words) = words := by
  induction words with
  | nil => simp [blankSeparated]
  | cons word rest ih =>
      obtain ⟨⟨hfull, hblank⟩, hrest⟩ := List.forall_mem_cons.mp hwords
      cases rest with
      | nil => simpa using blankSeparated_of_no_blank hfull hblank
      | cons next others =>
          rw [List.intercalate_cons_cons, List.append_assoc, List.singleton_append,
            blankSeparated_append_blank isBlank_space,
            blankSeparated_of_no_blank hfull hblank, ih hrest]
          rfl

theorem isBlank_bar : isBlank '|' = false := by cbv

/-- A blank in front of a text adds nothing to its clauses. -/
theorem clauses_cons_blank {c : Char} (hblank : isBlank c) (chars : List Char) :
    clauses (c :: chars) = clauses chars := by
  obtain ⟨piece, pieces, hpieces⟩ :=
    List.exists_cons_of_ne_nil (piecesBetween_ne_nil (· = '|') chars)
  have hbar : c ≠ '|' := by
    rintro rfl
    rw [isBlank_bar] at hblank
    cases hblank
  have hpiece : blankSeparated (c :: piece) = blankSeparated piece := by
    have hcut := blankSeparated_append_blank hblank [] piece
    simpa [blankSeparated] using hcut
  rw [clauses, piecesBetween_cons, hpieces, clauses, hpieces]
  simp [consPiece, hbar, hpiece]

/-- Texts with bars between, and blanks around them, are the clauses that they make up. -/
theorem clauses_intercalate {texts : List (List Char)} (hfull : texts ≠ [])
    (hbar : ∀ text ∈ texts, '|' ∉ text) :
    clauses ([' ', '|', ' '].intercalate texts) = texts.map blankSeparated := by
  induction texts with
  | nil => exact absurd rfl hfull
  | cons text rest ih =>
      obtain ⟨htext, hrest⟩ := List.forall_mem_cons.mp hbar
      cases rest with
      | nil => simpa using clauses_of_no_bar htext
      | cons next others =>
          -- The blanks around the bar belong to the clauses on both sides, and add no words.
          have hspaced : '|' ∉ text ++ [' '] := by simpa using htext
          have hcut : blankSeparated (text ++ [' ']) = blankSeparated text := by
            rw [blankSeparated_append_blank isBlank_space]
            simp [blankSeparated]
          have hchars : [' ', '|', ' '].intercalate (text :: next :: others) =
              (text ++ [' ']) ++ '|' :: ' ' :: [' ', '|', ' '].intercalate (next :: others) := by
            simp [List.intercalate_cons_cons]
          rw [hchars, clauses_append_bar, clauses_of_no_bar hspaced, hcut,
            clauses_cons_blank isBlank_space, ih (by simp) hrest]
          rfl

/-- The characters of a group are the words of its atoms with a blank between. -/
theorem Group.toList_render (group : Group) :
    group.render.toList = [' '].intercalate (group.atoms.map Atom.word) := by
  rw [render, String.toList_intercalate, List.map_map]
  rfl

theorem mem_of_mem_intercalate {separator : List Char} {texts : List (List Char)} {c : Char}
    (hc : c ∈ separator.intercalate texts) : c ∈ separator ∨ ∃ text ∈ texts, c ∈ text := by
  induction texts with
  | nil => simp at hc
  | cons text rest ih =>
      cases rest with
      | nil => exact .inr ⟨text, List.mem_cons_self, by simpa using hc⟩
      | cons next others =>
          rw [List.intercalate_cons_cons, List.mem_append, List.mem_append] at hc
          rcases hc with (htext | hseparator) | hrest
          · exact .inr ⟨text, List.mem_cons_self, htext⟩
          · exact .inl hseparator
          · rcases ih hrest with hseparator | ⟨other, hother, hc⟩
            · exact .inl hseparator
            · exact .inr ⟨other, List.mem_cons_of_mem _ hother, hc⟩

/-- The clauses of the text of a query are the words of its groups. -/
theorem clauses_render {lowercase : Bool} {query : Query} (hfull : query.groups ≠ [])
    (hplain : ∀ group ∈ query.groups, ∀ atom ∈ group.atoms, PlainTerm lowercase atom.term) :
    clauses query.render.toList = query.groups.map fun group => group.atoms.map Atom.word := by
  have hchars : query.render.toList =
      [' ', '|', ' '].intercalate (query.groups.map fun group => group.render.toList) := by
    rw [render, String.toList_intercalate, List.map_map]
    rfl
  have hbar : ∀ text ∈ query.groups.map fun group => group.render.toList, '|' ∉ text := by
    intro text htext hbar
    obtain ⟨group, hgroup, rfl⟩ := List.mem_map.mp htext
    rw [group.toList_render] at hbar
    rcases mem_of_mem_intercalate hbar with hspace | ⟨word, hword, hbar⟩
    · simp at hspace
    · obtain ⟨atom, hatom, rfl⟩ := List.mem_map.mp hword
      exact (no_mark_of_mem_word (hplain group hgroup atom hatom)).2 hbar
  rw [hchars, clauses_intercalate (by simpa using hfull) hbar, List.map_map]
  apply List.map_congr_left
  intro group hgroup
  rw [Function.comp_apply, group.toList_render]
  apply blankSeparated_intercalate
  rw [List.forall_mem_map]
  intro atom hatom
  have hatom := hplain group hgroup atom hatom
  exact ⟨word_ne_nil hatom, (no_mark_of_mem_word hatom).1⟩

/-- The text of a readable query is read as the query. -/
theorem parse_render {lowercase : Bool} {query : Query} (hreadable : query.Readable lowercase) :
    parse lowercase query.render = .ok query := by
  by_cases hfull : query.groups = []
  · obtain ⟨groups⟩ := query
    obtain rfl : groups = [] := hfull
    rfl
  · rw [parse_eq_ofClauses, clauses_render hfull hreadable.plain, ofClauses_eq_ok_iff,
      List.forall_mem_map]
    refine ⟨fun group hgroup => fault?_words (hreadable.plain group hgroup), ?_⟩
    have hgroups : ∀ group ∈ query.groups,
        (group? lowercase ∘ fun group : Group => group.atoms.map Atom.word) group =
          some group := by
      intro group hgroup
      have hatoms := hreadable.atoms_ne_nil group hgroup
      simp [group?, hatoms, clauseAtoms_words (hreadable.plain group hgroup)]
    rw [List.filterMap_map, List.filterMap_congr hgroups, List.filterMap_some]

/-- A plain term is read as itself, or as its lower case. -/
theorem parse_plainTerm {term : String} (hplain : PlainTerm false term) (lowercase : Bool) :
    parse lowercase term =
      .ok ⟨[⟨[⟨if lowercase then lower term else term, false⟩]⟩]⟩ := by
  have hfull : term.toList ≠ [] := by simpa using hplain.ne_empty
  have hterm := remainder_of_no_negation hplain.no_negation
  have hatom : atom? lowercase [] term.toList =
      some ⟨if lowercase then lower term else term, false⟩ := by
    have hbare : isBare term.toList = false := by simpa [isBare, hterm] using hfull
    simp [atom?, hbare, hterm, negations_of_no_negation hplain.no_negation, waiting]
  rw [parse_eq_ofClauses, clauses_of_no_bar hplain.no_bar,
    blankSeparated_of_no_blank hfull hplain.no_blank, ofClauses_word, hterm, hplain.no_and,
    if_neg Bool.false_ne_true, hatom]

/-- Parsing reverses rendering on the readable queries and on no others, and all that the
parser returns is readable. -/
theorem parse_render_iff_readable (lowercase : Bool) :
    (∀ query : Query, parse lowercase query.render = .ok query ↔ query.Readable lowercase) ∧
      ∀ (text : String) (query : Query), parse lowercase text = .ok query →
        query.Readable lowercase ∧ parse lowercase query.render = .ok query := by
  refine ⟨fun query => ⟨readable_of_parse, parse_render⟩, fun text query hparse => ?_⟩
  have hreadable := readable_of_parse hparse
  exact ⟨hreadable, parse_render hreadable⟩

/-- A text with more blanks and signs than it needs is rendered without them. -/
theorem parse_render_iff_readable_cat_dog_bird :
    parse true "Cat  !!dog |! bird" =
        .ok ⟨[⟨[⟨"cat", false⟩, ⟨"dog", false⟩]⟩, ⟨[⟨"bird", true⟩]⟩]⟩ ∧
      parse true "cat dog | !bird" =
        .ok ⟨[⟨[⟨"cat", false⟩, ⟨"dog", false⟩]⟩, ⟨[⟨"bird", true⟩]⟩]⟩ := by
  have hparse : parse true "Cat  !!dog |! bird" =
      .ok ⟨[⟨[⟨"cat", false⟩, ⟨"dog", false⟩]⟩, ⟨[⟨"bird", true⟩]⟩]⟩ := by decide +kernel
  exact ⟨hparse, ((parse_render_iff_readable true).2 _ _ hparse).2⟩

end BooleanRetrieval.Query
