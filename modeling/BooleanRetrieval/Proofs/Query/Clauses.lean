/-
# Joining the texts of queries

A text is read clause by clause, so what two texts denote decides what they denote
together.  A bar between them gives the groups of both, and the first error in order.
A blank between two texts of one clause each, neither at fault, gives one group of the
atoms of both: no negation waits at the end of the first.  A `!` in front of a single
word turns its atom around.
-/

import BooleanRetrieval.Proofs.Query.Grammar

namespace BooleanRetrieval.Query

open Text

/-! ## Texts as clauses -/

/-- What a text with the given clauses denotes. -/
def ofClauses (lowercase : Bool) (clauses : List (List (List Char))) : Except Error Query :=
  match clauses.findSome? fault? with
  | some error => .error error
  | none => .ok ⟨clauses.filterMap (group? lowercase)⟩

/-- A text denotes what its clauses do. -/
theorem parse_eq_ofClauses (lowercase : Bool) (text : String) :
    parse lowercase text = ofClauses lowercase (clauses text.toList) := by
  have hrun := foldlM_clauses lowercase [] (clauses text.toList)
  rw [within_nil, List.append_nil] at hrun
  rw [parse_eq_map, lexemes_concat_bar, Reading.start, hrun, ofClauses]
  cases (clauses text.toList).findSome? fault? with
  | some error => rfl
  | none =>
      show Except.ok (Query.mk (List.reverse _)) = _
      rw [within_nil, List.reverse_reverse]

/-- A bar ends a clause. -/
theorem clauses_append_bar (first second : List Char) :
    clauses (first ++ '|' :: second) = clauses first ++ clauses second := by
  rw [clauses, piecesBetween_append_mark (by simp), List.map_append, clauses, clauses]

/-- A text without bars is one clause. -/
theorem clauses_of_no_bar {chars : List Char} (hbar : '|' ∉ chars) :
    clauses chars = [blankSeparated chars] := by
  have hclear : ∀ c ∈ chars, decide (c = '|') = false := by
    intro c hc
    apply decide_eq_false
    rintro rfl
    exact hbar hc
  rw [clauses, piecesBetween_of_no_mark hclear, List.map_singleton]

/-- A non-empty sequence without blanks is one word. -/
theorem blankSeparated_of_no_blank {chars : List Char} (hfull : chars ≠ [])
    (hclear : ∀ c ∈ chars, isBlank c = false) : blankSeparated chars = [chars] := by
  rw [blankSeparated, piecesBetween_of_no_mark hclear]
  apply List.filter_eq_self.mpr
  simpa using hfull

/-! ## Clauses without a fault -/

theorem fault?_eq_none_iff {words : List (List Char)} :
    fault? words = none ↔
      (∀ word ∈ words, touchesAnd (remainder word) = false) ∧
        words.getLast?.any isBare = false := by
  rw [fault?]
  cases hfind : (words.map remainder).find? touchesAnd with
  | some term =>
      obtain ⟨word, hmem, rfl⟩ := List.mem_map.mp (List.mem_of_find?_eq_some hfind)
      simp only [reduceCtorEq, false_iff]
      intro hsound
      exact absurd (List.find?_some hfind) (by simp [hsound.1 word hmem])
  | none =>
      have hnone : ∀ word ∈ words, touchesAnd (remainder word) = false := by
        simpa using hfind
      cases hlast : words.getLast?.any isBare with
      | true => simp
      | false => simpa using hnone

/-- Clauses none of which is at fault denote the groups of those with words. -/
theorem ofClauses_eq_ok_iff {lowercase : Bool} {clauses : List (List (List Char))}
    {query : Query} :
    ofClauses lowercase clauses = .ok query ↔
      (∀ words ∈ clauses, fault? words = none) ∧
        query = ⟨clauses.filterMap (group? lowercase)⟩ := by
  rw [ofClauses, ← List.findSome?_eq_none_iff]
  cases clauses.findSome? fault? with
  | some error => simp
  | none => simp [eq_comm]

/-- The groups of a query or those of another. -/
def either (first second : Query) : Query :=
  ⟨first.groups ++ second.groups⟩

/-- Clauses after clauses: the first error, or all groups. -/
theorem ofClauses_append (lowercase : Bool) (first second : List (List (List Char))) :
    ofClauses lowercase (first ++ second) = (do
      let before ← ofClauses lowercase first
      let after ← ofClauses lowercase second
      return before.either after) := by
  rw [ofClauses, List.findSome?_append, List.filterMap_append]
  simp only [ofClauses]
  cases first.findSome? fault? with
  | some error => rfl
  | none =>
      cases second.findSome? fault? with
      | some error => rfl
      | none => rfl

/-- A bar between two texts: the error of the first that has one, or the groups of both. -/
theorem parse_append_bar (lowercase : Bool) (first second : String) :
    parse lowercase (first ++ "|" ++ second) = (do
      let before ← parse lowercase first
      let after ← parse lowercase second
      return before.either after) := by
  have hchars : (first ++ "|" ++ second).toList = first.toList ++ '|' :: second.toList := by
    simp
  simp only [parse_eq_ofClauses, hchars, clauses_append_bar, ofClauses_append]

/-! ## Words after words -/

/-- Without words at its end that wait for a term, a clause passes nothing on. -/
theorem waiting_append {first : List (List Char)} (hlast : first.getLast?.any isBare = false)
    (second : List (List Char)) : waiting (first ++ second) = waiting second := by
  induction second using List.reverseRecOn with
  | nil =>
      rw [List.append_nil]
      rcases List.eq_nil_or_concat' first with rfl | ⟨before, word, rfl⟩
      · rfl
      · have hterm : isBare word = false := by simpa using hlast
        rw [waiting_concat, hterm]
        rfl
  | append_singleton before word ih =>
      rw [← List.append_assoc, waiting_concat, waiting_concat, ih]

/-- The atoms of a clause are followed by those of the words after it. -/
theorem clauseAtoms_append (lowercase : Bool) {first : List (List Char)}
    (hlast : first.getLast?.any isBare = false) (second : List (List Char)) :
    clauseAtoms lowercase (first ++ second) =
      clauseAtoms lowercase first ++ clauseAtoms lowercase second := by
  induction second using List.reverseRecOn with
  | nil => simp [clauseAtoms]
  | append_singleton before word ih =>
      have hatom : atom? lowercase (first ++ before) word = atom? lowercase before word := by
        rw [atom?, waiting_append hlast, atom?]
      rw [← List.append_assoc, clauseAtoms_concat, clauseAtoms_concat, ih, hatom,
        List.append_assoc]

/-- After words without a fault, the fault is that of the words that follow. -/
theorem fault?_append {first : List (List Char)} (hfirst : fault? first = none)
    (second : List (List Char)) (hsecond : fault? second = none) :
    fault? (first ++ second) = none := by
  obtain ⟨hand, hlast⟩ := fault?_eq_none_iff.mp hfirst
  obtain ⟨hand', hlast'⟩ := fault?_eq_none_iff.mp hsecond
  rw [fault?_eq_none_iff, List.forall_mem_append]
  refine ⟨⟨hand, hand'⟩, ?_⟩
  rcases List.eq_nil_or_concat' second with rfl | ⟨before, word, rfl⟩
  · rw [List.append_nil]
    exact hlast
  · simpa using hlast'

/-- The atoms of a group and those of another. -/
def Group.both (first second : Group) : Group :=
  ⟨first.atoms ++ second.atoms⟩

/-- A text without bars that denotes a query with groups denotes one group. -/
theorem exists_group_of_no_bar {lowercase : Bool} {text : String} {query : Query}
    (hbar : '|' ∉ text.toList) (hparse : parse lowercase text = .ok query)
    (hfull : query.isEmpty = false) :
    fault? (blankSeparated text.toList) = none ∧ blankSeparated text.toList ≠ [] ∧
      query = ⟨[⟨clauseAtoms lowercase (blankSeparated text.toList)⟩]⟩ := by
  rw [parse_eq_ofClauses, clauses_of_no_bar hbar, ofClauses_eq_ok_iff] at hparse
  obtain ⟨hfault, rfl⟩ := hparse
  have hwords : blankSeparated text.toList ≠ [] := by
    intro hnone
    rw [hnone] at hfull
    cases hfull
  refine ⟨hfault _ (List.mem_singleton.mpr rfl), hwords, ?_⟩
  simp [group?, hwords]

/-- A blank between two texts of one group each: one group with the atoms of both. -/
theorem parse_append_space {lowercase : Bool} {first second : String} {before after : Query}
    (hbar : '|' ∉ first.toList) (hbar' : '|' ∉ second.toList)
    (hfirst : parse lowercase first = .ok before) (hsecond : parse lowercase second = .ok after)
    (hfull : before.isEmpty = false) (hfull' : after.isEmpty = false) :
    ∃ one other : Group, before = ⟨[one]⟩ ∧ after = ⟨[other]⟩ ∧
      parse lowercase (first ++ " " ++ second) = .ok ⟨[one.both other]⟩ := by
  obtain ⟨hfault, hwords, hbefore⟩ := exists_group_of_no_bar hbar hfirst hfull
  obtain ⟨hfault', hwords', hafter⟩ := exists_group_of_no_bar hbar' hsecond hfull'
  refine ⟨_, _, hbefore, hafter, ?_⟩
  have hchars : (first ++ " " ++ second).toList = first.toList ++ ' ' :: second.toList := by
    simp
  have hnone : '|' ∉ first.toList ++ ' ' :: second.toList := by
    simp [hbar, hbar']
  obtain ⟨-, hlast⟩ := fault?_eq_none_iff.mp hfault
  rw [parse_eq_ofClauses, hchars, clauses_of_no_bar hnone, ofClauses_eq_ok_iff,
    blankSeparated_append_blank isBlank_space, List.forall_mem_singleton]
  refine ⟨fault?_append hfault _ hfault', ?_⟩
  simp [group?, hwords, Group.both, clauseAtoms_append lowercase hlast]

/-! ## Single words -/

/-- The atom that asks for the opposite. -/
def Atom.opposite (atom : Atom) : Atom :=
  { atom with negated := !atom.negated }

/-- What a clause of one word denotes. -/
theorem ofClauses_word (lowercase : Bool) (word : List Char) :
    ofClauses lowercase [[word]] =
      if touchesAnd (remainder word) then .error (.danglingOperator (.ofList (remainder word)))
      else
        match atom? lowercase [] word with
        | some atom => .ok ⟨[⟨[atom]⟩]⟩
        | none => .error .danglingNegation := by
  cases htouches : touchesAnd (remainder word) with
  | true => simp [ofClauses, fault?, htouches]
  | false =>
      cases hbare : isBare word with
      | true => simp [ofClauses, fault?, htouches, hbare, atom?]
      | false =>
          simp [ofClauses, fault?, htouches, hbare, atom?, group?, clauseAtoms]

/-- One negation more turns the atom of a word around. -/
theorem atom?_cons_negation (lowercase : Bool) (word : List Char) :
    atom? lowercase [] ('!' :: word) = (atom? lowercase [] word).map Atom.opposite := by
  have hbare : isBare ('!' :: word) = isBare word := by simp [isBare, remainder]
  rw [atom?, atom?, hbare]
  split
  · rfl
  · have hodd : decide ((((waiting []).map negations).sum + negations ('!' :: word)) % 2 = 1) =
        !decide ((((waiting []).map negations).sum + negations word) % 2 = 1) := by
      have hcount : negations ('!' :: word) = negations word + 1 := by simp [negations]
      rw [hcount, ← decide_not, decide_eq_decide]
      omega
    rw [Option.map_some, hodd]
    simp [Atom.opposite, remainder]

/-- A single word that denotes a query denotes one atom, and with one more negation in
front it denotes the opposite. -/
theorem parse_negated {lowercase : Bool} {word : String} {query : Query}
    (hfull : word ≠ "") (hblank : ∀ c ∈ word.toList, isBlank c = false)
    (hbar : '|' ∉ word.toList) (hparse : parse lowercase word = .ok query) :
    ∃ atom : Atom, query = ⟨[⟨[atom]⟩]⟩ ∧
      parse lowercase ("!" ++ word) = .ok ⟨[⟨[atom.opposite]⟩]⟩ := by
  have hword : clauses word.toList = [[word.toList]] := by
    rw [clauses_of_no_bar hbar, blankSeparated_of_no_blank (by simpa using hfull) hblank]
  have hnegated : clauses ("!" ++ word).toList = [['!' :: word.toList]] := by
    have hchars : ("!" ++ word).toList = '!' :: word.toList := by simp
    rw [hchars, clauses_of_no_bar (by simpa using hbar), blankSeparated_of_no_blank (by simp)]
    rw [List.forall_mem_cons]
    exact ⟨by cbv, hblank⟩
  rw [parse_eq_ofClauses, hword, ofClauses_word] at hparse
  rw [parse_eq_ofClauses, hnegated, ofClauses_word, atom?_cons_negation]
  have hremainder : remainder ('!' :: word.toList) = remainder word.toList := by
    simp [remainder]
  rw [hremainder]
  split at hparse
  · cases hparse
  · next htouches =>
      rw [if_neg htouches]
      cases hatom : atom? lowercase [] word.toList with
      | none =>
          rw [hatom] at hparse
          cases hparse
      | some atom =>
          rw [hatom] at hparse
          cases hparse
          exact ⟨atom, rfl, rfl⟩

end BooleanRetrieval.Query
