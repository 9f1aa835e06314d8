/-
# The case of a query

To read a query in lower case, each term is put in lower case by itself; if the text is put in
lower case before, each term is so in its context.  That comes to the same, because terms lie
between bounds of casing: bars, blanks and negations.  The clauses, the words, their negations
and the faults stay where they are, though a term may have more characters afterwards, and a
term in lower case is its own lower case.
-/

import BooleanRetrieval.Proofs.Query.Rendering
import BooleanRetrieval.Proofs.Text.Context

namespace BooleanRetrieval.Query

open Text

theorem isBound_of_mem_signs {sign : Char} (hsign : sign ∈ signs) : IsBound sign := by
  have hbounds : signs.all fun c => !isCased c && !isCaseIgnorable c := by decide +kernel
  have hbound := List.all_eq_true.mp hbounds sign hsign
  rw [Bool.and_eq_true, Bool.not_eq_true', Bool.not_eq_true'] at hbound
  exact { isMark_of_mem_signs hsign with
    not_cased := hbound.1
    not_ignorable := hbound.2 }

theorem isBound_bar : IsBound '|' :=
  isBound_of_mem_signs (by decide)

theorem isBound_negation : IsBound '!' :=
  isBound_of_mem_signs (by decide)

theorem isBound_and : IsBound '&' :=
  isBound_of_mem_signs (by decide)

/-! ## Words -/

/-- A sequence of characters in lower case. -/
def lowered (chars : List Char) : List Char :=
  lowerAfter [] chars

/-- Negations stay, and what they negate is by itself. -/
theorem lowered_cons_negation (rest : List Char) : lowered ('!' :: rest) = '!' :: lowered rest :=
  isBound_negation.lowerAfter_cut [] [] rest

theorem head?_lowered_ne_negation {c : Char} (hc : c ≠ '!') (rest : List Char) :
    (lowered (c :: rest)).head? ≠ some '!' := by
  rw [lowered, ne_eq, isBound_negation.head?_lowerAfter]
  simpa using hc

@[simp] theorem remainder_lowered (word : List Char) :
    remainder (lowered word) = lowered (remainder word) := by
  induction word with
  | nil => rfl
  | cons c rest ih =>
      by_cases hc : c = '!'
      · subst hc
        rw [lowered_cons_negation, remainder, List.dropWhile_cons_of_pos (by simp), ← remainder,
          ih]
        rfl
      · rw [remainder_of_no_negation (head?_lowered_ne_negation hc rest),
          remainder_of_no_negation (by simpa using hc)]

@[simp] theorem negations_lowered (word : List Char) :
    negations (lowered word) = negations word := by
  induction word with
  | nil => rfl
  | cons c rest ih =>
      by_cases hc : c = '!'
      · subst hc
        simpa [lowered_cons_negation, negations] using ih
      · rw [negations_of_no_negation (head?_lowered_ne_negation hc rest),
          negations_of_no_negation (by simpa using hc)]

@[simp] theorem isBare_lowered (word : List Char) : isBare (lowered word) = isBare word := by
  rw [isBare, isBare, remainder_lowered, Bool.eq_iff_iff, List.isEmpty_iff, List.isEmpty_iff,
    lowered, lowerAfter_eq_nil]

@[simp] theorem touchesAnd_lowered (term : List Char) :
    touchesAnd (lowered term) = touchesAnd term := by
  simp only [touchesAnd, lowered, isBound_and.head?_lowerAfter, isBound_and.getLast?_lowerAfter]

/-! ## Clauses -/

/-- The words that wait stay the same words. -/
theorem waiting_lowered (before : List (List Char)) :
    waiting (before.map lowered) = (waiting before).map lowered := by
  induction before using List.reverseRecOn with
  | nil => rfl
  | append_singleton earlier word ih =>
      rw [List.map_append, List.map_singleton, waiting_concat, waiting_concat, isBare_lowered]
      split
      · rw [ih, List.map_append, List.map_singleton]
      · rfl

/-- A term is put in lower case once, however often it is asked for. -/
theorem atom?_lowered (before : List (List Char)) (word : List Char) :
    atom? true (before.map lowered) (lowered word) = atom? true before word := by
  have hterm : lower (.ofList (lowered (remainder word))) = lower (.ofList (remainder word)) := by
    have honce : String.ofList (lowered (remainder word)) = lower (.ofList (remainder word)) := by
      rw [lower, String.toList_ofList, lowered]
    rw [honce, lower_lower]
  simp [atom?, waiting_lowered, hterm, Function.comp_def]

theorem clauseAtoms_lowered (words : List (List Char)) :
    clauseAtoms true (words.map lowered) = clauseAtoms true words := by
  induction words using List.reverseRecOn with
  | nil => rfl
  | append_singleton before word ih =>
      rw [List.map_append, List.map_singleton, clauseAtoms_concat, clauseAtoms_concat, ih,
        atom?_lowered]

theorem group?_lowered (words : List (List Char)) :
    group? true (words.map lowered) = group? true words := by
  rw [group?, group?, clauseAtoms_lowered, List.isEmpty_map]

/-- A clause keeps its fault; only the term at fault is in lower case. -/
theorem kind_fault?_lowered (words : List (List Char)) :
    (fault? (words.map lowered)).map Error.kind = (fault? words).map Error.kind := by
  have hfind : ((words.map lowered).map remainder).find? touchesAnd =
      ((words.map remainder).find? touchesAnd).map lowered := by
    simp only [List.map_map, List.find?_map, Function.comp_def, remainder_lowered,
      touchesAnd_lowered, Option.map_map]
  have hlast : (words.map lowered).getLast?.any isBare = words.getLast?.any isBare := by
    simp [List.getLast?_map, Option.any_map]
  rw [fault?, fault?, hfind, hlast]
  cases (words.map remainder).find? touchesAnd with
  | some term => rfl
  | none => rfl

/-- The first fault stays the first. -/
theorem kind_findSome?_lowered (clauses : List (List (List Char))) :
    ((clauses.map (List.map lowered)).findSome? fault?).map Error.kind =
      (clauses.findSome? fault?).map Error.kind := by
  induction clauses with
  | nil => rfl
  | cons words rest ih =>
      have hwords := kind_fault?_lowered words
      rw [List.map_cons, List.findSome?_cons, List.findSome?_cons]
      cases hfault : fault? words with
      | some error =>
          rw [hfault] at hwords
          obtain ⟨other, hother, hkind⟩ := Option.map_eq_some_iff.mp hwords
          simp [hother, hkind]
      | none =>
          have hnone : fault? (words.map lowered) = none := by simpa [hfault] using hwords
          simpa [hnone] using ih

/-- The clauses of the lower case of a text are those of the text in lower case. -/
theorem clauses_lowered (chars : List Char) :
    clauses (lowered chars) = (clauses chars).map (List.map lowered) := by
  have hbounds : ∀ d : Char, decide (d = '|') = true → IsBound d := by
    intro d hd
    rw [of_decide_eq_true hd]
    exact isBound_bar
  rw [clauses, lowered, piecesBetween_lowerAfter hbounds, clauses, List.map_map, List.map_map]
  exact List.map_congr_left fun piece _ => blankSeparated_lowerAfter piece

/-! ## Queries -/

/-- A text whose terms are put in lower case denotes what its lower case does: the same query,
or an error of the same kind. -/
theorem parse_lower (text : String) :
    (parse true (lower text)).mapError Error.kind = (parse true text).mapError Error.kind := by
  have hclauses : clauses (lower text).toList =
      (clauses text.toList).map (List.map lowered) := by
    rw [toList_lower]
    exact clauses_lowered text.toList
  have hkind := kind_findSome?_lowered (clauses text.toList)
  have hgroups : ((clauses text.toList).map (List.map lowered)).filterMap (group? true) =
      (clauses text.toList).filterMap (group? true) := by
    rw [List.filterMap_map]
    exact List.filterMap_congr fun words _ => group?_lowered words
  rw [parse_eq_ofClauses, parse_eq_ofClauses, hclauses, ofClauses, ofClauses, hgroups]
  cases hfault : (clauses text.toList).findSome? fault? with
  | some error =>
      rw [hfault] at hkind
      obtain ⟨other, hother, hkind⟩ := Option.map_eq_some_iff.mp hkind
      rw [hother]
      exact congrArg Except.error hkind
  | none =>
      rw [hfault] at hkind
      rw [Option.map_eq_none_iff.mp hkind]

/-- A sigma before a bar ends its word in the whole text as well. -/
example : parse true (lower "ΟΔΟΣ|!ΣΑ") = parse true "ΟΔΟΣ|!ΣΑ" := by decide +kernel

end BooleanRetrieval.Query
