/-
# The grammar of queries

A query is made of clauses between bars, and a clause of words.  What is left of a
word after its leading negations is its term.  A clause is at fault if one of its
terms starts or ends with the sign for "and", or else if its last word has no term; the
first clause at fault decides the error.  Without a fault, each clause with words is a
group, and each term of it an atom, negated by an odd number of negations: its own and
those of the words without a term right before it.  Reading lexeme by lexeme comes to
the same as this reading of whole clauses.
-/

import BooleanRetrieval.Proofs.Text.Split
import BooleanRetrieval.Query.Parser
import Mathlib

namespace BooleanRetrieval.Query

open Text

/-! ## Clauses -/

/-- The words of a text, clause by clause. -/
def clauses (chars : List Char) : List (List (List Char)) :=
  (piecesBetween (· = '|') chars).map blankSeparated

/-- A word without its leading negations. -/
def remainder (word : List Char) : List Char :=
  word.dropWhile (· = '!')

/-- The number of leading negations of a word. -/
def negations (word : List Char) : Nat :=
  (word.takeWhile (· = '!')).length

/-- Whether a word is made of negations only. -/
def isBare (word : List Char) : Bool :=
  (remainder word).isEmpty

/-- Whether a term starts or ends with the sign for "and". -/
def touchesAnd (term : List Char) : Bool :=
  term.head? = some '&' || term.getLast? = some '&'

/-- The error of a clause, if it is at fault. -/
def fault? (words : List (List Char)) : Option Error :=
  match (words.map remainder).find? touchesAnd with
  | some term => some (.danglingOperator (.ofList term))
  | none => if words.getLast?.any isBare then some .danglingNegation else none

/-- The words without a term at the end of a list of words. -/
def waiting (before : List (List Char)) : List (List Char) :=
  before.rtakeWhile isBare

/-- The atom of a word after the words before it, unless the word has no term. -/
def atom? (lowercase : Bool) (before : List (List Char)) (word : List Char) : Option Atom :=
  if isBare word then none
  else
    let term := String.ofList (remainder word)
    some
      { term := if lowercase then lower term else term
        negated := (((waiting before).map negations).sum + negations word) % 2 = 1 }

/-- The atoms of a clause: each word is taken with the words before it. -/
def clauseAtoms (lowercase : Bool) (words : List (List Char)) : List Atom :=
  (words.inits.zip words).filterMap fun (before, word) => atom? lowercase before word

/-- The group of a clause, unless the clause has no words. -/
def group? (lowercase : Bool) (words : List (List Char)) : Option Group :=
  if words.isEmpty then none else some ⟨clauseAtoms lowercase words⟩

/-! ## Lexemes -/

/-- A word that the scan is in the middle of is the only word so far. -/
theorem ofReversed_eq {current : List Char} (hclear : ∀ c ∈ current, isBlank c = false) :
    Lexeme.ofReversed current = (blankSeparated current.reverse).map Lexeme.word := by
  have hclear' : ∀ c ∈ current.reverse, isBlank c = false := fun c hc =>
    hclear c (List.mem_reverse.mp hc)
  rw [blankSeparated, piecesBetween_of_no_mark hclear']
  cases current with
  | nil => rfl
  | cons c rest =>
      have hfull : (c :: rest).reverse.isEmpty = false := by simp
      rw [List.filter_cons_of_pos (by rw [hfull]; rfl)]
      rfl

/-- A blank ends a word. -/
theorem blankSeparated_append_blank {c : Char} (hc : isBlank c) (before after : List Char) :
    blankSeparated (before ++ c :: after) = blankSeparated before ++ blankSeparated after := by
  rw [blankSeparated, piecesBetween_append_mark hc, List.filter_append]
  rfl

/-- The lexemes of a clause and of the bar after it. -/
def closedClause (words : List (List Char)) : List Lexeme :=
  words.map Lexeme.word ++ [.bar]

/-- The scan knows the beginning of a word, so the first clause begins with it. -/
theorem lexemesAfter_concat_bar {current : List Char}
    (hclear : ∀ c ∈ current, isBlank c = false) {chars piece : List Char}
    {pieces : List (List Char)} (hpieces : piecesBetween (· = '|') chars = piece :: pieces) :
    lexemesAfter current chars ++ [.bar] =
      closedClause (blankSeparated (current.reverse ++ piece)) ++
        (pieces.map blankSeparated).flatMap closedClause := by
  induction chars generalizing current piece pieces with
  | nil =>
      obtain ⟨rfl, rfl⟩ : [] = piece ∧ [] = pieces := by simpa using hpieces
      rw [lexemesAfter, ofReversed_eq hclear, closedClause]
      simp
  | cons c rest ih =>
      obtain ⟨next, others, hrest⟩ :=
        List.exists_cons_of_ne_nil (piecesBetween_ne_nil (· = '|') rest)
      have hempty : ∀ c' ∈ ([] : List Char), isBlank c' = false := by simp
      rw [piecesBetween_cons, hrest] at hpieces
      by_cases hbar : c = '|'
      · obtain ⟨rfl, rfl⟩ : [] = piece ∧ next :: others = pieces := by
          simpa [consPiece, hbar] using hpieces
        have hnext := ih hempty hrest
        rw [lexemesAfter, if_pos hbar, ofReversed_eq hclear, List.append_assoc, List.cons_append,
          hnext]
        simp [closedClause]
      · obtain ⟨rfl, rfl⟩ : c :: next = piece ∧ others = pieces := by
          simpa [consPiece, hbar] using hpieces
        by_cases hblank : isBlank c
        · have hnext := ih hempty hrest
          rw [lexemesAfter, if_neg hbar, if_pos hblank, ofReversed_eq hclear, List.append_assoc,
            hnext, blankSeparated_append_blank hblank]
          simp [closedClause]
        · have hclear' : ∀ c' ∈ c :: current, isBlank c' = false := by
            simpa [hblank] using hclear
          rw [lexemesAfter, if_neg hbar, if_neg hblank, ih hclear' hrest]
          simp

/-- The lexemes of a text, with one more bar, are those of its clauses. -/
theorem lexemes_concat_bar (chars : List Char) :
    lexemes chars ++ [.bar] = (clauses chars).flatMap closedClause := by
  obtain ⟨piece, pieces, hpieces⟩ :=
    List.exists_cons_of_ne_nil (piecesBetween_ne_nil (· = '|') chars)
  rw [lexemes, lexemesAfter_concat_bar (by simp) hpieces, clauses, hpieces]
  rfl

/-! ## Words without a term -/

theorem waiting_concat (before : List (List Char)) (word : List Char) :
    waiting (before ++ [word]) = if isBare word then waiting before ++ [word] else [] :=
  List.rtakeWhile_concat isBare before word

theorem inits_zip_concat {α : Type} (before : List α) (last : α) :
    (before ++ [last]).inits.zip (before ++ [last]) =
      before.inits.zip before ++ [(before, last)] := by
  induction before with
  | nil => rfl
  | cons first rest ih =>
      rw [List.cons_append, List.inits_cons, List.zip_cons_cons, List.zip_map_left, ih,
        List.inits_cons, List.zip_cons_cons, List.zip_map_left, List.map_append]
      rfl

/-- The last word of a clause adds the last atom. -/
theorem clauseAtoms_concat (lowercase : Bool) (before : List (List Char)) (word : List Char) :
    clauseAtoms lowercase (before ++ [word]) =
      clauseAtoms lowercase before ++ (atom? lowercase before word).toList := by
  rw [clauseAtoms, inits_zip_concat, List.filterMap_append]
  cases hatom : atom? lowercase before word with
  | none => simp [clauseAtoms, hatom]
  | some atom => simp [clauseAtoms, hatom]

/-- A clause whose last word has a term has an atom. -/
theorem clauseAtoms_ne_nil (lowercase : Bool) {words : List (List Char)} (hwords : words ≠ [])
    (hlast : words.getLast?.any isBare = false) : clauseAtoms lowercase words ≠ [] := by
  obtain ⟨before, word, rfl⟩ := (List.eq_nil_or_concat' words).resolve_left hwords
  have hterm : isBare word = false := by simpa using hlast
  rw [clauseAtoms_concat, atom?, hterm]
  simp

/-! ## Reading a clause -/

/-- What has been read after some words of a clause that follows the given groups: the
atoms of the words, and the parity of the negations that wait, if there are any. -/
def Reading.within (lowercase : Bool) (groups : List Group) (before : List (List Char)) :
    Reading where
  groups := groups
  atoms := (clauseAtoms lowercase before).reverse
  pending :=
    if waiting before = [] then none
    else some (((waiting before).map negations).sum % 2 = 1)

theorem within_nil (lowercase : Bool) (groups : List Group) :
    Reading.within lowercase groups [] = ⟨groups, [], none⟩ := rfl

theorem getD_pending_within (lowercase : Bool) (groups : List Group)
    (before : List (List Char)) :
    (Reading.within lowercase groups before).pending.getD false =
      decide (((waiting before).map negations).sum % 2 = 1) := by
  rw [Reading.within]
  split
  · next hwaiting => simp [hwaiting]
  · rfl

theorem xor_odd (first second : Nat) : (decide (first % 2 = 1) ^^ decide (second % 2 = 1)) =
    decide ((first + second) % 2 = 1) := by
  rcases Nat.mod_two_eq_zero_or_one first with hfirst | hfirst
  · simp [Nat.add_mod, hfirst]
  · rcases Nat.mod_two_eq_zero_or_one second with hsecond | hsecond
    · simp [Nat.add_mod, hfirst, hsecond]
    · simp [Nat.add_mod, hfirst, hsecond]

/-- One word more, unless its term touches the sign for "and". -/
theorem readWord_within (lowercase : Bool) (groups : List Group) (before : List (List Char))
    (word : List Char) :
    (Reading.within lowercase groups before).readWord lowercase word =
      if touchesAnd (remainder word) then .error (.danglingOperator (.ofList (remainder word)))
      else .ok (.within lowercase groups (before ++ [word])) := by
  have hnegated : ((Reading.within lowercase groups before).pending.getD false ^^
      decide ((word.takeWhile (· = '!')).length % 2 = 1)) =
        decide ((((waiting before).map negations).sum + negations word) % 2 = 1) := by
    rw [getD_pending_within, ← negations]
    exact xor_odd _ _
  simp only [Reading.readWord, hnegated]
  show (if isBare word then _ else if touchesAnd (remainder word) then _ else _) = _
  by_cases hbare : isBare word
  · have hterm : touchesAnd (remainder word) = false := by
      rw [List.isEmpty_iff.mp hbare]
      rfl
    have hwaiting := waiting_concat before word
    rw [if_pos hbare] at hwaiting
    rw [if_pos hbare, hterm, if_neg Bool.false_ne_true]
    simp [Reading.within, clauseAtoms_concat, atom?, hbare, hwaiting]
  · have hwaiting := waiting_concat before word
    rw [if_neg hbare] at hwaiting
    rw [if_neg hbare]
    congr 2
    simp [Reading.within, clauseAtoms_concat, atom?, hbare, hwaiting, remainder]

/-- Words are read up to the first whose term touches the sign for "and". -/
theorem foldlM_readWord (lowercase : Bool) (groups : List Group) (before words : List (List Char)) :
    words.foldlM (Reading.readWord lowercase) (.within lowercase groups before) =
      match (words.map remainder).find? touchesAnd with
      | some term => .error (.danglingOperator (.ofList term))
      | none => .ok (.within lowercase groups (before ++ words)) := by
  induction words generalizing before with
  | nil =>
      rw [List.append_nil]
      rfl
  | cons word rest ih =>
      rw [List.foldlM_cons, readWord_within, List.map_cons, List.find?_cons]
      cases htouches : touchesAnd (remainder word) with
      | true => rfl
      | false =>
          have hrest := ih (before ++ [word])
          rw [← List.append_cons] at hrest
          exact hrest

/-- A clause can be closed unless its last word has no term. -/
theorem close_within (lowercase : Bool) (groups : List Group) (words : List (List Char)) :
    (Reading.within lowercase groups words).close =
      if words.getLast?.any isBare then .error .danglingNegation
      else .ok (.within lowercase ((group? lowercase words).toList ++ groups) []) := by
  rcases List.eq_nil_or_concat' words with rfl | ⟨before, word, rfl⟩
  · rfl
  · have hlast : (before ++ [word]).getLast?.any isBare = isBare word := by simp
    have hwaiting := waiting_concat before word
    cases hbare : isBare word with
    | true =>
        rw [hbare, if_pos rfl] at hwaiting
        rw [hlast, hbare]
        simp [Reading.close, Reading.within, hwaiting]
    | false =>
        rw [hbare, if_neg Bool.false_ne_true] at hwaiting
        rw [hbare] at hlast
        have hwords : before ++ [word] ≠ [] := by simp
        have hatoms := clauseAtoms_ne_nil lowercase hwords hlast
        have hreading : Reading.within lowercase groups (before ++ [word]) =
            ⟨groups, (clauseAtoms lowercase (before ++ [word])).reverse, none⟩ := by
          rw [Reading.within, hwaiting, if_pos rfl]
        rw [hreading, hlast]
        simp [Reading.close, hatoms, group?, within_nil]

/-- A whole clause is read without a fault, or gives its error. -/
theorem foldlM_closedClause (lowercase : Bool) (groups : List Group) (words : List (List Char)) :
    (closedClause words).foldlM (Reading.read lowercase) (.within lowercase groups []) =
      match fault? words with
      | some error => .error error
      | none => .ok (.within lowercase ((group? lowercase words).toList ++ groups) []) := by
  have hwords := foldlM_readWord lowercase groups [] words
  have hclose := close_within lowercase groups words
  rw [List.nil_append] at hwords
  have hread : (words.map Lexeme.word).foldlM (Reading.read lowercase)
      (.within lowercase groups []) =
        words.foldlM (Reading.readWord lowercase) (.within lowercase groups []) :=
    List.foldlM_map
  rw [closedClause, List.foldlM_append, hread, hwords, fault?]
  cases hfind : (words.map remainder).find? touchesAnd with
  | some term => rfl
  | none =>
      show ((Reading.within lowercase groups words).close >>= pure) = _
      rw [bind_pure, hclose]
      split
      · rfl
      · rfl

/-- Clauses are read up to the first at fault. -/
theorem foldlM_clauses (lowercase : Bool) (groups : List Group)
    (clauses : List (List (List Char))) :
    (clauses.flatMap closedClause).foldlM (Reading.read lowercase)
        (.within lowercase groups []) =
      match clauses.findSome? fault? with
      | some error => .error error
      | none =>
        .ok (.within lowercase ((clauses.filterMap (group? lowercase)).reverse ++ groups) []) := by
  induction clauses generalizing groups with
  | nil => rfl
  | cons words rest ih =>
      rw [List.flatMap_cons, List.foldlM_append, foldlM_closedClause, List.findSome?_cons]
      cases hfault : fault? words with
      | some error => rfl
      | none =>
          refine (ih _).trans ?_
          cases hgroup : group? lowercase words with
          | none => simp [hgroup]
          | some group => simp [hgroup]

/-- The end of a text closes its last group as a bar does. -/
theorem parse_eq_map (lowercase : Bool) (text : String) :
    parse lowercase text =
      ((lexemes text.toList ++ [Lexeme.bar]).foldlM (Reading.read lowercase) Reading.start).map
        fun reading : Reading => ⟨reading.groups.reverse⟩ := by
  rw [parse, List.foldlM_append]
  cases (lexemes text.toList).foldlM (Reading.read lowercase) .start with
  | error error => rfl
  | ok reading =>
      show (reading.close >>= fun closed => Except.ok (Query.mk closed.groups.reverse)) =
        (reading.close >>= pure).map _
      cases reading.close with
      | error error => rfl
      | ok closed => rfl

/-- The parser accepts the texts without a clause at fault, and then returns the groups
of the clauses with words; else it fails with the error of the first clause at fault. -/
theorem parse_eq_clauses (lowercase : Bool) (text : String) :
    parse lowercase text =
      match (clauses text.toList).findSome? fault? with
      | some error => .error error
      | none => .ok ⟨(clauses text.toList).filterMap (group? lowercase)⟩ := by
  have hrun := foldlM_clauses lowercase [] (clauses text.toList)
  rw [within_nil, List.append_nil] at hrun
  rw [parse_eq_map, lexemes_concat_bar, Reading.start, hrun]
  cases (clauses text.toList).findSome? fault? with
  | some error => rfl
  | none =>
      show Except.ok (Query.mk (List.reverse _)) = _
      rw [within_nil, List.reverse_reverse]

/-- Negations before a word and in words of their own add up. -/
example : parse false "a !! !b||! c" =
    .ok ⟨[⟨[⟨"a", false⟩, ⟨"b", true⟩]⟩, ⟨[⟨"c", true⟩]⟩]⟩ := by decide +kernel

end BooleanRetrieval.Query
