/-
# The last name of a path

Of the pieces between the slashes of a path, those that are empty or a single dot are no names.
So the last name is the piece behind which there is nothing but slashes, and single dots after
them.  Two dots are a name on the way, but at the end they lead to no name that a path could tell.
-/

import BooleanRetrieval.Path
import BooleanRetrieval.Proofs.Text.Split

namespace BooleanRetrieval.Path

open Text

/-- Whether a piece between slashes is a name. -/
def isName (piece : List Char) : Bool :=
  piece ≠ [] && piece ≠ ['.']

/-- What may follow the last name of a path: slashes, and single dots behind them. -/
inductive Trails : List Char → Prop
  | nil : Trails []
  | slash {rest : List Char} : Trails rest → Trails ('/' :: rest)
  | dot {rest : List Char} : Trails rest → Trails ('/' :: '.' :: rest)

/-- A name stands in a path, in front or behind a slash, and no other name comes after it. -/
structure StandsLast (path name : List Char) : Prop where
  no_slash : '/' ∉ name
  isName : isName name
  stands : ∃ before after, path = before ++ name ++ after ∧
    (∀ c ∈ before.getLast?, c = '/') ∧ Trails after

/-! ## Pieces between slashes -/

theorem pieces_of_no_slash {chars : List Char} (hclear : '/' ∉ chars) :
    piecesBetween (· = '/') chars = [chars] := by
  apply piecesBetween_of_no_mark
  intro c hc
  apply decide_eq_false
  rintro rfl
  exact hclear hc

/-- A text has no slash, or it is cut at its first one. -/
theorem no_slash_or_exists_cut (chars : List Char) :
    '/' ∉ chars ∨ ∃ before after, chars = before ++ '/' :: after ∧ '/' ∉ before := by
  rcases no_mark_or_exists_cut (fun c => decide (c = '/')) chars with
    hclear | ⟨before, mark, after, rfl, hmark, hbefore⟩
  · refine .inl fun hslash => ?_
    simpa using hclear _ hslash
  · obtain rfl : mark = '/' := of_decide_eq_true hmark
    refine .inr ⟨before, after, rfl, fun hslash => ?_⟩
    simpa using hbefore _ hslash

theorem pieces_append_slash (before after : List Char) :
    piecesBetween (· = '/') (before ++ '/' :: after) =
      piecesBetween (· = '/') before ++ piecesBetween (· = '/') after :=
  piecesBetween_append_mark (by simp) before after

/-- There are no names behind the last. -/
theorem Trails.pieces {after : List Char} (htrails : Trails after) :
    after = [] ∨ ∃ rest, after = '/' :: rest ∧
      (piecesBetween (· = '/') rest).filter isName = [] := by
  induction htrails with
  | nil => exact .inl rfl
  | @slash rest _ ih =>
      refine .inr ⟨rest, rfl, ?_⟩
      rcases ih with rfl | ⟨further, rfl, hfurther⟩
      · rfl
      · have hcut := pieces_append_slash [] further
        rw [List.nil_append] at hcut
        rw [hcut, List.filter_append, hfurther]
        rfl
  | @dot rest _ ih =>
      refine .inr ⟨'.' :: rest, rfl, ?_⟩
      rcases ih with rfl | ⟨further, rfl, hfurther⟩
      · rfl
      · have hcut := pieces_append_slash ['.'] further
        rw [List.singleton_append] at hcut
        rw [hcut, List.filter_append, hfurther]
        rfl

/-- Behind a slash, pieces of which none is a name are slashes and single dots. -/
theorem trails_of_no_name {chars : List Char}
    (hnone : (piecesBetween (· = '/') chars).filter isName = []) : Trails ('/' :: chars) := by
  have hplain {piece : List Char} (hpiece : isName piece = false) {after : List Char}
      (hafter : Trails after) : Trails ('/' :: (piece ++ after)) := by
    have hform : piece = [] ∨ piece = ['.'] := by
      simpa [isName, or_iff_not_imp_left] using hpiece
    rcases hform with rfl | rfl
    · exact .slash hafter
    · exact .dot hafter
  rcases no_slash_or_exists_cut chars with hclear | ⟨before, after, hchars, hbefore⟩
  · rw [pieces_of_no_slash hclear] at hnone
    have hpiece : isName chars = false := by simpa using hnone
    simpa using hplain hpiece .nil
  · have hshorter : after.length < chars.length := by
      simp only [hchars, List.length_append, List.length_cons]
      omega
    rw [hchars, pieces_append_slash, pieces_of_no_slash hbefore, List.filter_append,
      List.append_eq_nil_iff] at hnone
    have hpiece : isName before = false := by simpa using hnone.1
    rw [hchars]
    exact hplain hpiece (trails_of_no_name hnone.2)
termination_by chars.length

/-- A name with nothing behind it is the only one. -/
theorem filter_pieces_of_trails {name after : List Char} (hclear : '/' ∉ name)
    (hname : isName name) (htrails : Trails after) :
    (piecesBetween (· = '/') (name ++ after)).filter isName = [name] := by
  rcases htrails.pieces with rfl | ⟨rest, rfl, hrest⟩
  · rw [List.append_nil, pieces_of_no_slash hclear, List.filter_singleton, hname]
    rfl
  · rw [pieces_append_slash, pieces_of_no_slash hclear, List.filter_append, hrest,
      List.filter_singleton, hname]
    rfl

/-- The last piece that is a name stands last. -/
theorem getLast?_pieces_eq_some_iff {chars name : List Char} :
    ((piecesBetween (· = '/') chars).filter isName).getLast? = some name ↔
      StandsLast chars name := by
  constructor
  · intro hlast
    rcases no_slash_or_exists_cut chars with hclear | ⟨before, after, hchars, hbefore⟩
    · rw [pieces_of_no_slash hclear] at hlast
      obtain ⟨rfl, hname⟩ : name = chars ∧ isName name := by
        simpa using List.mem_of_getLast? hlast
      exact ⟨hclear, hname, [], [], by simp, by simp, .nil⟩
    · have hshorter : after.length < chars.length := by
        simp only [hchars, List.length_append, List.length_cons]
        omega
      rw [hchars, pieces_append_slash, pieces_of_no_slash hbefore, List.filter_append,
        List.getLast?_append] at hlast
      cases hfurther : ((piecesBetween (· = '/') after).filter isName).getLast? with
      | some last =>
          rw [hfurther] at hlast
          obtain rfl : last = name := Option.some.inj hlast
          obtain ⟨hclear, hname, early, late, rfl, hearly, hlate⟩ :=
            getLast?_pieces_eq_some_iff.mp hfurther
          refine ⟨hclear, hname, before ++ '/' :: early, late, by simp [hchars], ?_, hlate⟩
          rw [List.getLast?_append, List.getLast?_cons]
          cases hend : early.getLast? with
          | none => simp
          | some c => simpa [hend] using hearly
      | none =>
          rw [hfurther] at hlast
          obtain ⟨rfl, hname⟩ : name = before ∧ isName name := by
            simpa using List.mem_of_getLast? hlast
          have htrails := trails_of_no_name (List.getLast?_eq_none_iff.mp hfurther)
          exact ⟨hbefore, hname, [], '/' :: after, by simp [hchars], by simp, htrails⟩
  · rintro ⟨hclear, hname, before, after, rfl, hbefore, htrails⟩
    have honly := filter_pieces_of_trails hclear hname htrails
    rcases List.eq_nil_or_concat' before with rfl | ⟨early, c, rfl⟩
    · rw [List.nil_append, honly]
      rfl
    · obtain rfl : c = '/' := hbefore c (by simp)
      have hcut : early ++ ['/'] ++ name ++ after = early ++ '/' :: (name ++ after) := by simp
      rw [hcut, pieces_append_slash, List.filter_append, honly, List.getLast?_append]
      rfl
termination_by chars.length

/-- The last name of a path is the one that stands last, unless it is a step up. -/
theorem lastName?_eq_some_iff {text name : String} :
    (ofText text).lastName? = some name ↔
      StandsLast text.toList name.toList ∧ name ≠ ".." := by
  rw [← getLast?_pieces_eq_some_iff, lastName?, Option.filter_eq_some_iff, ofText,
    List.getLast?_map]
  have hnames : ((piecesBetween (· = '/') text.toList).filter
      fun piece => piece ≠ [] && piece ≠ ['.']) =
        (piecesBetween (· = '/') text.toList).filter isName := rfl
  rw [hnames, Option.map_eq_some_iff, decide_eq_true_eq]
  refine and_congr_left fun _ => ?_
  constructor
  · rintro ⟨piece, hpiece, rfl⟩
    rwa [String.toList_ofList]
  · intro hpiece
    exact ⟨_, hpiece, String.ofList_toList⟩

/-- Slashes and single dots at the end are passed over. -/
example : (ofText "a//b/.//").lastName? = some "b" ∧ (ofText "a/..").lastName? = none := by
  decide +kernel

end BooleanRetrieval.Path
