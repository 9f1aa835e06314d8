/-
# Laws of cutting text

Cutting at marks is undone by joining, as far as the pieces themselves hold no
mark; lines are such pieces.  A text that does not end in a blank survives
trimming.  A mark is found where it first occurs, wherever else it may occur later.
-/

import BooleanRetrieval.Text.Split
import Mathlib.Data.List.DropRight
import Mathlib.Data.List.Infix

namespace BooleanRetrieval.Text

variable {α : Type} {isMark : α → Bool}

/-! ## Pieces between marks -/

/-- The pieces are those of the standard library. -/
theorem piecesBetween_eq_splitOnP (isMark : α → Bool) (sequence : List α) :
    piecesBetween isMark sequence = sequence.splitOnP isMark := by
  induction sequence with
  | nil => rfl
  | cons x rest ih =>
      obtain ⟨piece, pieces, hpieces⟩ :=
        List.exists_cons_of_ne_nil (List.splitOnP_ne_nil isMark rest)
      rw [piecesBetween_cons, ih, List.splitOnP_cons_eq_if_modifyHead, hpieces]
      simp [consPiece]

/-- There is always a first piece. -/
theorem piecesBetween_ne_nil (isMark : α → Bool) (sequence : List α) :
    piecesBetween isMark sequence ≠ [] := by
  rw [piecesBetween_eq_splitOnP]
  exact List.splitOnP_ne_nil isMark sequence

/-- A sequence without marks is one piece. -/
theorem piecesBetween_of_no_mark {sequence : List α}
    (hclear : ∀ x ∈ sequence, isMark x = false) : piecesBetween isMark sequence = [sequence] := by
  rw [piecesBetween_eq_splitOnP]
  exact List.splitOnP_eq_singleton hclear

/-- Elements that are no marks go to the first piece of what follows. -/
theorem piecesBetween_append_of_no_mark {before after piece : List α} {pieces : List (List α)}
    (hclear : ∀ x ∈ before, isMark x = false)
    (hpieces : piecesBetween isMark after = piece :: pieces) :
    piecesBetween isMark (before ++ after) = (before ++ piece) :: pieces := by
  induction before with
  | nil => exact hpieces
  | cons x rest ih =>
      have hx : isMark x = false := hclear x List.mem_cons_self
      rw [List.cons_append, piecesBetween_cons,
        ih fun other hother => hclear other (List.mem_cons_of_mem _ hother)]
      simp [consPiece, hx]

/-- A mark cuts a sequence in two. -/
theorem piecesBetween_append_mark {mark : α} (hmark : isMark mark) (before after : List α) :
    piecesBetween isMark (before ++ mark :: after) =
      piecesBetween isMark before ++ piecesBetween isMark after := by
  simp only [piecesBetween_eq_splitOnP]
  exact List.splitOnP_append_cons before after hmark

/-- A sequence has no mark, or it is cut at its first one. -/
theorem no_mark_or_exists_cut (isMark : α → Bool) (sequence : List α) :
    (∀ x ∈ sequence, isMark x = false) ∨
      ∃ before mark after, sequence = before ++ mark :: after ∧ isMark mark ∧
        ∀ x ∈ before, isMark x = false := by
  cases hfind : sequence.find? isMark with
  | none => exact Or.inl (by simpa using hfind)
  | some mark =>
      obtain ⟨hmark, before, after, hsequence, hbefore⟩ :=
        List.find?_eq_some_iff_append.mp hfind
      exact Or.inr ⟨before, mark, after, hsequence, hmark, by simpa using hbefore⟩

/-- A sequence of one piece is this piece. -/
theorem eq_of_piecesBetween_eq_singleton {sequence piece : List α}
    (hpieces : piecesBetween isMark sequence = [piece]) : sequence = piece := by
  rcases no_mark_or_exists_cut isMark sequence with
    hclear | ⟨before, mark, after, rfl, hmark, -⟩
  · rw [piecesBetween_of_no_mark hclear] at hpieces
    exact List.singleton_inj.mp hpieces
  · rw [piecesBetween_append_mark hmark] at hpieces
    have hlength := congrArg List.length hpieces
    have hbefore := List.length_pos_of_ne_nil (piecesBetween_ne_nil isMark before)
    have hafter := List.length_pos_of_ne_nil (piecesBetween_ne_nil isMark after)
    simp only [List.length_append, List.length_singleton] at hlength
    omega

/-- A sequence of two pieces has one mark between them. -/
theorem eq_append_of_piecesBetween_eq_pair {sequence first second : List α}
    (hpieces : piecesBetween isMark sequence = [first, second]) :
    ∃ mark, isMark mark ∧ sequence = first ++ mark :: second := by
  rcases no_mark_or_exists_cut isMark sequence with
    hclear | ⟨before, mark, after, rfl, hmark, hbefore⟩
  · rw [piecesBetween_of_no_mark hclear] at hpieces
    cases hpieces
  · rw [piecesBetween_append_mark hmark, piecesBetween_of_no_mark hbefore] at hpieces
    obtain ⟨rfl, hafter⟩ := List.cons.inj hpieces
    exact ⟨mark, hmark, by rw [eq_of_piecesBetween_eq_singleton hafter]⟩

/-- Marks in front leave empty pieces. -/
theorem piecesBetween_append_of_marks {marks : List α} (hmarks : ∀ x ∈ marks, isMark x)
    (rest : List α) :
    piecesBetween isMark (marks ++ rest) =
      List.replicate marks.length [] ++ piecesBetween isMark rest := by
  induction marks with
  | nil => rfl
  | cons mark others ih =>
      obtain ⟨hmark, hothers⟩ := List.forall_mem_cons.mp hmarks
      have hcut := piecesBetween_append_mark hmark [] (others ++ rest)
      rw [ih hothers] at hcut
      exact hcut

/-- A piece holds no mark. -/
theorem isMark_eq_false_of_mem_piecesBetween {sequence piece : List α} {x : α}
    (hpiece : piece ∈ piecesBetween isMark sequence) (hx : x ∈ piece) : isMark x = false := by
  induction sequence generalizing piece with
  | nil =>
      obtain rfl : piece = [] := by simpa using hpiece
      simp at hx
  | cons c rest ih =>
      obtain ⟨first, others, hpieces⟩ :=
        List.exists_cons_of_ne_nil (piecesBetween_ne_nil isMark rest)
      rw [hpieces] at ih
      rw [piecesBetween_cons, hpieces, consPiece] at hpiece
      by_cases hc : isMark c
      · rw [if_pos hc, List.mem_cons] at hpiece
        rcases hpiece with rfl | hlater
        · simp at hx
        · exact ih hlater hx
      · rw [if_neg hc, List.mem_cons] at hpiece
        rcases hpiece with rfl | hlater
        · rcases List.mem_cons.mp hx with rfl | hfirst
          · simpa using hc
          · exact ih List.mem_cons_self hfirst
        · exact ih (List.mem_cons_of_mem _ hlater) hx

/-- A piece is made of elements of the sequence. -/
theorem mem_of_mem_piecesBetween {sequence piece : List α} {x : α}
    (hpiece : piece ∈ piecesBetween isMark sequence) (hx : x ∈ piece) : x ∈ sequence := by
  induction sequence generalizing piece with
  | nil =>
      obtain rfl : piece = [] := by simpa using hpiece
      exact hx
  | cons c rest ih =>
      obtain ⟨first, others, hpieces⟩ :=
        List.exists_cons_of_ne_nil (piecesBetween_ne_nil isMark rest)
      rw [hpieces] at ih
      rw [piecesBetween_cons, hpieces, consPiece] at hpiece
      split at hpiece
      · rcases List.mem_cons.mp hpiece with rfl | hlater
        · cases hx
        · exact List.mem_cons_of_mem _ (ih hlater hx)
      · rcases List.mem_cons.mp hpiece with rfl | hlater
        · rcases List.mem_cons.mp hx with rfl | hfirst
          · exact List.mem_cons_self
          · exact List.mem_cons_of_mem _ (ih List.mem_cons_self hfirst)
        · exact List.mem_cons_of_mem _ (ih (List.mem_cons_of_mem _ hlater) hx)

/-! ## Lines -/

/-- Lines that are all ended come back one by one. -/
theorem linesBy_flatMap_concat {ending : α} (hending : isMark ending) {lines : List (List α)}
    (hclear : ∀ line ∈ lines, ∀ x ∈ line, isMark x = false) :
    linesBy isMark (lines.flatMap (· ++ [ending])) = lines := by
  have hpieces : piecesBetween isMark (lines.flatMap (· ++ [ending])) = lines ++ [[]] := by
    induction lines with
    | nil => rfl
    | cons line rest ih =>
        rw [List.flatMap_cons, List.append_assoc, List.singleton_append,
          piecesBetween_append_mark hending,
          piecesBetween_of_no_mark (hclear line List.mem_cons_self),
          ih fun other hother => hclear other (List.mem_cons_of_mem _ hother)]
        rfl
  simp [linesBy, hpieces]

/-- Lines of text that are all ended come back one by one. -/
theorem linesBy_join {lines : List String} (hclear : ∀ line ∈ lines, '\n' ∉ line.toList) :
    linesBy (· = '\n') (String.join (lines.map (· ++ "\n"))).toList =
      lines.map String.toList := by
  have hchars : (String.join (lines.map (· ++ "\n"))).toList =
      (lines.map String.toList).flatMap (· ++ ['\n']) := by
    rw [String.toList_join, List.flatMap_map, List.flatMap_map]
    simp
  rw [hchars, linesBy_flatMap_concat (by rfl)]
  intro chars hchars c hc
  obtain ⟨line, hline, rfl⟩ := List.mem_map.mp hchars
  rw [decide_eq_false_iff_not]
  rintro rfl
  exact hclear line hline hc

/-- A line holds no line end. -/
theorem isMark_eq_false_of_mem_linesBy {sequence line : List α} {x : α}
    (hline : line ∈ linesBy isMark sequence) (hx : x ∈ line) : isMark x = false := by
  have hpiece : line ∈ piecesBetween isMark sequence := by
    simp only [linesBy] at hline
    split at hline
    · exact List.mem_of_mem_dropLast hline
    · exact hline
  exact isMark_eq_false_of_mem_piecesBetween hpiece hx

/-! ## Blanks -/

theorem isBlank_space : isBlank ' ' = true := by cbv

theorem isBlank_newline : isBlank '\n' = true := by cbv

/-- No run of blanks reaches into the digits. -/
theorem isBlank_eq_false_of_isDigit {c : Char} (hdigit : c.isDigit) : isBlank c = false := by
  have hruns : ∀ run ∈ blanks.runs.toList, run.last < '0'.toNat ∨ '9'.toNat < run.first := by
    decide
  obtain ⟨hlow, hhigh⟩ := Char.isDigit_iff_toNat.mp hdigit
  rw [isBlank, CharSet.contains, Option.isSome_eq_false_iff, Option.isNone_iff_eq_none,
    Option.eq_none_iff_forall_ne_some]
  intro run hfound
  have hbounds := RangeMap.bounds_of_find? hfound
  rcases hruns run (Array.mem_toList_iff.mpr (RangeMap.mem_of_find? hfound)) with hbelow | habove
  · omega
  · omega

/-! ## Trimming -/

/-- Trimming the end is that of the standard library. -/
theorem dropBlankEnd_eq_rdropWhile (chars : List Char) :
    dropBlankEnd chars = chars.rdropWhile isBlank := rfl

/-- A text that ends in another character than a blank is left alone. -/
theorem dropBlankEnd_concat {c : Char} (hc : isBlank c = false) (chars : List Char) :
    dropBlankEnd (chars ++ [c]) = chars ++ [c] := by
  rw [dropBlankEnd_eq_rdropWhile]
  exact List.rdropWhile_concat_neg isBlank chars c (by simp [hc])

/-- Trimming takes characters away and adds none. -/
theorem mem_of_mem_dropBlankEnd {chars : List Char} {c : Char} (hc : c ∈ dropBlankEnd chars) :
    c ∈ chars := by
  rw [dropBlankEnd_eq_rdropWhile] at hc
  exact (List.rdropWhile_prefix isBlank chars).subset hc

/-- A text is trimmed to nothing if it is blank. -/
theorem isEmpty_dropBlankEnd (chars : List Char) :
    (dropBlankEnd chars).isEmpty = chars.all isBlank := by
  rw [Bool.eq_iff_iff, List.isEmpty_iff, List.all_eq_true, dropBlankEnd_eq_rdropWhile,
    List.rdropWhile_eq_nil_iff]

/-- More blanks at the end do not matter. -/
theorem dropBlankEnd_append {chars blanks : List Char} (hblanks : blanks.all isBlank) :
    dropBlankEnd (chars ++ blanks) = dropBlankEnd chars := by
  rw [dropBlankEnd, List.reverse_append, List.dropWhile_append_of_pos]
  · rfl
  · simpa using hblanks

/-! ## The first occurrence of a mark -/

/-- What is found is a cut at the mark, which does not occur in the part before. -/
theorem eq_append_of_splitAtFirst? {mark chars before after : List Char}
    (hsplit : splitAtFirst? mark chars = some (before, after)) :
    chars = before ++ mark ++ after := by
  fun_induction splitAtFirst? mark chars generalizing before with
  | case1 hempty =>
      obtain ⟨rfl, rfl⟩ : [] = before ∧ [] = after := by simpa using hsplit
      simpa using hempty
  | case2 => simp at hsplit
  | case3 c rest hstart =>
      obtain ⟨rfl, rfl⟩ : [] = before ∧ (c :: rest).drop mark.length = after := by
        simpa using hsplit
      simpa using (List.prefix_iff_eq_append.mp (List.isPrefixOf_iff_prefix.mp hstart)).symm
  | case4 c rest hstart ih =>
      simp only [Option.map_eq_some_iff, Prod.mk.injEq, Prod.exists] at hsplit
      obtain ⟨earlier, later, hrest, rfl, rfl⟩ := hsplit
      rw [List.cons_append, List.cons_append, ← ih hrest]

/-- The part before the first occurrence, with all of the mark but its last
character, does not hold the mark. -/
theorem not_infix_of_splitAtFirst? {mark chars before after : List Char} (hmark : mark ≠ [])
    (hsplit : splitAtFirst? mark chars = some (before, after)) :
    ¬ mark <:+: before ++ mark.dropLast := by
  fun_induction splitAtFirst? mark chars generalizing before with
  | case1 hempty => exact absurd (List.isEmpty_iff.mp hempty) hmark
  | case2 => simp at hsplit
  | case3 c rest hstart =>
      obtain ⟨rfl, -⟩ : [] = before ∧ (c :: rest).drop mark.length = after := by
        simpa using hsplit
      intro hinside
      have hlength := hinside.length_le
      have hpositive := List.length_pos_of_ne_nil hmark
      simp only [List.nil_append, List.length_dropLast] at hlength
      omega
  | case4 c rest hstart ih =>
      simp only [Option.map_eq_some_iff, Prod.mk.injEq, Prod.exists] at hsplit
      obtain ⟨earlier, later, hrest, rfl, rfl⟩ := hsplit
      rw [List.cons_append, List.infix_cons_iff]
      intro hinside
      rcases hinside with hhere | hlater
      · refine hstart (List.isPrefixOf_iff_prefix.mpr (hhere.trans ?_))
        rw [eq_append_of_splitAtFirst? hrest, List.append_assoc, List.cons_prefix_cons]
        refine ⟨rfl, (List.prefix_append_right_inj earlier).mpr ?_⟩
        exact (List.dropLast_prefix mark).trans (List.prefix_append mark later)
      · exact ih hrest hlater

/-- A mark is found where it stands, unless it occurs earlier. -/
theorem splitAtFirst?_append {mark before : List Char}
    (hfirst : ¬ mark <:+: before ++ mark.dropLast) (hmark : mark ≠ []) (after : List Char) :
    splitAtFirst? mark (before ++ mark ++ after) = some (before, after) := by
  induction before with
  | nil =>
      obtain ⟨c, rest, rfl⟩ := List.exists_cons_of_ne_nil hmark
      simp [splitAtFirst?]
  | cons c rest ih =>
      have hrest : ¬ mark <:+: rest ++ mark.dropLast := fun hinside =>
        hfirst (hinside.trans (List.suffix_cons c _).isInfix)
      have hhere : ¬ mark <+: c :: (rest ++ mark ++ after) := by
        intro hstart
        have hshort : c :: rest ++ mark.dropLast <+: c :: (rest ++ mark ++ after) := by
          rw [List.cons_append, List.append_assoc, List.cons_prefix_cons]
          refine ⟨rfl, (List.prefix_append_right_inj rest).mpr ?_⟩
          exact (List.dropLast_prefix mark).trans (List.prefix_append mark after)
        have hlength : mark.length ≤ (c :: rest ++ mark.dropLast).length := by
          simp only [List.cons_append, List.length_cons, List.length_append, List.length_dropLast]
          omega
        exact hfirst (List.prefix_of_prefix_length_le hstart hshort hlength).isInfix
      simp only [List.cons_append, splitAtFirst?, List.isPrefixOf_iff_prefix, if_neg hhere,
        ih hrest, Option.map_some]

/-- A text cut at a mark, where the mark stands first. -/
structure CutAtFirst (mark chars before after : List Char) : Prop where
  eq_append : chars = before ++ mark ++ after
  first {earlier later : List Char} :
    chars = earlier ++ mark ++ later → before.length ≤ earlier.length

/-- A mark stands earlier if it occurs before its last character does. -/
theorem infix_append_dropLast_iff {mark before : List Char} (hmark : mark ≠ [])
    (after : List Char) : mark <:+: before ++ mark.dropLast ↔ ∃ earlier later,
      before ++ mark ++ after = earlier ++ mark ++ later ∧ earlier.length < before.length := by
  have hpositive := List.length_pos_of_ne_nil hmark
  constructor
  · intro hinside
    rcases hinside with ⟨earlier, later, hinside⟩
    refine ⟨earlier, later ++ mark.getLast hmark :: after, ?_, ?_⟩
    · calc before ++ mark ++ after
          = before ++ (mark.dropLast ++ [mark.getLast hmark]) ++ after := by
            rw [List.dropLast_append_getLast]
        _ = before ++ mark.dropLast ++ mark.getLast hmark :: after := by simp
        _ = earlier ++ mark ++ (later ++ mark.getLast hmark :: after) := by
            rw [← hinside]
            simp
    · have hlength := congrArg List.length hinside
      simp only [List.length_append, List.length_dropLast] at hlength
      omega
  · intro hearlier
    rcases hearlier with ⟨earlier, later, happend, hlength⟩
    have hlong : earlier ++ mark <+: before ++ mark ++ after :=
      happend ▸ List.prefix_append _ _
    have hshort : before ++ mark.dropLast <+: before ++ mark ++ after :=
      ((List.prefix_append_right_inj before).mpr (List.dropLast_prefix mark)).trans
        (List.prefix_append _ _)
    have hle : (earlier ++ mark).length ≤ (before ++ mark.dropLast).length := by
      simp only [List.length_append, List.length_dropLast]
      omega
    obtain ⟨rest, hrest⟩ := List.prefix_of_prefix_length_le hlong hshort hle
    exact ⟨earlier, rest, hrest⟩

/-- A text is cut where the mark stands first. -/
theorem splitAtFirst?_eq_some_iff {mark chars before after : List Char} (hmark : mark ≠ []) :
    splitAtFirst? mark chars = some (before, after) ↔ CutAtFirst mark chars before after := by
  constructor
  · intro hsplit
    have happend := eq_append_of_splitAtFirst? hsplit
    refine ⟨happend, fun {earlier later} hearlier => Nat.le_of_not_lt fun hlt => ?_⟩
    exact not_infix_of_splitAtFirst? hmark hsplit
      ((infix_append_dropLast_iff hmark after).mpr ⟨earlier, later, happend ▸ hearlier, hlt⟩)
  · intro hcut
    have hfirst : ¬ mark <:+: before ++ mark.dropLast := by
      rw [infix_append_dropLast_iff hmark after]
      rintro ⟨earlier, later, hearlier, hlt⟩
      have hle := hcut.first (hcut.eq_append.trans hearlier)
      omega
    rw [hcut.eq_append]
    exact splitAtFirst?_append hfirst hmark after

end BooleanRetrieval.Text
