/-
# Word boundaries and case

Lower-casing keeps the class of a character, but for the dot of a dotted I, which is
transparent.  So the word boundaries stay where they are.  One thing may move them: the
circled M is a pictograph and its lower case is not, so a joiner holds only the capital.
Where a text holds no such pair, its segments in lower case are as long as the lower case of
each; and they are the same if no capital sigma sees beyond its segment.
-/

import BooleanRetrieval.Proofs.Text.Lowercase
import BooleanRetrieval.Tokenizer

namespace BooleanRetrieval.Text

/-! ## Classes -/

theorem joiners_alone :
    breakClasses.runs.toList.all (fun run =>
      run.value ≠ .joiner || run.first == '\u200d'.toNat && run.last == '\u200d'.toNat) := by
  decide +kernel

/-- There is one joiner. -/
theorem eq_of_breakClass_joiner {c : Char} (hjoiner : breakClass c = .joiner) :
    c = '\u200d' := by
  obtain ⟨run, hfind, hvalue⟩ := exists_find?_of_breakClass hjoiner (by decide)
  have halone := List.all_eq_true.mp joiners_alone run
    (Array.mem_toList_iff.mpr (RangeMap.mem_of_find? hfind))
  obtain ⟨hstart, hend⟩ := RangeMap.bounds_of_find? hfind
  simp only [hvalue, Bool.or_eq_true, Bool.and_eq_true, beq_iff_eq, ne_eq, not_true_eq_false,
    decide_false, Bool.false_eq_true, false_or] at halone
  exact Char.toNat_inj.mp (by omega)

section Forms

variable {c : Char} {form : List Char}

/-- A form is one character of the same class, a pictograph only if the other is, or it is
that of the dotted I. -/
theorem LowerForm.single_or_dotted (hform : LowerForm c form) :
    (∃ d, form = [d] ∧ breakClass d = breakClass c ∧
      (c ≠ 'Ⓜ' → isPictographic d = isPictographic c)) ∨
        c = 'İ' ∧ form = ['i', '\u0307'] := by
  cases hform with
  | same => exact .inl ⟨c, rfl, rfl, fun _ => rfl⟩
  | @capital _ d hpair =>
      refine .inl ⟨d, rfl, ?_, fun hother => ?_⟩
      · rw [hpair.letter_fst, hpair.letter_snd]
      · rw [hpair.not_pictographic_fst hother, hpair.not_pictographic_snd]
  | dotted => exact .inr ⟨rfl, rfl⟩

/-- A character that is no letter stays alone in its form. -/
theorem lowerChar_of_not_letter (hclass : breakClass c ≠ .letter) : lowerChar c = [c] := by
  have hform := lowerForm_lowerChar c
  generalize lowerChar c = form at hform
  cases hform with
  | same => rfl
  | capital hpair => exact absurd hpair.letter_fst hclass
  | dotted => exact absurd breakClass_dotted hclass

/-- A form holds a letter or a digit if the character is one. -/
theorem LowerForm.any_word (hform : LowerForm c form) :
    (form.any fun d => isAlphabetic d || isNumeric d) = (isAlphabetic c || isNumeric c) := by
  cases hform with
  | same => simp
  | capital hpair => simp [hpair.alphabetic_fst, hpair.alphabetic_snd]
  | dotted => decide +kernel

end Forms

/-- The lower case of a text holds a letter or a digit if the text does. -/
theorem isWord_lowerAfter (before chars : List Char) :
    isWord (lowerAfter before chars) = isWord chars := by
  induction chars generalizing before with
  | nil => rfl
  | cons c rest ih =>
      obtain ⟨form, hform, hlower⟩ := exists_lowerForm before c rest
      have hrest := ih (c :: before)
      simp only [isWord] at hrest ⊢
      rw [hlower, List.any_append, hform.any_word, hrest, List.any_cons]

/-! ## Widths -/

/-- The number of characters in the lower case of a text. -/
def width (chars : List Char) : Nat :=
  (chars.map fun c => (lowerChar c).length).sum

@[simp] theorem width_nil : width [] = 0 := rfl

@[simp] theorem width_cons (c : Char) (rest : List Char) :
    width (c :: rest) = (lowerChar c).length + width rest := by
  simp [width]

@[simp] theorem length_lowerAfter (before chars : List Char) :
    (lowerAfter before chars).length = width chars := by
  induction chars generalizing before with
  | nil => rfl
  | cons c rest ih =>
      obtain ⟨form, hform, hlower⟩ := exists_lowerForm before c rest
      rw [hlower, List.length_append, hform.length_eq, ih, width_cons]

theorem width_take_le (chars : List Char) (count : Nat) :
    width (chars.take count) ≤ width chars := by
  induction chars generalizing count with
  | nil => simp
  | cons c rest ih =>
      cases count with
      | zero => simp
      | succ count =>
          rw [List.take_succ_cons, width_cons, width_cons]
          exact Nat.add_le_add_left (ih count) _

/-- Behind the lower case of the first characters comes that of the others. -/
theorem drop_lowerAfter (before chars : List Char) (count : Nat) :
    (lowerAfter before chars).drop (width (chars.take count)) =
      lowerAfter ((chars.take count).reverse ++ before) (chars.drop count) := by
  induction chars generalizing before count with
  | nil => simp [lowerAfter]
  | cons c rest ih =>
      cases count with
      | zero => simp
      | succ count =>
          obtain ⟨form, hform, hlower⟩ := exists_lowerForm before c rest
          rw [List.take_succ_cons, width_cons, hlower, ← hform.length_eq, List.drop_append,
            List.drop_eq_nil_of_le (Nat.le_add_right _ _), Nat.add_sub_cancel_left, ih]
          simp

/-! ## The reach of a segment -/

namespace Tail

theorem junction_letter (tail : Tail) :
    tail.junction .letter = .joins letter ∨ tail.junction .letter = .parts := by
  cases tail <;> simp [junction, afterWordCharacter]

variable {tail : Tail} {afterJoiner : Bool} {c : Char} {rest : List Char}

theorem reach_cons_joiner (hclass : breakClass c = .joiner) :
    tail.reach afterJoiner (c :: rest) = (tail.afterTransparent.reach true rest).map (· + 1) := by
  rw [reach, hclass]

theorem reach_cons_transparent (hclass : breakClass c = .transparent) :
    tail.reach afterJoiner (c :: rest) =
      (tail.afterTransparent.reach false rest).map (· + 1) := by
  rw [reach, hclass]

theorem reach_cons_visible (hjoiner : breakClass c ≠ .joiner)
    (htransparent : breakClass c ≠ .transparent) :
    tail.reach afterJoiner (c :: rest) =
      if afterJoiner && isPictographic c then (closed.reach false rest).map (· + 1)
      else
        match tail.junction (breakClass c) with
        | .joins next => (next.reach false rest).map (· + 1)
        | .joinsIfConfirmed next => some (((next.reach false rest).map (· + 1)).getD 0)
        | .parts => if tail.isAwaiting then none else some 0 := by
  rw [reach]
  split
  · contradiction
  · contradiction
  · rfl

/-- Two characters of a class are reached alike, and with them as much as is reached behind
them with any tail. -/
theorem reach_cons_of_class_eq {d : Char} {rest' : List Char} {measure total : Nat → Nat}
    (hclass : breakClass d = breakClass c)
    (hpicture : (afterJoiner && isPictographic d) = (afterJoiner && isPictographic c))
    (hfurther : ∀ (next : Tail) (joiner : Bool), (joiner → breakClass c = .joiner) →
      next.reach joiner rest' = (next.reach joiner rest).map measure)
    (hzero : total 0 = 0) (hsucc : ∀ count, total (count + 1) = measure count + 1) :
    tail.reach afterJoiner (d :: rest') = (tail.reach afterJoiner (c :: rest)).map total := by
  have hstep (next : Tail) (joiner : Bool) (hjoiner : joiner → breakClass c = .joiner) :
      (next.reach joiner rest').map (· + 1) = ((next.reach joiner rest).map (· + 1)).map total := by
    rw [hfurther next joiner hjoiner, Option.map_map, Option.map_map]
    congr 1
    funext count
    exact (hsucc count).symm
  by_cases hjoiner : breakClass c = .joiner
  · rw [reach_cons_joiner hjoiner, reach_cons_joiner (hclass.trans hjoiner)]
    exact hstep _ _ fun _ => hjoiner
  by_cases htransparent : breakClass c = .transparent
  · rw [reach_cons_transparent htransparent, reach_cons_transparent (hclass.trans htransparent)]
    exact hstep _ _ (by simp)
  rw [reach_cons_visible hjoiner htransparent,
    reach_cons_visible (by rwa [hclass]) (by rwa [hclass]), hpicture, hclass]
  split
  · exact hstep _ _ (by simp)
  · split
    · exact hstep _ _ (by simp)
    · next next _ =>
        rw [hstep next false (by simp)]
        cases next.reach false rest with
        | none => simp [hzero]
        | some count => rfl
    · split
      · rfl
      · simp [hzero]

end Tail

/-- The circled M, held by a joiner. -/
def heldCapital : List Char :=
  ['\u200d', 'Ⓜ']

theorem not_infix_rest {c : Char} {rest : List Char} (hheld : ¬ heldCapital <:+: c :: rest) :
    ¬ heldCapital <:+: rest := fun hwithin => hheld (List.infix_cons hwithin)

/-- No joiner in front of the rest of a text holds a circled M there. -/
theorem head?_rest_ne {c : Char} {rest : List Char} (hheld : ¬ heldCapital <:+: c :: rest)
    (hjoiner : breakClass c = .joiner) : rest.head? ≠ some 'Ⓜ' := by
  intro hcircled
  obtain rfl := eq_of_breakClass_joiner hjoiner
  obtain ⟨others, rfl⟩ := List.head?_eq_some_iff.mp hcircled
  exact hheld ⟨[], others, rfl⟩

/-- A dotted I is reached as far as an i and a dot are. -/
theorem Tail.reach_cons_dotted {tail : Tail} {afterJoiner : Bool} {rest rest' : List Char}
    {measure total : Nat → Nat}
    (hfurther : letter.reach false rest' = (letter.reach false rest).map measure)
    (hzero : total 0 = 0) (hsucc : ∀ count, total (count + 1) = measure count + 2) :
    tail.reach afterJoiner ('i' :: '\u0307' :: rest') =
      (tail.reach afterJoiner ('İ' :: rest)).map total := by
  have hpicture : isPictographic 'İ' = false := by decide +kernel
  have hpicture' : isPictographic 'i' = false := by decide +kernel
  have hafter : letter.afterTransparent = letter := rfl
  rw [reach_cons_visible (c := 'i') (by simp [breakClass_i]) (by simp [breakClass_i]),
    reach_cons_visible (c := 'İ') (by simp [breakClass_dotted]) (by simp [breakClass_dotted]),
    breakClass_i, breakClass_dotted, hpicture, hpicture', Bool.and_false,
    if_neg Bool.false_ne_true, if_neg Bool.false_ne_true]
  rcases tail.junction_letter with hjunction | hjunction
  · simp only [hjunction]
    rw [reach_cons_transparent breakClass_dot, hafter, hfurther]
    simp only [Option.map_map]
    congr 1
    funext count
    exact (hsucc count).symm
  · simp only [hjunction]
    split
    · rfl
    · simp [hzero]

/-- A segment reaches as far in the lower case of a text as in the text. -/
theorem reach_lowerAfter {tail : Tail} {afterJoiner : Bool} {before chars : List Char}
    (hheld : ¬ heldCapital <:+: chars) (hfirst : afterJoiner → chars.head? ≠ some 'Ⓜ') :
    tail.reach afterJoiner (lowerAfter before chars) =
      (tail.reach afterJoiner chars).map fun count => width (chars.take count) := by
  induction chars generalizing tail afterJoiner before with
  | nil =>
      simp only [lowerAfter, Tail.reach]
      split
      · rfl
      · rfl
  | cons c rest ih =>
      obtain ⟨form, hform, hlower⟩ := exists_lowerForm before c rest
      -- That a character is a pictograph matters behind a joiner only, so only there is it asked.
      have hfurther (next : Tail) (joiner : Bool) (hjoiner : joiner → breakClass c = .joiner) :
          next.reach joiner (lowerAfter (c :: before) rest) =
            (next.reach joiner rest).map fun count => width (rest.take count) :=
        ih (not_infix_rest hheld) fun hafter => head?_rest_ne hheld (hjoiner hafter)
      have hlength := hform.length_eq
      rw [hlower]
      rcases hform.single_or_dotted with ⟨d, rfl, hclass, hpicture⟩ | ⟨rfl, rfl⟩
      · refine Tail.reach_cons_of_class_eq hclass ?_ hfurther rfl ?_
        · cases hafter : afterJoiner with
          | false => rfl
          | true => rw [hpicture fun hcircled => hfirst hafter (by rw [hcircled]; rfl)]
        · intro count
          rw [List.take_succ_cons, width_cons, ← hlength, List.length_singleton, Nat.add_comm]
      · refine Tail.reach_cons_dotted (hfurther .letter false (by simp)) rfl ?_
        intro count
        rw [List.take_succ_cons, width_cons, ← hlength, Nat.add_comm]
        rfl

/-! ## Segments -/

/-- What follows a segment for certain does not await anything. -/
theorem Tail.isAwaiting_of_joins {tail next : Tail} {kind : BreakClass}
    (hjoins : tail.junction kind = .joins next) : next.isAwaiting = false := by
  cases tail <;> cases kind <;> cases hjoins <;> rfl

/-- A segment that awaits nothing is complete. -/
theorem Tail.isSome_reach {tail : Tail} {afterJoiner : Bool} {chars : List Char}
    (hcomplete : tail.isAwaiting = false) : (tail.reach afterJoiner chars).isSome := by
  have htransparent {tail : Tail} (hcomplete : tail.isAwaiting = false) :
      tail.afterTransparent.isAwaiting = false := by
    cases tail <;> simp_all [afterTransparent, isAwaiting]
  induction chars generalizing tail afterJoiner with
  | nil => simp [reach, hcomplete]
  | cons c rest ih =>
      rw [reach]
      split
      · simp [ih (htransparent hcomplete)]
      · simp [ih (htransparent hcomplete)]
      · split
        · have hclosed : (closed.reach false rest).isSome := ih rfl
          simp [hclosed]
        · split
          · next hjoins => simp [ih (isAwaiting_of_joins hjoins)]
          · rfl
          · simp [hcomplete]

theorem lineFeed_head?_lowerAfter (before chars : List Char) :
    (lowerAfter before chars).head?.any (breakClass · = .lineFeed) =
      chars.head?.any (breakClass · = .lineFeed) := by
  cases chars with
  | nil => rfl
  | cons c rest =>
      obtain ⟨form, hform, hlower⟩ := exists_lowerForm before c rest
      rw [hlower]
      rcases hform.single_or_dotted with ⟨d, rfl, hclass, -⟩ | ⟨rfl, rfl⟩
      · simp [hclass]
      · simp [breakClass_dotted, breakClass_i]

/-- The line feed that a carriage return holds stays as it is. -/
theorem width_take_lineFeed (chars : List Char) :
    width (chars.take (if chars.head?.any (breakClass · = .lineFeed) then 1 else 0)) =
      if chars.head?.any (breakClass · = .lineFeed) then 1 else 0 := by
  cases chars with
  | nil => rfl
  | cons c rest =>
      split
      · next hfeed =>
          have hclass : breakClass c = .lineFeed := by simpa using hfeed
          simp [lowerChar_of_not_letter (c := c) (by simp [hclass])]
      · rfl

/-- A dotted I opens a segment that is as long as that of an i and a dot. -/
theorem segmentReach_dotted {rest rest' : List Char} {measure : Nat → Nat}
    (hfurther : Tail.letter.reach false rest' = (Tail.letter.reach false rest).map measure) :
    segmentReach 'i' ('\u0307' :: rest') + 1 = measure (segmentReach 'İ' rest) + 2 := by
  have hafter : Tail.letter.afterTransparent = .letter := rfl
  have hcomplete : (Tail.letter.reach false rest).isSome := Tail.isSome_reach rfl
  obtain ⟨count, hcount⟩ := Option.isSome_iff_exists.mp hcomplete
  have hsecond : (Tail.letter.reach false ('\u0307' :: rest')).getD 0 = measure count + 1 := by
    rw [Tail.reach_cons_transparent breakClass_dot, hafter, hfurther, hcount]
    rfl
  rw [segmentReach, segmentReach, breakClass_i, breakClass_dotted]
  show (Tail.letter.reach false ('\u0307' :: rest')).getD 0 + 1 =
    measure ((Tail.letter.reach false rest).getD 0) + 2
  rw [hsecond, hcount, Option.getD_some]

/-- The first segment of the lower case of a text is as long as the lower case of the first
segment. -/
theorem segmentReach_lowerAfter {before rest : List Char} {c d : Char} {lowered : List Char}
    (hheld : ¬ heldCapital <:+: c :: rest) (hlower : lowerAfter before (c :: rest) = d :: lowered) :
    segmentReach d lowered + 1 = width ((c :: rest).take (segmentReach c rest + 1)) := by
  obtain ⟨form, hform, hparts⟩ := exists_lowerForm before c rest
  have hlength := hform.length_eq
  have hfurther (next : Tail) (joiner : Bool) (hjoiner : joiner → breakClass c = .joiner) :
      next.reach joiner (lowerAfter (c :: before) rest) =
        (next.reach joiner rest).map fun count => width (rest.take count) :=
    reach_lowerAfter (not_infix_rest hheld) fun hafter => head?_rest_ne hheld (hjoiner hafter)
  rw [hlower] at hparts
  rw [List.take_succ_cons, width_cons, ← hlength]
  rcases hform.single_or_dotted with ⟨_, rfl, hclass, -⟩ | ⟨rfl, rfl⟩
  · obtain ⟨rfl, rfl⟩ : d = _ ∧ lowered = _ := by simpa using hparts
    rw [segmentReach, segmentReach, hclass, List.length_singleton, Nat.add_comm]
    congr 1
    split
    · rw [lineFeed_head?_lowerAfter, width_take_lineFeed]
    · rfl
    · rfl
    · rw [hfurther _ _ of_decide_eq_true]
      cases (Tail.ofClass (breakClass c)).reach (breakClass c = .joiner) rest with
      | none => rfl
      | some count => rfl
  · obtain ⟨rfl, rfl⟩ : d = 'i' ∧ lowered = '\u0307' :: _ := by simpa using hparts
    rw [segmentReach_dotted (hfurther .letter false (by simp)), Nat.add_comm]
    rfl

/-- The segments of the lower case of a text are as long as those of the text in lower case. -/
theorem map_length_segmentsAfter (found : List (List Char)) (chars : List Char) :
    ∀ (before : List Char) (found' : List (List Char)), ¬ heldCapital <:+: chars →
      found'.map List.length = found.map width →
        (segmentsAfter found' (lowerAfter before chars)).map List.length =
          (segmentsAfter found chars).map width := by
  fun_induction segmentsAfter found chars with
  | case1 found =>
      intro before found' _ hfound
      simp [lowerAfter, segmentsAfter, hfound]
  | case2 found c rest count ih =>
      intro before found' hheld hfound
      obtain ⟨d, lowered, hlower⟩ := List.exists_cons_of_ne_nil
        (l := lowerAfter before (c :: rest)) (by simp)
      have hreach := segmentReach_lowerAfter hheld hlower
      -- What is left behind the first segment is the lower case of what is left of the text,
      -- though with more before it: the statement is about every `before`.
      have hdrop := drop_lowerAfter before (c :: rest) (count + 1)
      have hheld' : ¬ heldCapital <:+: rest.drop count :=
        fun hwithin => not_infix_rest hheld (hwithin.trans (List.drop_suffix _ _).isInfix)
      have hfirst : (d :: lowered.take (segmentReach d lowered)).length =
          width (c :: rest.take count) := by
        have hlength := congrArg List.length hlower
        have hshort := width_take_le (c :: rest) (count + 1)
        rw [length_lowerAfter, List.length_cons] at hlength
        rw [← hreach, hlength] at hshort
        rw [List.take_succ_cons] at hreach
        rw [← hreach, List.length_cons, List.length_take,
          Nat.min_eq_left (Nat.le_of_succ_le_succ hshort)]
      rw [← hreach, hlower, List.drop_succ_cons, List.drop_succ_cons] at hdrop
      rw [hlower, segmentsAfter, hdrop]
      apply ih _ _ hheld'
      rw [List.map_cons, List.map_cons, hfirst, hfound]

/-- The segments of the lower case of a text are the lower case of its segments, if a capital
sigma takes the same form in a segment alone. -/
theorem segments_lowerAfter {chars : List Char} (hheld : ¬ heldCapital <:+: chars)
    (hsigma : lowerAfter [] chars = (segments chars).flatMap (lowerAfter [])) :
    segments (lowerAfter [] chars) = (segments chars).map (lowerAfter []) := by
  rw [List.eq_iff_flatten_eq, flatten_segments, ← List.flatMap_def]
  refine ⟨hsigma, ?_⟩
  rw [segments, map_length_segmentsAfter [] chars [] [] hheld rfl, List.map_map, segments]
  apply List.map_congr_left
  intro segment _
  rw [Function.comp_apply, length_lowerAfter]

end BooleanRetrieval.Text
