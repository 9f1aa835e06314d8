/-
# White space within words

A word of a text ends at white space, with two exceptions.  The narrow no-break space counts
among the connectors, which join letters and digits; and a character that attaches to the one
before it attaches to white space too, so that it can make a word of it.  Apart from these, a
segment is white space throughout or not at all, and as a word it holds a letter or a digit.
-/

import BooleanRetrieval.Proofs.Text.Context
import BooleanRetrieval.Proofs.Text.Segment
import BooleanRetrieval.Proofs.Token

namespace BooleanRetrieval.Text

/-! ## Joined blanks -/

/-- Whether a character attaches to the one before it, whatever that is. -/
def isAttached (c : Char) : Bool :=
  breakClass c = .transparent || breakClass c = .joiner

/-- A sequence holds white space at which a word need not end: a narrow no-break space, or
white space that a character is attached to. -/
def JoinsBlank (chars : List Char) : Prop :=
  '\u202f' ∈ chars ∨
    ∃ blank attached, isBlank blank ∧ isAttached attached ∧ [blank, attached] <:+: chars

theorem JoinsBlank.mono {chars others : List Char} (hjoins : JoinsBlank chars)
    (hwithin : chars <:+: others) : JoinsBlank others := by
  rcases hjoins with hnarrow | ⟨blank, attached, hblank, hattached, hpair⟩
  · exact .inl (hwithin.subset hnarrow)
  · exact .inr ⟨blank, attached, hblank, hattached, hpair.trans hwithin⟩

theorem isBlank_narrow : isBlank '\u202f' = true := by cbv

theorem JoinsBlank.exists_isBlank {chars : List Char} (hjoins : JoinsBlank chars) :
    ∃ c ∈ chars, isBlank c := by
  rcases hjoins with hnarrow | ⟨blank, attached, hblank, -, hpair⟩
  · exact ⟨_, hnarrow, isBlank_narrow⟩
  · exact ⟨blank, hpair.subset List.mem_cons_self, hblank⟩

/-- Joined blanks are still there in lower case. -/
theorem JoinsBlank.lowerAfter {chars : List Char} (hjoins : JoinsBlank chars)
    (before : List Char) : JoinsBlank (lowerAfter before chars) := by
  rcases hjoins with hnarrow | ⟨blank, attached, hblank, hattached, first, rest, rfl⟩
  · obtain ⟨first, rest, rfl⟩ := List.append_of_mem hnarrow
    rw [(isBound_of_isBlank isBlank_narrow).lowerAfter_cut]
    exact .inl (by simp)
  · refine .inr ⟨blank, attached, hblank, hattached, ?_⟩
    have hletter : breakClass attached ≠ .letter := by
      intro hletter
      simp [isAttached, hletter] at hattached
    obtain ⟨form, hform, hlower⟩ := exists_lowerForm [] attached rest
    have hsame : form = [attached] := by
      cases hform with
      | same => rfl
      | capital hpair => exact absurd hpair.letter_fst hletter
      | dotted => exact absurd breakClass_dotted hletter
    rw [List.append_assoc, List.cons_append, (isBound_of_isBlank hblank).lowerAfter_cut,
      List.cons_append, List.nil_append, hlower, hsame]
    exact ⟨Text.lowerAfter before first, Text.lowerAfter [attached] rest, by simp⟩

/-! ## One character more -/

namespace Tail

/-- How a segment with a given tail takes in one more character. -/
inductive Takes (tail : Tail) (afterJoiner : Bool) (c : Char) : Tail → Prop where
  | attached : isAttached c → Takes tail afterJoiner c tail.afterTransparent
  | held : afterJoiner → isPictographic c → Takes tail afterJoiner c closed
  | joined {next : Tail} : tail.junction (breakClass c) = .joins next →
      Takes tail afterJoiner c next
  | confirmed {next : Tail} : tail.junction (breakClass c) = .joinsIfConfirmed next →
      Takes tail afterJoiner c next

variable {tail next : Tail} {afterJoiner : Bool} {c : Char} {rest : List Char} {count : Nat}

/-- What a segment reaches, it takes in character by character. -/
theorem exists_takes (hreach : tail.reach afterJoiner (c :: rest) = some (count + 1)) :
    ∃ next, tail.Takes afterJoiner c next ∧
      next.reach (breakClass c = .joiner) rest = some count := by
  by_cases hjoiner : breakClass c = .joiner
  · refine ⟨_, .attached (by simp [isAttached, hjoiner]), ?_⟩
    simpa [reach, hjoiner] using hreach
  by_cases htransparent : breakClass c = .transparent
  · refine ⟨_, .attached (by simp [isAttached, htransparent]), ?_⟩
    simpa [reach, htransparent] using hreach
  rw [reach_cons_visible hjoiner htransparent] at hreach
  have hplain : decide (breakClass c = .joiner) = false := decide_eq_false hjoiner
  rw [hplain]
  split at hreach
  · next hheld =>
      rw [Bool.and_eq_true] at hheld
      exact ⟨_, .held hheld.1 hheld.2, by simpa using hreach⟩
  · split at hreach
    · next next hjoins => exact ⟨next, .joined hjoins, by simpa using hreach⟩
    · next next hconfirmed =>
        refine ⟨next, .confirmed hconfirmed, ?_⟩
        cases hrest : next.reach false rest with
        | none => simp [hrest] at hreach
        | some further => simpa [hrest] using hreach
    · split at hreach
      · cases hreach
      · cases hreach

/-- White space parts from whatever is no space. -/
theorem junction_eq_parts (htail : tail ≠ space) {kind : BreakClass}
    (hkind : kind ∈ [.lineFeed, .newline, .carriageReturn, .space, .other]) :
    tail.junction kind = .parts := by
  simp only [List.mem_cons, List.not_mem_nil, or_false] at hkind
  rcases hkind with rfl | rfl | rfl | rfl | rfl
  all_goals cases tail <;> first | rfl | exact absurd rfl htail

/-- A segment comes to end with a space only behind another. -/
theorem ne_space_of_junction (htail : tail ≠ space) {kind : BreakClass}
    (hjoins : tail.junction kind = .joins next ∨ tail.junction kind = .joinsIfConfirmed next) :
    next ≠ space := by
  rintro rfl
  cases tail <;> cases kind <;> simp_all [junction, afterWordCharacter]

/-- A segment of spaces takes in another space, or what attaches to the last. -/
theorem Takes.of_space (htakes : space.Takes false c next) :
    isAttached c ∨ breakClass c = .space ∧ next = space := by
  cases htakes with
  | attached hattached => exact .inl hattached
  | held hafter => cases hafter
  | joined hjoins =>
      cases hclass : breakClass c <;> simp_all [junction]
  | confirmed hconfirmed =>
      cases hclass : breakClass c <;> simp_all [junction]

end Tail

/-! ## White space in the tables -/

theorem blanks_part_words :
    blanks.runs.toList.all fun run =>
      breakClasses.avoids
        (fun found => found.value ∉ [.lineFeed, .newline, .carriageReturn, .space] &&
          !(found.first == '\u202f'.toNat && found.last == '\u202f'.toNat))
        run.first run.last := by
  decide +kernel

theorem blanks_cover_spaces :
    blanks.Ascends ∧ breakClasses.runs.toList.all fun run =>
      run.value ∉ [.lineFeed, .newline, .carriageReturn, .space] ||
        blanks.covers (fun _ => true) run.first run.last :=
  ⟨RangeMap.ascends_of_isChain (by decide +kernel), by decide +kernel⟩

section Classes

variable {c : Char}

/-- The narrow no-break space apart, white space joins nothing but perhaps its like. -/
theorem breakClass_of_isBlank (hblank : isBlank c) (hnarrow : c ≠ '\u202f') :
    breakClass c ∈ [.lineFeed, .newline, .carriageReturn, .space, .other] := by
  obtain ⟨run, hrun⟩ := Option.isSome_iff_exists.mp hblank
  obtain ⟨hfirst, hlast⟩ := RangeMap.bounds_of_find? hrun
  have havoids := List.all_eq_true.mp blanks_part_words run
    (Array.mem_toList_iff.mpr (RangeMap.mem_of_find? hrun))
  rw [breakClass, RangeMap.get?]
  cases hfind : breakClasses.find? c with
  | none => simp
  | some found =>
      have hclass := RangeMap.eq_false_of_avoids havoids hfirst hlast hfind
      obtain ⟨hstart, hend⟩ := RangeMap.bounds_of_find? hfind
      rw [Bool.and_eq_false_iff] at hclass
      rcases hclass with hclass | halone
      · exact List.mem_append_left [.other] (not_not.mp (of_decide_eq_false hclass))
      · simp only [Bool.not_eq_false', Bool.and_eq_true, beq_iff_eq] at halone
        exact absurd (Char.toNat_inj.mp (by omega)) hnarrow

/-- Spaces that stay together are white space, and so are the line ends. -/
theorem isBlank_of_breakClass
    (hclass : breakClass c ∈ [.lineFeed, .newline, .carriageReturn, .space]) : isBlank c := by
  have hother : breakClass c ≠ .other := by
    intro hother
    simp [hother] at hclass
  obtain ⟨run, hfind, hvalue⟩ := exists_find?_of_breakClass rfl hother
  obtain ⟨hfirst, hlast⟩ := RangeMap.bounds_of_find? hfind
  obtain ⟨hascends, hspaces⟩ := blanks_cover_spaces
  have hcovers := List.all_eq_true.mp hspaces run
    (Array.mem_toList_iff.mpr (RangeMap.mem_of_find? hfind))
  rw [hvalue, Bool.or_eq_true] at hcovers
  rcases hcovers with hnot | hcovers
  · exact absurd hclass (of_decide_eq_true hnot)
  · exact CharSet.contains_of_find?
      (RangeMap.exists_find?_of_covers hascends hcovers hfirst hlast)

theorem isPictographic_eq_false_of_isBlank (hblank : isBlank c) : isPictographic c = false :=
  contains_eq_false_of_isBlank (by simp [solidSets]) hblank

theorem isNumeric_eq_false_of_isBlank (hblank : isBlank c) : isNumeric c = false :=
  contains_eq_false_of_isBlank (by simp [solidSets]) hblank

end Classes

/-! ## Whole segments -/

namespace Tail

variable {tail next : Tail} {afterJoiner : Bool} {c : Char} {count : Nat}

/-- A segment that does not end with a space takes in no white space but the narrow no-break
space, and still does not end with a space. -/
theorem Takes.ne_space (htakes : tail.Takes afterJoiner c next) (htail : tail ≠ space) :
    next ≠ space ∧ (isBlank c → c = '\u202f') := by
  have hparts (hblank : isBlank c) (hnarrow : c ≠ '\u202f') :
      tail.junction (breakClass c) = .parts :=
    junction_eq_parts htail (breakClass_of_isBlank hblank hnarrow)
  cases htakes with
  | attached hattached =>
      refine ⟨?_, fun hblank => ?_⟩
      · cases tail <;> simp_all [afterTransparent]
      · by_contra hnarrow
        have hclass := breakClass_of_isBlank hblank hnarrow
        rw [isAttached, Bool.or_eq_true, decide_eq_true_iff, decide_eq_true_iff] at hattached
        rcases hattached with hattached | hattached
        · simp [hattached] at hclass
        · simp [hattached] at hclass
  | held _ hpicture =>
      refine ⟨by simp, fun hblank => ?_⟩
      rw [isPictographic_eq_false_of_isBlank hblank] at hpicture
      cases hpicture
  | joined hjoins =>
      refine ⟨ne_space_of_junction htail (.inl hjoins), fun hblank => ?_⟩
      by_contra hnarrow
      rw [hparts hblank hnarrow] at hjoins
      cases hjoins
  | confirmed hconfirmed =>
      refine ⟨ne_space_of_junction htail (.inr hconfirmed), fun hblank => ?_⟩
      by_contra hnarrow
      rw [hparts hblank hnarrow] at hconfirmed
      cases hconfirmed

/-- Behind a character that is no space, a segment reaches no white space but the narrow
no-break space. -/
theorem eq_narrow_of_mem_reach {chars : List Char} (htail : tail ≠ space)
    (hreach : tail.reach afterJoiner chars = some count) {d : Char} (hd : d ∈ chars.take count)
    (hblank : isBlank d) : d = '\u202f' := by
  induction chars generalizing tail afterJoiner count with
  | nil => simp at hd
  | cons c rest ih =>
      cases count with
      | zero => simp at hd
      | succ count =>
          obtain ⟨next, htakes, hrest⟩ := exists_takes hreach
          obtain ⟨hnext, hnarrow⟩ := htakes.ne_space htail
          rw [List.take_succ_cons, List.mem_cons] at hd
          rcases hd with rfl | hd
          · exact hnarrow hblank
          · exact ih hnext hrest hd

/-- Behind a space, a segment reaches white space only, unless something attaches to it. -/
theorem blanks_or_joinsBlank_of_space {chars : List Char} (hblank : isBlank c)
    (hreach : space.reach false chars = some count) :
    (∀ d ∈ chars.take count, isBlank d) ∨ JoinsBlank (c :: chars.take count) := by
  induction chars generalizing c count with
  | nil => simp
  | cons d rest ih =>
      cases count with
      | zero => simp
      | succ count =>
          obtain ⟨next, htakes, hrest⟩ := exists_takes hreach
          rw [List.take_succ_cons]
          rcases htakes.of_space with hattached | ⟨hclass, rfl⟩
          · exact .inr (.inr ⟨c, d, hblank, hattached, [], rest.take count, rfl⟩)
          · have hspace : isBlank d := isBlank_of_breakClass (by simp [hclass])
            rw [hclass] at hrest
            rcases ih hspace hrest with hblanks | hjoins
            · exact .inl (List.forall_mem_cons.mpr ⟨hspace, hblanks⟩)
            · exact .inr (hjoins.mono (List.suffix_cons c _).isInfix)

/-- Only what attaches to it stays with other white space. -/
theorem isAttached_of_closed (hreach : closed.reach false (c :: rest) = some (count + 1)) :
    isAttached c := by
  obtain ⟨next, htakes, -⟩ := exists_takes hreach
  cases htakes with
  | attached hattached => exact hattached
  | held hafter => cases hafter
  | joined hjoins => cases hjoins
  | confirmed hconfirmed => cases hconfirmed

end Tail

variable {c : Char} {rest : List Char}

/-- What a segment reaches behind a character that is no line end. -/
theorem segmentReach_eq_zero_or (c : Char) (rest : List Char)
    (hclass : breakClass c ∉ [.lineFeed, .newline, .carriageReturn]) :
    segmentReach c rest = 0 ∨
      (Tail.ofClass (breakClass c)).reach (breakClass c = .joiner) rest =
        some (segmentReach c rest) := by
  have hreach : segmentReach c rest =
      ((Tail.ofClass (breakClass c)).reach (breakClass c = .joiner) rest).getD 0 := by
    rw [segmentReach]
    split
    · next heq => simp [heq] at hclass
    · next heq => simp [heq] at hclass
    · next heq => simp [heq] at hclass
    · rfl
  rw [hreach]
  cases (Tail.ofClass (breakClass c)).reach (breakClass c = .joiner) rest with
  | none => exact .inl rfl
  | some count => exact .inr rfl

/-- A carriage return holds its line feed at most. -/
theorem blanks_of_carriageReturn (hclass : breakClass c = .carriageReturn) :
    ∀ d ∈ rest.take (segmentReach c rest), isBlank d := by
  cases rest with
  | nil => simp
  | cons next others =>
      by_cases hfeed : breakClass next = .lineFeed
      · have hblank : isBlank next := isBlank_of_breakClass (by simp [hfeed])
        simpa [segmentReach, hclass, hfeed] using hblank
      · simp [segmentReach, hclass, hfeed]

/-- A segment that begins with white space is white space, unless something attaches to it. -/
theorem blanks_or_joinsBlank_of_segment (hblank : isBlank c) :
    (∀ d ∈ c :: rest.take (segmentReach c rest), isBlank d) ∨
      JoinsBlank (c :: rest.take (segmentReach c rest)) := by
  rw [List.forall_mem_cons]
  by_cases hnarrow : c = '\u202f'
  · exact .inr (.inl (by simp [hnarrow]))
  have hclass := breakClass_of_isBlank hblank hnarrow
  simp only [List.mem_cons, List.not_mem_nil, or_false] at hclass
  rcases hclass with hclass | hclass | hclass | hclass | hclass
  · simp [segmentReach, hclass, hblank]
  · simp [segmentReach, hclass, hblank]
  · exact .inl ⟨hblank, blanks_of_carriageReturn hclass⟩
  · rcases segmentReach_eq_zero_or c rest (by simp [hclass]) with
      hzero | hreach
    · simp [hzero, hblank]
    · rw [hclass] at hreach
      rcases Tail.blanks_or_joinsBlank_of_space hblank hreach with hblanks | hjoins
      · exact .inl ⟨hblank, hblanks⟩
      · exact .inr hjoins
  · rcases segmentReach_eq_zero_or c rest (by simp [hclass]) with
      hzero | hreach
    · simp [hzero, hblank]
    · rw [hclass] at hreach
      cases hcount : segmentReach c rest with
      | zero => simp [hblank]
      | succ count =>
          cases rest with
          | nil => simp [hblank]
          | cons d others =>
              rw [hcount] at hreach
              have hattached := Tail.isAttached_of_closed hreach
              exact .inr (.inr ⟨c, d, hblank, hattached, [], others.take count, rfl⟩)

/-- A segment that begins with another character holds no white space but the narrow no-break
space. -/
theorem eq_narrow_of_segment (hother : isBlank c = false) {d : Char}
    (hd : d ∈ c :: rest.take (segmentReach c rest)) (hblank : isBlank d) : d = '\u202f' := by
  have hclass : breakClass c ∉ [.lineFeed, .newline, .carriageReturn, .space] := by
    intro hclass
    rw [isBlank_of_breakClass hclass] at hother
    cases hother
  have htail : Tail.ofClass (breakClass c) ≠ .space := by
    cases hkind : breakClass c <;> simp_all [Tail.ofClass]
  rcases List.mem_cons.mp hd with rfl | hd
  · rw [hother] at hblank
    cases hblank
  · have hline : breakClass c ∉ [.lineFeed, .newline, .carriageReturn] := by
      simp only [List.mem_cons, not_or] at hclass ⊢
      exact ⟨hclass.1, hclass.2.1, hclass.2.2.1, List.not_mem_nil⟩
    rcases segmentReach_eq_zero_or c rest hline with hzero | hreach
    · simp [hzero] at hd
    · exact Tail.eq_narrow_of_mem_reach htail hreach hd hblank

/-- A segment is what its first character opens. -/
theorem exists_of_mem_segments {chars segment : List Char} (hsegment : segment ∈ segments chars) :
    ∃ (c : Char) (rest : List Char), segment = c :: rest.take (segmentReach c rest) := by
  have hafter (found : List (List Char)) (chars : List Char)
      (hmem : segment ∈ segmentsAfter found chars) :
      segment ∈ found ∨
        ∃ (c : Char) (rest : List Char), segment = c :: rest.take (segmentReach c rest) := by
    fun_induction segmentsAfter found chars with
    | case1 found => exact .inl (List.mem_reverse.mp hmem)
    | case2 found c rest count ih =>
        rcases ih hmem with hfound | hopened
        · rcases List.mem_cons.mp hfound with rfl | hfound
          · exact .inr ⟨c, rest, rfl⟩
          · exact .inl hfound
        · exact .inr hopened
  exact (hafter [] chars hsegment).resolve_left List.not_mem_nil

/-- A word of a text holds white space only if it holds a joined blank. -/
theorem joinsBlank_of_isWord {chars segment : List Char} (hsegment : segment ∈ segments chars)
    (hword : isWord segment) {d : Char} (hd : d ∈ segment) (hblank : isBlank d) :
    JoinsBlank segment := by
  obtain ⟨c, rest, rfl⟩ := exists_of_mem_segments hsegment
  cases hfirst : isBlank c with
  | false =>
      rw [eq_narrow_of_segment hfirst hd hblank] at hd
      exact .inl hd
  | true =>
      refine (blanks_or_joinsBlank_of_segment hfirst).resolve_left fun hblanks => ?_
      obtain ⟨letter, hmem, hletter⟩ := List.any_eq_true.mp hword
      have hspace := hblanks letter hmem
      rw [Bool.or_eq_true] at hletter
      rcases hletter with halphabetic | hnumeric
      · rw [isBlank_eq_false_of_isAlphabetic halphabetic] at hspace
        cases hspace
      · rw [isNumeric_eq_false_of_isBlank hspace] at hnumeric
        cases hnumeric

end BooleanRetrieval.Text
