/-
# What stems are spelt with

A rule takes characters off the end of a word and puts plain letters there, so what the rules
make of a word is a beginning of it and plain letters.  The marks that stand in the word while the
rules run are taken out again: each `Y` for a consonant, and each tilde, since one that is left
still follows its vowel.  So a stem is spelt with characters of the word, plain letters and nasal
vowels.  A number carries no suffix and is its own stem.
-/

import BooleanRetrieval.Stem
import BooleanRetrieval.Text.Alphabetic
import BooleanRetrieval.Text.Blank
import BooleanRetrieval.Text.Numeric
import Mathlib

namespace BooleanRetrieval.Stem

/-! ## Rules -/

/-- The characters that a rule puts in place of a suffix. -/
def plainLetters : List Char :=
  "abcdefghijklmnopqrstuvwxyz".toList

/-- A beginning of a word is left, with plain letters behind it. -/
def EndChanged (word result : List Char) : Prop :=
  ∃ kept ending, kept <+: word ∧ ending ⊆ plainLetters ∧ result = kept ++ ending

section EndChanged

variable {word middle result : List Char}

theorem EndChanged.of_beginning (hfront : result <+: word) : EndChanged word result :=
  ⟨result, [], hfront, List.nil_subset _, (List.append_nil result).symm⟩

theorem EndChanged.refl (word : List Char) : EndChanged word word :=
  .of_beginning (List.prefix_refl word)

theorem EndChanged.append_letters {ending : List Char} (hletters : ending ⊆ plainLetters) :
    EndChanged word (word ++ ending) :=
  ⟨word, ending, List.prefix_refl word, hletters, rfl⟩

theorem EndChanged.append_left (front : List Char) (hchanged : EndChanged word result) :
    EndChanged (front ++ word) (front ++ result) := by
  obtain ⟨kept, ending, hkept, hletters, rfl⟩ := hchanged
  exact ⟨front ++ kept, ending, (List.prefix_append_right_inj front).mpr hkept, hletters,
    (List.append_assoc ..).symm⟩

theorem EndChanged.trans (hfirst : EndChanged word middle) (hsecond : EndChanged middle result) :
    EndChanged word result := by
  obtain ⟨kept, ending, hkept, hletters, rfl⟩ := hfirst
  obtain ⟨left, added, hleft, hadded, rfl⟩ := hsecond
  -- The second step takes off the letters of the first, or some of them.
  rcases List.prefix_or_prefix_of_prefix hleft (List.prefix_append kept ending) with
    hshorter | ⟨some, rfl⟩
  · exact ⟨left, added, hshorter.trans hkept, hadded, rfl⟩
  · have hsome := ((List.prefix_append_right_inj kept).mp hleft).subset
    exact ⟨kept, some ++ added, hkept,
      List.append_subset.mpr ⟨fun c hc => hletters (hsome hc), hadded⟩, List.append_assoc ..⟩

/-- What a step leaves, or else the word. -/
theorem EndChanged.getD {step? : Option (List Char)}
    (hstep : ∀ result, step? = some result → EndChanged word result) :
    EndChanged word (step?.getD word) := by
  cases step? with
  | none => exact .refl word
  | some result => exact hstep result rfl

theorem EndChanged.mem {c : Char} (hchanged : EndChanged word result) (hc : c ∈ result) :
    c ∈ word ∨ c ∈ plainLetters := by
  obtain ⟨kept, ending, hkept, hletters, rfl⟩ := hchanged
  rcases List.mem_append.mp hc with hc | hc
  · exact .inl (hkept.subset hc)
  · exact .inr (hletters hc)

end EndChanged

/-- A rule puts plain letters at the end of what it keeps. -/
def Rule.ChangesEnd (rule : Rule) : Prop :=
  ∀ stem result, rule stem = some result → EndChanged stem result

/-- So do the rules of a table. -/
def ChangeEnds (rules : List (String × Rule)) : Prop :=
  ∀ entry ∈ rules, entry.2.ChangesEnd

theorem changesEnd_become {text : String} (hletters : text.toList.all (plainLetters.contains ·)) :
    (Rule.become text).ChangesEnd := by
  intro stem result hrule
  obtain rfl := Option.some.inj hrule
  apply EndChanged.append_letters
  intro c hc
  simpa using List.all_eq_true.mp hletters c hc

theorem changesEnd_delete : Rule.delete.ChangesEnd := by
  intro stem result hrule
  obtain rfl := Option.some.inj hrule
  exact .refl stem

theorem changesEnd_none : Rule.ChangesEnd fun _ => none := by
  intro stem result hrule
  cases hrule

theorem changesEnd_some {step : List Char → List Char}
    (hstep : ∀ stem, EndChanged stem (step stem)) :
    Rule.ChangesEnd fun stem => some (step stem) := by
  intro stem result hrule
  obtain rfl := Option.some.inj hrule
  exact hstep stem

theorem changesEnd_guarded {condition : List Char → Bool} {rule : Rule}
    (hrule : rule.ChangesEnd) : (rule.guarded condition).ChangesEnd := by
  intro stem result happly
  rw [Rule.guarded] at happly
  split at happly
  · exact hrule stem result happly
  · cases happly

theorem changeEnds_sameRule {suffixes : List String} {rule : Rule} (hrule : rule.ChangesEnd) :
    ChangeEnds (sameRule suffixes rule) := by
  rintro entry hentry
  obtain ⟨suffix, -, rfl⟩ := List.mem_map.mp hentry
  exact hrule

theorem changeEnds_append {first second : List (String × Rule)} (hfirst : ChangeEnds first)
    (hsecond : ChangeEnds second) : ChangeEnds (first ++ second) :=
  List.forall_mem_append.mpr ⟨hfirst, hsecond⟩

theorem eq_or_eq_of_longerMatch {α : Type} {first second : Option (List Char × α)}
    {found : List Char × α} (hfound : longerMatch first second = some found) :
    first = some found ∨ second = some found := by
  cases first with
  | none => exact .inr hfound
  | some one =>
      cases second with
      | none => exact .inl hfound
      | some other =>
          simp only [longerMatch] at hfound
          split at hfound
          · exact .inr hfound
          · exact .inl hfound

/-- The longest suffix leaves a beginning of the word, and its entry is listed. -/
theorem of_longestSuffix? {α : Type} {entries : List (String × α)} {word stem : List Char}
    {value : α} (hlongest : longestSuffix? entries word = some (stem, value)) :
    stem <+: word ∧ ∃ suffix, suffix.toList <:+ word ∧ (suffix, value) ∈ entries := by
  induction entries with
  | nil => cases hlongest
  | cons entry rest ih =>
      rcases eq_or_eq_of_longerMatch hlongest with hfirst | hrest
      · obtain ⟨_, hstem, hvalue⟩ := Option.map_eq_some_iff.mp hfirst
        obtain ⟨rfl, rfl⟩ := Prod.mk.inj hvalue
        rw [stemBefore?] at hstem
        split at hstem
        · next hsuffix =>
            obtain rfl := Option.some.inj hstem
            exact ⟨List.take_prefix _ _, entry.1, List.isSuffixOf_iff_suffix.mp hsuffix,
              List.mem_cons_self⟩
        · cases hstem
      · obtain ⟨hfront, suffix, hsuffix, hmem⟩ := ih hrest
        exact ⟨hfront, suffix, hsuffix, List.mem_cons_of_mem _ hmem⟩

/-- The rule of the longest suffix changes the end of the word only. -/
theorem endChanged_of_applyLongest? {rules : List (String × Rule)} (hrules : ChangeEnds rules)
    {word result : List Char} (happly : applyLongest? rules word = some result) :
    EndChanged word result := by
  obtain ⟨⟨stem, rule⟩, hlongest, hrule⟩ := Option.bind_eq_some_iff.mp happly
  obtain ⟨hfront, suffix, -, hentry⟩ := of_longestSuffix? hlongest
  exact (EndChanged.of_beginning hfront).trans (hrules _ hentry stem result hrule)

theorem endChanged_applyLongest {rules : List (String × Rule)} (hrules : ChangeEnds rules)
    (word : List Char) : EndChanged word ((applyLongest? rules word).getD word) :=
  .getD fun _ happly => endChanged_of_applyLongest? hrules happly

/-! ## Spelling -/

/-- The characters that the stemmers write. -/
def writtenLetters : List Char :=
  plainLetters ++ ['ã', 'õ']

theorem plainLetters_subset_writtenLetters : plainLetters ⊆ writtenLetters :=
  List.subset_append_left _ _

/-- A sequence is spelt with the characters of a word and those that the stemmers write. -/
def SpeltFrom (word result : List Char) : Prop :=
  ∀ c ∈ result, c ∈ word ∨ c ∈ writtenLetters

theorem EndChanged.speltFrom {word result : List Char} (hchanged : EndChanged word result) :
    SpeltFrom word result :=
  fun _ hc => (hchanged.mem hc).imp_right fun hletter => plainLetters_subset_writtenLetters hletter

theorem SpeltFrom.mono {word other result : List Char} (hspelt : SpeltFrom word result)
    (hsubset : word ⊆ other) : SpeltFrom other result :=
  fun c hc => (hspelt c hc).imp_left fun hword => hsubset hword

/-! ## Numbers -/

/-- The characters that the stemmers look for. -/
def soughtCharacters : List Char :=
  plainLetters ++ ['\'', 'Y', '~', 'á', 'â', 'ã', 'ç', 'é', 'ê', 'í', 'ó', 'õ']

/-- None of them is numeric. -/
theorem not_isNumeric_of_mem_soughtCharacters {c : Char} (hsought : c ∈ soughtCharacters) :
    ¬ Text.isNumeric c := by
  have hnone : soughtCharacters.all (!Text.isNumeric ·) := by decide +kernel
  simpa using List.all_eq_true.mp hnone c hsought

/-- Every listed suffix has a character that is not numeric. -/
def NoNumbers (suffixes : List String) : Prop :=
  suffixes.all fun suffix => suffix.toList.any (!Text.isNumeric ·)

/-- It is enough that every suffix has a character that the stemmers look for. -/
theorem noNumbers_of_sought {suffixes : List String}
    (hsuffixes : suffixes.all fun suffix => suffix.toList.any (soughtCharacters.contains ·)) :
    NoNumbers suffixes := by
  apply List.all_eq_true.mpr
  intro suffix hsuffix
  obtain ⟨c, hc, hsought⟩ := List.any_eq_true.mp (List.all_eq_true.mp hsuffixes suffix hsuffix)
  have hother := not_isNumeric_of_mem_soughtCharacters (List.contains_iff_mem.mp hsought)
  exact List.any_eq_true.mpr ⟨c, hc, by simpa using hother⟩

@[simp] theorem map_fst_sameRule (suffixes : List String) (rule : Rule) :
    (sameRule suffixes rule).map (·.1) = suffixes := by
  rw [sameRule, List.map_map]
  exact List.map_id suffixes

section Numbers

variable {word : List Char}

/-- A number does not end with such a suffix. -/
theorem NoNumbers.not_suffix {suffixes : List String} (hsuffixes : NoNumbers suffixes)
    (hnumber : ∀ c ∈ word, Text.isNumeric c) {suffix : String} (hsuffix : suffix ∈ suffixes) :
    ¬ suffix.toList <:+ word := by
  intro hword
  obtain ⟨c, hc, hother⟩ := List.any_eq_true.mp (List.all_eq_true.mp hsuffixes suffix hsuffix)
  rw [hnumber c (hword.subset hc)] at hother
  cases hother

theorem NoNumbers.longestSuffix?_eq_none {α : Type} {entries : List (String × α)}
    (hsuffixes : NoNumbers (entries.map (·.1))) (hnumber : ∀ c ∈ word, Text.isNumeric c) :
    longestSuffix? entries word = none := by
  apply Option.eq_none_iff_forall_ne_some.mpr
  rintro ⟨stem, value⟩ hlongest
  obtain ⟨-, suffix, hsuffix, hentry⟩ := of_longestSuffix? hlongest
  exact hsuffixes.not_suffix hnumber (List.mem_map_of_mem hentry) hsuffix

theorem NoNumbers.applyLongest?_eq_none {rules : List (String × Rule)}
    (hsuffixes : NoNumbers (rules.map (·.1))) (hnumber : ∀ c ∈ word, Text.isNumeric c) :
    applyLongest? rules word = none := by
  rw [applyLongest?, hsuffixes.longestSuffix?_eq_none hnumber]
  rfl

end Numbers

/-! ## English -/

namespace English

theorem mem_markConsonants {c : Char} {asConsonant : Bool} {word : List Char}
    (hc : c ∈ markConsonants asConsonant word) : c ∈ word ∨ c = 'Y' := by
  induction word generalizing asConsonant with
  | nil => exact .inl hc
  | cons first rest ih =>
      rw [markConsonants] at hc
      split at hc
      · rcases List.mem_cons.mp hc with hmark | hrest
        · exact .inr hmark
        · exact (ih hrest).imp_left (List.mem_cons_of_mem first)
      · rcases List.mem_cons.mp hc with rfl | hrest
        · exact .inl List.mem_cons_self
        · exact (ih hrest).imp_left (List.mem_cons_of_mem first)

theorem changeEnds_plurals : ChangeEnds plurals := by
  have hie : Rule.ChangesEnd fun stem =>
      if stem.length < 2 then some (stem ++ ['i', 'e']) else some (stem ++ ['i']) := by
    intro stem result hrule
    beta_reduce at hrule
    split at hrule
    · obtain rfl := Option.some.inj hrule
      exact .append_letters (by decide)
    · obtain rfl := Option.some.inj hrule
      exact .append_letters (by decide)
  simp only [plurals, ChangeEnds, List.forall_mem_cons]
  exact ⟨changesEnd_become (by decide), hie, hie, changesEnd_guarded changesEnd_delete,
    changesEnd_none, changesEnd_none, List.forall_mem_nil _⟩

theorem endChanged_dropPlural (word : List Char) : EndChanged word (dropPlural word) :=
  (endChanged_applyLongest (changeEnds_sameRule changesEnd_delete) word).trans
    (endChanged_applyLongest changeEnds_plurals _)

theorem endChanged_mendStem (regions : Regions) (stem : List Char) :
    EndChanged stem (mendStem regions stem) := by
  have happend : EndChanged stem (stem ++ ['e']) := .append_letters (by decide)
  rw [mendStem]
  split
  · exact happend
  · split
    · exact .of_beginning (List.dropLast_prefix stem)
    · split
      · exact happend
      · exact .refl stem

theorem changeEnds_participles (regions : Regions) : ChangeEnds (participles regions) :=
  changeEnds_append (changeEnds_sameRule (changesEnd_guarded (changesEnd_become (by decide))))
    (changeEnds_sameRule (changesEnd_guarded (changesEnd_some (endChanged_mendStem regions))))

theorem endChanged_softenY (word : List Char) : EndChanged word (softenY word) := by
  rw [softenY]
  split
  · next last before first rest hreverse =>
      split
      · have hword : word = (before :: first :: rest).reverse ++ [last] := by
          rw [← List.reverse_cons, ← hreverse, List.reverse_reverse]
        refine ⟨(before :: first :: rest).reverse, ['i'], ?_, by decide, List.reverse_cons⟩
        rw [hword]
        exact List.prefix_append _ _
      · exact .refl word
  · exact .refl word

theorem changeEnds_compounds : ChangeEnds compounds := by
  have hog : (Rule.guarded (endsWith "l") (.become "og")).ChangesEnd :=
    changesEnd_guarded (changesEnd_become (by decide))
  simp (disch := decide) [compounds, ChangeEnds, changesEnd_become, hog,
    changesEnd_guarded changesEnd_delete]

theorem changeEnds_adjectives (regions : Regions) : ChangeEnds (adjectives regions) := by
  simp (disch := decide) [adjectives, ChangeEnds, changesEnd_become, changesEnd_delete,
    changesEnd_guarded changesEnd_delete]

theorem changeEnds_residues : ChangeEnds residues := by
  apply changeEnds_append (changeEnds_sameRule changesEnd_delete)
  simp [ChangeEnds, changesEnd_guarded, changesEnd_delete]

theorem changeEnds_finals (regions : Regions) : ChangeEnds (finals regions) := by
  simp [finals, ChangeEnds, changesEnd_guarded, changesEnd_delete]

theorem endChanged_applyIn (holds : List Char → Bool) {rules : List (String × Rule)}
    (hrules : ChangeEnds rules) (word : List Char) :
    EndChanged word (applyIn holds rules word) := by
  rw [applyIn]
  split
  · next stem rule hlongest =>
      obtain ⟨hfront, suffix, -, hentry⟩ := of_longestSuffix? hlongest
      exact .getD fun result hrule => (EndChanged.of_beginning hfront).trans
        (changesEnd_guarded (hrules _ hentry) stem result hrule)
  · exact .refl word

theorem endChanged_dropDerivation (regions : Regions) (word : List Char) :
    EndChanged word (dropDerivation regions word) :=
  endChanged_applyIn _ (changeEnds_participles regions) word
    |>.trans (endChanged_softenY _)
    |>.trans (endChanged_applyIn _ changeEnds_compounds _)
    |>.trans (endChanged_applyIn _ (changeEnds_adjectives regions) _)
    |>.trans (endChanged_applyIn _ changeEnds_residues _)
    |>.trans (endChanged_applyIn _ (changeEnds_finals regions) _)

theorem speltFrom_regularStem (word : List Char) : SpeltFrom word (regularStem word) := by
  rw [regularStem]
  set bare := if word.head? = some '\'' then word.drop 1 else word with hbare
  set marked := markConsonants true bare with hmarked
  have hsubset : bare ⊆ word := by
    rw [hbare]
    split
    · exact List.drop_subset 1 word
    · exact List.Subset.refl word
  have hstem : EndChanged marked
      (if uninflected.any (·.toList = dropPlural marked) then dropPlural marked
        else dropDerivation (.of marked) (dropPlural marked)) := by
    split
    · exact endChanged_dropPlural marked
    · exact (endChanged_dropPlural marked).trans (endChanged_dropDerivation _ _)
  split
  · next hunmarked =>
      rw [hunmarked] at hstem ⊢
      exact hstem.speltFrom.mono hsubset
  · -- Every mark is taken out again.
    intro d hd
    obtain ⟨c, hc, rfl⟩ := List.mem_map.mp hd
    by_cases hmark : c = 'Y'
    · rw [if_pos hmark]
      exact .inr (by decide)
    · rw [if_neg hmark]
      rcases hstem.speltFrom c hc with hc | hwritten
      · exact .inl (hsubset ((mem_markConsonants hc).resolve_right hmark))
      · exact .inr hwritten

theorem speltFrom_stem (word : List Char) : SpeltFrom word (stem word) := by
  rw [stem]
  split
  · next entry special hfind =>
      have hspecial : exceptions.all (fun entry =>
        entry.2.toList.all (plainLetters.contains ·)) := by decide
      have hletters := List.all_eq_true.mp hspecial _ (List.mem_of_find?_eq_some hfind)
      intro c hc
      have hletter : c ∈ plainLetters := by simpa using List.all_eq_true.mp hletters c hc
      exact .inr (plainLetters_subset_writtenLetters hletter)
  · split
    · exact EndChanged.speltFrom (.refl word)
    · exact speltFrom_regularStem word

section Numbers

variable {word : List Char} (hnumber : ∀ c ∈ word, Text.isNumeric c)

include hnumber

theorem markConsonants_number (asConsonant : Bool) : markConsonants asConsonant word = word := by
  induction word generalizing asConsonant with
  | nil => rfl
  | cons c rest ih =>
      obtain ⟨hfirst, hrest⟩ := List.forall_mem_cons.mp hnumber
      have hplain : c ≠ 'y' := by
        rintro rfl
        exact not_isNumeric_of_mem_soughtCharacters (by decide) hfirst
      simp [markConsonants, hplain, ih hrest]

theorem dropPlural_number : dropPlural word = word := by
  have hgenitives : NoNumbers (genitives.map (·.1)) := noNumbers_of_sought (by decide)
  have hplurals : NoNumbers (plurals.map (·.1)) := noNumbers_of_sought (by decide)
  rw [dropPlural, hgenitives.applyLongest?_eq_none hnumber, Option.getD_none,
    hplurals.applyLongest?_eq_none hnumber, Option.getD_none]

theorem softenY_number : softenY word = word := by
  rw [softenY]
  split
  · next last before first rest hreverse =>
      have hlast : Text.isNumeric last := by
        apply hnumber
        rw [← List.mem_reverse, hreverse]
        exact List.mem_cons_self
      rw [if_neg]
      rintro hsoft
      simp only [Bool.and_eq_true, Bool.or_eq_true, decide_eq_true_iff] at hsoft
      rcases hsoft.1 with rfl | rfl
      · exact not_isNumeric_of_mem_soughtCharacters (by decide) hlast
      · exact not_isNumeric_of_mem_soughtCharacters (by decide) hlast
  · rfl

theorem applyIn_number {holds : List Char → Bool} {rules : List (String × Rule)}
    (hsuffixes : NoNumbers (rules.map (·.1))) : applyIn holds rules word = word := by
  rw [applyIn, hsuffixes.longestSuffix?_eq_none hnumber]

theorem dropDerivation_number (regions : Regions) : dropDerivation regions word = word := by
  -- The regions have a say in the rules of a table but not in its suffixes.
  have hparticiples : NoNumbers ((participles regions).map (·.1)) := by
    simp only [participles, List.map_append, map_fst_sameRule]
    exact noNumbers_of_sought (by decide)
  have hcompounds : NoNumbers (compounds.map (·.1)) := noNumbers_of_sought (by decide)
  have hadjectives : NoNumbers ((adjectives regions).map (·.1)) := by
    simp only [adjectives, List.map_cons, List.map_nil]
    exact noNumbers_of_sought (by decide)
  have hresidues : NoNumbers (residues.map (·.1)) := noNumbers_of_sought (by decide)
  have hfinals : NoNumbers ((finals regions).map (·.1)) := by
    simp only [finals, List.map_cons, List.map_nil]
    exact noNumbers_of_sought (by decide)
  simp only [dropDerivation, applyIn_number hnumber hparticiples, softenY_number hnumber,
    applyIn_number hnumber hcompounds, applyIn_number hnumber hadjectives,
    applyIn_number hnumber hresidues, applyIn_number hnumber hfinals]

/-- A number is its own stem. -/
theorem stem_number : stem word = word := by
  have hexceptions : NoNumbers (exceptions.map (·.1)) := noNumbers_of_sought (by decide)
  have huninflected : NoNumbers uninflected := noNumbers_of_sought (by decide)
  have hregular : exceptions.find? (·.1.toList = word) = none := by
    apply List.find?_eq_none.mpr
    intro entry hentry hword
    apply hexceptions.not_suffix hnumber (List.mem_map_of_mem hentry)
    rw [decide_eq_true_iff.mp hword]
  have hinflected : uninflected.any (·.toList = word) = false := by
    apply List.any_eq_false.mpr
    intro other hother hword
    apply huninflected.not_suffix hnumber hother
    rw [decide_eq_true_iff.mp hword]
  have hbare : word.head? ≠ some '\'' := by
    intro hquote
    exact not_isNumeric_of_mem_soughtCharacters (by decide)
      (hnumber _ (List.mem_of_head? hquote))
  simp only [stem, hregular, regularStem, if_neg hbare, markConsonants_number hnumber,
    dropPlural_number hnumber, hinflected, dropDerivation_number hnumber, if_true, ite_self,
    Bool.false_eq_true]

end Numbers

end English

/-! ## Portuguese -/

namespace Portuguese

/-! ### Nasal vowels

Every tilde that the stemmer puts into a word follows its vowel.  This stays so when characters
are taken off the end, so joining takes all tildes out. -/

/-- Tildes follow the vowels that they make nasal. -/
inductive NasalsSpelt : List Char → Prop where
  | nil : NasalsSpelt []
  | nasal {vowel : Char} {rest : List Char} :
    vowel = 'a' ∨ vowel = 'o' → NasalsSpelt rest → NasalsSpelt (vowel :: '~' :: rest)
  | other {c : Char} {rest : List Char} : c ≠ '~' → NasalsSpelt rest → NasalsSpelt (c :: rest)

theorem NasalsSpelt.of_not_mem {word : List Char} (hword : '~' ∉ word) : NasalsSpelt word := by
  induction word with
  | nil => exact .nil
  | cons c rest ih =>
      exact .other (List.ne_of_not_mem_cons hword).symm (ih (List.not_mem_of_not_mem_cons hword))

theorem NasalsSpelt.of_beginning {word front : List Char} (hspelt : NasalsSpelt word)
    (hfront : front <+: word) : NasalsSpelt front := by
  induction hspelt generalizing front with
  | nil =>
      rw [List.prefix_nil.mp hfront]
      exact .nil
  | nasal hvowel _ ih =>
      rcases List.prefix_cons_iff.mp hfront with rfl | ⟨others, rfl, hothers⟩
      · exact .nil
      · rcases List.prefix_cons_iff.mp hothers with rfl | ⟨behind, rfl, hbehind⟩
        · apply NasalsSpelt.other _ .nil
          rintro rfl
          simp at hvowel
        · exact .nasal hvowel (ih hbehind)
  | other hplain _ ih =>
      rcases List.prefix_cons_iff.mp hfront with rfl | ⟨others, rfl, hothers⟩
      · exact .nil
      · exact .other hplain (ih hothers)

theorem NasalsSpelt.append {first second : List Char} (hfirst : NasalsSpelt first)
    (hsecond : NasalsSpelt second) : NasalsSpelt (first ++ second) := by
  induction hfirst with
  | nil => exact hsecond
  | nasal hvowel _ ih => exact .nasal hvowel ih
  | other hplain _ ih => exact .other hplain ih

theorem NasalsSpelt.endChanged {word result : List Char} (hspelt : NasalsSpelt word)
    (hchanged : EndChanged word result) : NasalsSpelt result := by
  obtain ⟨kept, ending, hkept, hletters, rfl⟩ := hchanged
  apply (hspelt.of_beginning hkept).append
  apply NasalsSpelt.of_not_mem
  intro htilde
  exact absurd (hletters htilde) (by decide)

theorem nasalsSpelt_spellNasals {word : List Char} (hword : '~' ∉ word) :
    NasalsSpelt (spellNasals word) := by
  induction word with
  | nil => exact .nil
  | cons c rest ih =>
      rw [spellNasals, List.flatMap_cons]
      apply NasalsSpelt.append _ (ih (List.not_mem_of_not_mem_cons hword))
      split
      · exact .nasal (.inl rfl) .nil
      · split
        · exact .nasal (.inr rfl) .nil
        · exact .other (List.ne_of_not_mem_cons hword).symm .nil

theorem mem_spellNasals {c : Char} {word : List Char} (hc : c ∈ spellNasals word) :
    c ∈ word ∨ c ∈ plainLetters ∨ c = '~' := by
  obtain ⟨source, hsource, hc⟩ := List.mem_flatMap.mp hc
  split at hc
  · rcases List.mem_pair.mp hc with rfl | rfl
    · exact .inr (.inl (by decide))
    · exact .inr (.inr rfl)
  · split at hc
    · rcases List.mem_pair.mp hc with rfl | rfl
      · exact .inr (.inl (by decide))
      · exact .inr (.inr rfl)
    · rw [List.mem_singleton.mp hc]
      exact .inl hsource

theorem speltFrom_joinNasals (word : List Char) : SpeltFrom word (joinNasals word) := by
  fun_induction joinNasals word with
  | case1 rest ih =>
      have hrest : SpeltFrom ('a' :: '~' :: rest) (joinNasals rest) :=
        ih.mono fun _ hc => List.mem_cons_of_mem _ (List.mem_cons_of_mem _ hc)
      exact List.forall_mem_cons.mpr ⟨.inr (by decide), hrest⟩
  | case2 rest ih =>
      have hrest : SpeltFrom ('o' :: '~' :: rest) (joinNasals rest) :=
        ih.mono fun _ hc => List.mem_cons_of_mem _ (List.mem_cons_of_mem _ hc)
      exact List.forall_mem_cons.mpr ⟨.inr (by decide), hrest⟩
  | case3 c rest _ _ ih =>
      have hrest : SpeltFrom (c :: rest) (joinNasals rest) := ih.mono (List.subset_cons_self c rest)
      exact List.forall_mem_cons.mpr ⟨.inl List.mem_cons_self, hrest⟩
  | case4 => exact EndChanged.speltFrom (.refl [])

/-- A vowel and its tilde may be left off. -/
theorem NasalsSpelt.behind_tilde {c : Char} {rest : List Char}
    (hspelt : NasalsSpelt (c :: '~' :: rest)) : NasalsSpelt rest := by
  cases hspelt with
  | nasal _ hrest => exact hrest
  | other _ hrest =>
      -- The tilde itself cannot begin a spelling.
      cases hrest with
      | nasal hvowel => simp at hvowel
      | other htilde => exact absurd rfl htilde

/-- Joining takes out every tilde that follows its vowel. -/
theorem tilde_not_mem_joinNasals {word : List Char} (hspelt : NasalsSpelt word) :
    '~' ∉ joinNasals word := by
  fun_induction joinNasals word with
  | case1 rest ih =>
      exact List.not_mem_cons_of_ne_of_not_mem (by decide) (ih hspelt.behind_tilde)
  | case2 rest ih =>
      exact List.not_mem_cons_of_ne_of_not_mem (by decide) (ih hspelt.behind_tilde)
  | case3 c rest hnotA hnotO ih =>
      cases hspelt with
      | nasal hvowel =>
          rcases hvowel with rfl | rfl
          · exact absurd rfl (hnotA _ rfl)
          · exact absurd rfl (hnotO _ rfl)
      | other hplain hrest =>
          exact List.not_mem_cons_of_ne_of_not_mem hplain.symm (ih hrest)
  | case4 => exact List.not_mem_nil

theorem joinNasals_eq_self {word : List Char} (hword : '~' ∉ word) : joinNasals word = word := by
  fun_induction joinNasals word with
  | case1 => simp at hword
  | case2 => simp at hword
  | case3 c rest _ _ ih => rw [ih (List.not_mem_of_not_mem_cons hword)]
  | case4 => rfl

/-! ### Steps -/

theorem endChanged_thenDelete (regions : Regions) (suffixes : List String) (word : List Char) :
    EndChanged word (thenDelete regions suffixes word) :=
  endChanged_applyLongest (changeEnds_sameRule (changesEnd_guarded changesEnd_delete)) word

theorem endChanged_dropAdverbStem (regions : Regions) (word : List Char) :
    EndChanged word (dropAdverbStem regions word) := by
  rw [dropAdverbStem]
  split
  · next stem mayFollowAt hlongest =>
      have hstem : EndChanged word stem := .of_beginning (of_longestSuffix? hlongest).1
      split
      · split
        · exact hstem.trans (endChanged_thenDelete regions _ stem)
        · exact hstem
      · exact .refl word
  · exact .refl word

theorem changeEnds_standards (regions : Regions) : ChangeEnds (standards regions) := by
  have hbecome {condition : List Char → Bool} {text : String}
      (hletters : text.toList.all (plainLetters.contains ·)) :
      (Rule.guarded condition (.become text)).ChangesEnd :=
    changesEnd_guarded (changesEnd_become hletters)
  have hthen (condition : List Char → Bool) (suffixes : List String) :
      (Rule.guarded condition fun stem => some (thenDelete regions suffixes stem)).ChangesEnd :=
    changesEnd_guarded (changesEnd_some (endChanged_thenDelete regions suffixes))
  have hadverbs : ChangeEnds [
      ("amente", .guarded regions.holdsFirst fun stem => some (dropAdverbStem regions stem)),
      ("mente", .guarded regions.holdsSecond
        fun stem => some (thenDelete regions ["ante", "avel", "ível"] stem))] := by
    simp only [ChangeEnds, List.forall_mem_cons]
    exact ⟨changesEnd_guarded (changesEnd_some (endChanged_dropAdverbStem regions)), hthen _ _,
      List.forall_mem_nil _⟩
  rw [standards]
  apply changeEnds_append
  case hsecond => exact changeEnds_sameRule (hbecome (by decide))
  apply changeEnds_append
  case hsecond => exact changeEnds_sameRule (hthen _ _)
  apply changeEnds_append
  case hsecond => exact changeEnds_sameRule (hthen _ _)
  apply changeEnds_append
  case hsecond => exact hadverbs
  apply changeEnds_append
  case hsecond => exact changeEnds_sameRule (hbecome (by decide))
  apply changeEnds_append
  case hsecond => exact changeEnds_sameRule (hbecome (by decide))
  apply changeEnds_append
  case hsecond => exact changeEnds_sameRule (hbecome (by decide))
  exact changeEnds_sameRule (changesEnd_guarded changesEnd_delete)

theorem endChanged_of_dropVerbEnding? {regions : Regions} {word result : List Char}
    (hdrop : dropVerbEnding? regions word = some result) : EndChanged word result := by
  rw [dropVerbEnding?] at hdrop
  split at hdrop
  · obtain ⟨ending, happly, rfl⟩ := Option.map_eq_some_iff.mp hdrop
    have hending := endChanged_of_applyLongest? (changeEnds_sameRule changesEnd_delete) happly
    have hword := hending.append_left (word.take regions.verb)
    rwa [List.take_append_drop] at hword
  · cases hdrop

theorem endChanged_dropSoftI (regions : Regions) (word : List Char) :
    EndChanged word (dropSoftI regions word) := by
  apply endChanged_applyLongest
  exact List.forall_mem_singleton.mpr (changesEnd_guarded changesEnd_delete)

theorem endChanged_dropResidue (regions : Regions) (word : List Char) :
    EndChanged word (dropResidue regions word) :=
  endChanged_applyLongest (changeEnds_sameRule (changesEnd_guarded changesEnd_delete)) word

theorem endChanged_dropSoftening (regions : Regions) (word : List Char) :
    EndChanged word (dropSoftening regions word) := by
  apply endChanged_applyLongest
  simp only [ChangeEnds, List.forall_mem_cons]
  exact ⟨changesEnd_guarded changesEnd_delete, changesEnd_guarded changesEnd_delete,
    List.forall_mem_nil _⟩

theorem endChanged_dropFinalE (regions : Regions) (word : List Char) :
    EndChanged word (dropFinalE regions word) := by
  apply endChanged_applyLongest
  apply changeEnds_append
  · exact changeEnds_sameRule
      (changesEnd_guarded (changesEnd_some (endChanged_dropSoftening regions)))
  · exact List.forall_mem_singleton.mpr (changesEnd_become (by decide))

/-- However a word is shortened while its nasals are spelt out, the stem is spelt from the word. -/
theorem speltFrom_joinNasals_dropFinalE {word shortened : List Char}
    (hshortened : EndChanged (spellNasals word) shortened) :
    SpeltFrom word (joinNasals (dropFinalE (.of (spellNasals word)) shortened)) := by
  have hchanged := hshortened.trans (endChanged_dropFinalE (.of (spellNasals word)) shortened)
  intro c hc
  rcases speltFrom_joinNasals _ c hc with hleft | hwritten
  · rcases hchanged.speltFrom c hleft with hspelt | hwritten
    · rcases mem_spellNasals hspelt with hword | hletter | rfl
      · exact .inl hword
      · exact .inr (plainLetters_subset_writtenLetters hletter)
      · -- A tilde that is left was in the word.
        by_contra hnone
        obtain ⟨hword, -⟩ := not_or.mp hnone
        exact tilde_not_mem_joinNasals
          ((nasalsSpelt_spellNasals hword).endChanged hchanged) hc
    · exact .inr hwritten
  · exact .inr hwritten

theorem speltFrom_stem (word : List Char) : SpeltFrom word (stem word) := by
  unfold stem
  apply speltFrom_joinNasals_dropFinalE
  split
  · next shorter hstep =>
      apply EndChanged.trans _ (endChanged_dropSoftI _ shorter)
      rcases Option.or_eq_some_iff.mp hstep with hstandard | ⟨-, hverb⟩
      · exact endChanged_of_applyLongest? (changeEnds_standards _) hstandard
      · exact endChanged_of_dropVerbEnding? hverb
  · exact endChanged_dropResidue _ (spellNasals word)

section Numbers

variable {word : List Char} (hnumber : ∀ c ∈ word, Text.isNumeric c)

include hnumber

theorem spellNasals_number : spellNasals word = word := by
  induction word with
  | nil => rfl
  | cons c rest ih =>
      obtain ⟨hfirst, hrest⟩ := List.forall_mem_cons.mp hnumber
      have hnasals : c ≠ 'ã' ∧ c ≠ 'õ' := by
        constructor
        · rintro rfl
          exact not_isNumeric_of_mem_soughtCharacters (by decide) hfirst
        · rintro rfl
          exact not_isNumeric_of_mem_soughtCharacters (by decide) hfirst
      rw [spellNasals, List.flatMap_cons, if_neg hnasals.1, if_neg hnasals.2]
      exact congrArg (c :: ·) (ih hrest)

theorem dropVerbEnding?_number (regions : Regions) : dropVerbEnding? regions word = none := by
  have hendings : NoNumbers ((sameRule verbEndings .delete).map (·.1)) := by
    rw [map_fst_sameRule]
    exact noNumbers_of_sought (by decide)
  have hrest : ∀ c ∈ word.drop regions.verb, Text.isNumeric c :=
    fun c hc => hnumber c (List.mem_of_mem_drop hc)
  simp [dropVerbEnding?, hendings.applyLongest?_eq_none hrest]

theorem dropResidue_number (regions : Regions) : dropResidue regions word = word := by
  have hresidues : NoNumbers ((sameRule ["os", "a", "i", "o", "á", "í", "ó"]
      (.guarded regions.holdsVerb .delete)).map (·.1)) := by
    rw [map_fst_sameRule]
    exact noNumbers_of_sought (by decide)
  rw [dropResidue, hresidues.applyLongest?_eq_none hnumber, Option.getD_none]

theorem dropFinalE_number (regions : Regions) : dropFinalE regions word = word := by
  rw [dropFinalE, NoNumbers.applyLongest?_eq_none _ hnumber, Option.getD_none]
  simp only [List.map_append, map_fst_sameRule, List.map_cons, List.map_nil]
  exact noNumbers_of_sought (by decide)

/-- A number is its own stem. -/
theorem stem_number : stem word = word := by
  have hstandards (regions : Regions) : NoNumbers ((standards regions).map (·.1)) := by
    simp only [standards, List.map_append, map_fst_sameRule, List.map_cons, List.map_nil]
    exact noNumbers_of_sought (by decide)
  have htilde : '~' ∉ word := by
    intro hmem
    exact not_isNumeric_of_mem_soughtCharacters (by decide) (hnumber _ hmem)
  simp only [stem, spellNasals_number hnumber, (hstandards _).applyLongest?_eq_none hnumber,
    dropVerbEnding?_number hnumber, Option.or_none, dropResidue_number hnumber,
    dropFinalE_number hnumber, joinNasals_eq_self htilde]

end Numbers

end Portuguese

end Stem

namespace Language

variable (language : Language) {word : String}

/-- The stem of a word is spelt with characters of the word and those that the stemmers write. -/
theorem speltFrom_stem (word : String) :
    Stem.SpeltFrom word.toList (language.stem word).toList := by
  cases language with
  | english =>
      rw [stem, String.toList_ofList]
      exact Stem.English.speltFrom_stem word.toList
  | portuguese =>
      rw [stem, String.toList_ofList]
      exact Stem.Portuguese.speltFrom_stem word.toList

/-- What holds of the characters of a word and of those that the stemmers write holds of the
characters of the stem. -/
theorem forall_mem_stem {holds : Char → Bool} (hwritten : Stem.writtenLetters.all holds)
    (hword : ∀ c ∈ word.toList, holds c) : ∀ c ∈ (language.stem word).toList, holds c := by
  intro c hc
  rcases language.speltFrom_stem word c hc with hc | hc
  · exact hword c hc
  · exact List.all_eq_true.mp hwritten c hc

/-- The stem of a word without blanks has none. -/
theorem no_blank_stem (hword : ∀ c ∈ word.toList, Text.isBlank c = false) :
    ∀ c ∈ (language.stem word).toList, Text.isBlank c = false := by
  have hletters : Stem.writtenLetters.all (!Text.isBlank ·) := by decide +kernel
  simpa using language.forall_mem_stem hletters (by simpa using hword)

/-- The stem of a word of letters is one, or nothing is left. -/
theorem letters_stem (hword : ∀ c ∈ word.toList, Text.isAlphabetic c) :
    ∀ c ∈ (language.stem word).toList, Text.isAlphabetic c :=
  language.forall_mem_stem (by decide +kernel) hword

/-- A number is its own stem. -/
theorem stem_number (hnumber : ∀ c ∈ word.toList, Text.isNumeric c) :
    language.stem word = word := by
  cases language with
  | english => rw [stem, Stem.English.stem_number hnumber, String.ofList_toList]
  | portuguese => rw [stem, Stem.Portuguese.stem_number hnumber, String.ofList_toList]

end Language

end BooleanRetrieval
