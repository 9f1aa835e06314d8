/-
# JSON strings

How characters may be spelt between quotes: as they are, by a letter behind a backslash, or by
the code units of their number.  What is decoded is what is spelt, and a string that is passed
over ends where it ends when it is decoded.  Every text can be spelt, and a text that is written
spells itself.
-/

import BooleanRetrieval.Json.Text
import Mathlib

namespace BooleanRetrieval.Json

/-! ## Beginnings -/

/-- A text begins with blanks, perhaps none; the rest comes last. -/
def Spaced (chars rest : List Char) : Prop :=
  ∃ blanks, (∀ c ∈ blanks, isSpace c) ∧ chars = blanks ++ rest

section Beginnings

variable {chars rest : List Char} {c : Char}

theorem Spaced.refl (chars : List Char) : Spaced chars chars :=
  ⟨[], by simp, rfl⟩

theorem Spaced.length_le (hspaced : Spaced chars rest) : rest.length ≤ chars.length := by
  obtain ⟨blanks, -, rfl⟩ := hspaced
  simp

/-- Blanks are dropped up to the first other character. -/
theorem dropSpace_eq_cons_iff :
    dropSpace chars = c :: rest ↔ Spaced chars (c :: rest) ∧ isSpace c = false := by
  constructor
  · intro hdrop
    have hfirst := List.head?_dropWhile_not isSpace chars
    rw [← dropSpace, hdrop, List.head?_cons] at hfirst
    refine ⟨⟨chars.takeWhile isSpace, fun d hd => List.mem_takeWhile_imp hd, ?_⟩, ?_⟩
    · rw [← hdrop, dropSpace, List.takeWhile_append_dropWhile]
    · simpa using hfirst
  · rintro ⟨⟨blanks, hblanks, rfl⟩, hc⟩
    rw [dropSpace, List.dropWhile_append_of_pos hblanks, List.dropWhile_cons_of_neg (by simp [hc])]

/-- Blanks up to the end are dropped. -/
theorem dropSpace_eq_nil_iff : dropSpace chars = [] ↔ Spaced chars [] := by
  rw [dropSpace, List.dropWhile_eq_nil_iff, Spaced]
  simp

@[simp] theorem dropSpace_dropSpace (chars : List Char) :
    dropSpace (dropSpace chars) = dropSpace chars :=
  List.dropWhile_idempotent isSpace chars

theorem expect_eq_some_iff {beginning : String} :
    expect beginning chars = some rest ↔ chars = beginning.toList ++ rest := by
  rw [expect]
  split
  · next hprefix =>
      obtain ⟨others, rfl⟩ := List.isPrefixOf_iff_prefix.mp hprefix
      rw [← String.length_toList, List.drop_left]
      simp
  · next hprefix =>
      simp only [reduceCtorEq, false_iff]
      rintro rfl
      exact hprefix (List.isPrefixOf_iff_prefix.mpr (List.prefix_append _ _))

/-- A word that begins with no blank is expected behind the blanks. -/
theorem expect_dropSpace_eq_some_iff {word : String}
    (hword : word.toList.head?.any fun c => !isSpace c) :
    expect word (dropSpace chars) = some rest ↔ Spaced chars (word.toList ++ rest) := by
  rw [expect_eq_some_iff]
  cases hchars : word.toList with
  | nil =>
      rw [hchars] at hword
      cases hword
  | cons c others =>
      rw [hchars] at hword
      exact dropSpace_eq_cons_iff.trans (and_iff_left (by simpa using hword))

end Beginnings

/-! ## Spellings -/

/-- What follows an opening quote spells a sequence of characters, up to the closing quote; the
rest comes last. -/
inductive Spells : List Char → List Char → List Char → Prop where
  | close {rest : List Char} : Spells ('"' :: rest) [] rest
  | plain {c : Char} {chars content rest : List Char} : 0x20 ≤ c.toNat → c ≠ '"' → c ≠ '\\' →
      Spells chars content rest → Spells (c :: chars) (c :: content) rest
  | short {c d : Char} {chars content rest : List Char} : shortEscape? c = some d →
      Spells chars content rest → Spells ('\\' :: c :: chars) (d :: content) rest
  | unit {a b c d : Char} {unit : Nat} {chars content rest : List Char} :
      hexUnit? a b c d = some unit → isHighSurrogate unit = false → isLowSurrogate unit = false →
      Spells chars content rest →
      Spells ('\\' :: 'u' :: a :: b :: c :: d :: chars) (Char.ofNat unit :: content) rest
  | pair {a b c d e f g h : Char} {high low : Nat} {chars content rest : List Char} :
      hexUnit? a b c d = some high → isHighSurrogate high →
      hexUnit? e f g h = some low → isLowSurrogate low →
      Spells chars content rest →
      Spells ('\\' :: 'u' :: a :: b :: c :: d :: '\\' :: 'u' :: e :: f :: g :: h :: chars)
        (joinSurrogates high low :: content) rest

/-- What follows an opening quote is a string up to the closing quote, be it that it has half of
a surrogate pair. -/
inductive Literal : List Char → List Char → Prop where
  | close {rest : List Char} : Literal ('"' :: rest) rest
  | plain {c : Char} {chars rest : List Char} : 0x20 ≤ c.toNat → c ≠ '"' → c ≠ '\\' →
      Literal chars rest → Literal (c :: chars) rest
  | short {c : Char} {chars rest : List Char} : (shortEscape? c).isSome → Literal chars rest →
      Literal ('\\' :: c :: chars) rest
  | unit {a b c d : Char} {chars rest : List Char} : (hexUnit? a b c d).isSome →
      Literal chars rest → Literal ('\\' :: 'u' :: a :: b :: c :: d :: chars) rest

section Spellings

variable {c : Char} {chars content rest : List Char}

theorem Spells.literal (hspells : Spells chars content rest) : Literal chars rest := by
  induction hspells with
  | close => exact .close
  | plain hprinted hquote hbackslash _ ih => exact .plain hprinted hquote hbackslash ih
  | short hescape _ ih => exact .short (by simp [hescape]) ih
  | unit hunit _ _ _ ih => exact .unit (by simp [hunit]) ih
  | pair hhigh _ hlow _ _ ih => exact .unit (by simp [hhigh]) (.unit (by simp [hlow]) ih)

/-- The letter of a code unit is no escape of its own. -/
theorem ne_of_shortEscape? (hescape : (shortEscape? c).isSome) : c ≠ 'u' := by
  rintro rfl
  cases hescape

/-- A string is passed over to its closing quote. -/
theorem Literal.skipString (hliteral : Literal chars rest) : skipString chars = some rest := by
  induction hliteral with
  | close => rw [Json.skipString]
  | plain hprinted hquote hbackslash _ ih =>
      rw [Json.skipString, if_neg (by simp [hbackslash, hprinted]), ih]
      all_goals simp [hquote, hbackslash]
  | short hescape _ ih =>
      rw [Json.skipString, if_pos hescape, ih]
      simp [ne_of_shortEscape? hescape]
  | unit hunit _ ih => rw [Json.skipString, if_pos hunit, ih]

theorem Literal.length_lt (hliteral : Literal chars rest) : rest.length < chars.length := by
  induction hliteral with
  | close => simp
  | plain _ _ _ _ ih => exact Nat.lt_succ_of_lt ih
  | short _ _ ih => simp only [List.length_cons]; omega
  | unit _ _ ih => simp only [List.length_cons]; omega

theorem Spells.readString (hspells : Spells chars content rest) :
    readString chars = some (content, rest) := by
  induction hspells with
  | close => rw [Json.readString]
  | plain hprinted hquote hbackslash _ ih =>
      rw [Json.readString, if_neg (by simp [hbackslash, hprinted]), ih]
      · rfl
      all_goals simp [hquote, hbackslash]
  | short hescape _ ih =>
      rw [Json.readString, hescape, ih]
      · rfl
      · simp [ne_of_shortEscape? (Option.isSome_iff_exists.mpr ⟨_, hescape⟩)]
  | unit hunit hhigh hlow _ ih => simp [Json.readString, hunit, hhigh, hlow, ih]
  | pair hfirst hhigh hsecond hlow _ ih => simp [Json.readString, hfirst, hsecond, hhigh, hlow, ih]

theorem map_cons_eq_some_iff {result : Option (List Char × List Char)} :
    (result.map fun (chars, rest) => (c :: chars, rest)) = some (content, rest) ↔
      ∃ others, content = c :: others ∧ result = some (others, rest) := by
  constructor
  · intro hmap
    obtain ⟨⟨others, after⟩, hresult, heq⟩ := Option.map_eq_some_iff.mp hmap
    cases heq
    exact ⟨others, rfl, hresult⟩
  · rintro ⟨others, rfl, rfl⟩
    rfl

/-- What is decoded is what is spelt. -/
theorem readString_eq_some_iff :
    readString chars = some (content, rest) ↔ Spells chars content rest := by
  refine ⟨fun hread => ?_, Spells.readString⟩
  fun_induction Json.readString chars generalizing content rest with
  | case2 =>
      cases hread
      exact .close
  | case5 a b c d high hhigh hfirst e f g h others low hlow hsecond ih =>
      obtain ⟨further, rfl, hrest⟩ := map_cons_eq_some_iff.mp hread
      exact .pair hhigh hfirst hlow hsecond (ih hrest)
  | case9 a b c d others unit hunit hhigh hlow ih =>
      obtain ⟨further, rfl, hrest⟩ := map_cons_eq_some_iff.mp hread
      exact .unit hunit (by simpa using hhigh) (by simpa using hlow) (ih hrest)
  | case11 c others _ escaped hescape ih =>
      obtain ⟨further, rfl, hrest⟩ := map_cons_eq_some_iff.mp hread
      exact .short hescape (ih hrest)
  | case13 c others hquote _ _ hplain ih =>
      obtain ⟨further, rfl, hrest⟩ := map_cons_eq_some_iff.mp hread
      simp only [Bool.or_eq_true, decide_eq_true_eq, not_or, Nat.not_lt] at hplain
      exact .plain hplain.1 hquote hplain.2 (ih hrest)
  | _ => cases hread

end Spellings

/-! ## Texts and truth values -/

/-- A text begins with a string that spells another text, with blanks before it. -/
def IsText (value : String) (chars rest : List Char) : Prop :=
  ∃ body, Spaced chars ('"' :: body) ∧ Spells body value.toList rest

/-- A text begins with a truth value, with blanks before it. -/
def IsTruth (value : Bool) (chars rest : List Char) : Prop :=
  Spaced chars ((toString value).toList ++ rest)

section Values

variable {chars rest : List Char}

theorem stringValue?_eq_some_iff {value : String} :
    stringValue? chars = some (value, rest) ↔ IsText value chars rest := by
  have hquote (body : List Char) :
      expect "\"" (dropSpace chars) = some body ↔ Spaced chars ('"' :: body) :=
    expect_dropSpace_eq_some_iff (by decide)
  simp only [stringValue?, Option.bind_eq_bind, Option.bind_eq_some_iff, hquote, Prod.exists,
    readString_eq_some_iff, Option.pure_def, Option.some.injEq, Prod.mk.injEq, IsText]
  constructor
  · rintro ⟨body, hspaced, content, rest, hspells, rfl, rfl⟩
    exact ⟨body, hspaced, by rwa [String.toList_ofList]⟩
  · rintro ⟨body, hspaced, hspells⟩
    exact ⟨body, hspaced, value.toList, rest, hspells, String.ofList_toList, rfl⟩

@[simp] theorem stringValue?_dropSpace (chars : List Char) :
    stringValue? (dropSpace chars) = stringValue? chars := by
  simp [stringValue?]

theorem boolValue?_eq_some_iff {value : Bool} :
    boolValue? chars = some (value, rest) ↔ IsTruth value chars rest := by
  have htrue : IsTruth true chars rest ↔ expect "true" (dropSpace chars) = some rest :=
    (expect_dropSpace_eq_some_iff (by decide)).symm
  have hfalse : IsTruth false chars rest ↔ expect "false" (dropSpace chars) = some rest :=
    (expect_dropSpace_eq_some_iff (by decide)).symm
  have hother (hword : expect "false" (dropSpace chars) = some rest) :
      expect "true" (dropSpace chars) = none := by
    rw [expect_eq_some_iff.mp hword]
    rfl
  simp only [boolValue?]
  cases value with
  | true =>
      rw [htrue]
      cases expect "true" (dropSpace chars) with
      | some after => simp
      | none =>
          cases expect "false" (dropSpace chars) with
          | some after => simp
          | none => simp
  | false =>
      rw [hfalse]
      cases hword : expect "true" (dropSpace chars) with
      | some after =>
          simp only [Option.some.injEq, Prod.mk.injEq, Bool.true_eq_false, false_and, false_iff]
          intro hfalse
          rw [hother hfalse] at hword
          cases hword
      | none =>
          cases expect "false" (dropSpace chars) with
          | some after => simp
          | none => simp

end Values

/-! ## Written strings -/

/-- The code unit of a control character takes two digits. -/
theorem hexUnit?_of_control {value : Nat} (hcontrol : value < 0x20) :
    hexUnit? '0' '0' (hexDigit (value / 16)) (hexDigit (value % 16)) = some value ∧
      isHighSurrogate value = false ∧ isLowSurrogate value = false := by
  revert value
  decide

/-- A character is spelt as it is written. -/
theorem Spells.escape {chars content rest : List Char} (c : Char)
    (hspells : Spells chars content rest) : Spells (escape c ++ chars) (c :: content) rest := by
  rw [Json.escape]
  -- First come the escapes of one letter.
  iterate 7
    split
    · next heq =>
        subst heq
        exact .short rfl hspells
  split
  · next hcontrol =>
      obtain ⟨hunit, hhigh, hlow⟩ := hexUnit?_of_control hcontrol
      have hspelt := Spells.unit hunit hhigh hlow hspells
      rw [Char.ofNat_toNat] at hspelt
      exact hspelt
  · next hquote hbackslash _ _ _ _ _ hprinted =>
      exact .plain (Nat.le_of_not_lt hprinted) hquote hbackslash hspells

/-- A written string spells its text. -/
theorem isText_quote (text : String) (rest : List Char) :
    IsText text ((quote text).toList ++ rest) rest := by
  have hspells (content : List Char) :
      Spells (content.flatMap escape ++ '"' :: rest) content rest := by
    induction content with
    | nil => exact .close
    | cons c others ih =>
        rw [List.flatMap_cons, List.append_assoc]
        exact ih.escape c
  refine ⟨text.toList.flatMap escape ++ '"' :: rest, ?_, hspells text.toList⟩
  have hchars : (quote text).toList ++ rest =
      '"' :: (text.toList.flatMap escape ++ '"' :: rest) := by
    simp [quote]
  rw [hchars]
  exact .refl _

/-- Beyond the sixteen bits of a code unit, a character is spelt by two of them. -/
example : stringValue? (" \"\\ud83d\\ude00\\/\\u00E9\", 1").toList =
    some ("😀/é", ", 1".toList) := by
  decide +kernel

end BooleanRetrieval.Json
