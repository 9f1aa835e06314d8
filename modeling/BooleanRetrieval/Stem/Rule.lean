/-
# Suffix rules

Both stemmers change the end of a word by tables of suffix rules: the longest
suffix of a table that the word carries is taken off, and its rule says what to
put in its place, if anything may happen at all.  Whether a suffix may go depends
on where it starts, measured against regions of the word: a region is the number
of characters before it.
-/

namespace BooleanRetrieval.Stem

/-- What to make of a word whose suffix was taken off; nothing if the rule does
not apply to what is left. -/
abbrev Rule := List Char → Option (List Char)

namespace Rule

/-- Put a text in place of the suffix. -/
def become (text : String) : Rule :=
  fun stem => some (stem ++ text.toList)

/-- Leave the suffix off. -/
def delete : Rule := some

/-- Apply a rule only if what is left satisfies a condition. -/
def guarded (condition : List Char → Bool) (rule : Rule) : Rule :=
  fun stem => if condition stem then rule stem else none

end Rule

/-- What precedes a suffix, if the word carries it. -/
def stemBefore? (suffix word : List Char) : Option (List Char) :=
  if suffix.isSuffixOf word then some (word.take (word.length - suffix.length)) else none

/-- Whether a word ends with a text. -/
def endsWith (text : String) (word : List Char) : Bool :=
  text.toList.isSuffixOf word

/-- Of two matches the one with the longer suffix, which is the one with the
shorter stem. -/
def longerMatch {α : Type} (first second : Option (List Char × α)) : Option (List Char × α) :=
  match first, second with
  | some a, some b => if b.1.length < a.1.length then some b else some a
  | some a, none => some a
  | none, other => other

/-- What precedes the longest listed suffix that a word carries, and the entry of
that suffix. -/
def longestSuffix? {α : Type} (entries : List (String × α)) (word : List Char) :
    Option (List Char × α) :=
  entries.foldr
    (fun (suffix, value) found =>
      longerMatch ((stemBefore? suffix.toList word).map (·, value)) found)
    none

/-- Apply the rule of the longest listed suffix. -/
def applyLongest? (rules : List (String × Rule)) (word : List Char) : Option (List Char) := do
  let (stem, rule) ← longestSuffix? rules word
  rule stem

/-- A table of rules that all do the same. -/
def sameRule (suffixes : List String) (rule : Rule) : List (String × Rule) :=
  suffixes.map (·, rule)

/-- What follows the first character that has a property. -/
def afterFirst? (holds : Char → Bool) : List Char → Option (List Char)
  | [] => none
  | c :: rest => if holds c then some rest else afterFirst? holds rest

/-- What follows the first non-vowel that comes after a vowel. -/
def afterSyllable? (isVowel : Char → Bool) (chars : List Char) : Option (List Char) := do
  afterFirst? (!isVowel ·) (← afterFirst? isVowel chars)

/-- The number of characters of a word before its rest; a region that does not
exist starts at the end of the word. -/
def regionStart (word : List Char) (rest? : Option (List Char)) : Nat :=
  word.length - (rest?.getD []).length

end BooleanRetrieval.Stem
