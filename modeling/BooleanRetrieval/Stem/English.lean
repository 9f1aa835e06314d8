/-
# English stemming

A word loses its inflection first (plural, `-ed`, `-ing`), then its derivational
suffixes step by step.  `y` that
is a consonant, at the start of a word or after a vowel, is written `Y` while the
steps run.  The stemmer expects lower case and leaves other letters alone.
-/

import BooleanRetrieval.Stem.Rule

namespace BooleanRetrieval.Stem.English

/-- The vowels of the rules. -/
def isVowel (c : Char) : Bool :=
  "aeiouy".toList.contains c

/-- The letters that may be doubled at the end of a stem. -/
def doubled : List String :=
  ["bb", "dd", "ff", "gg", "mm", "nn", "pp", "rr", "tt"]

/-- Words with a stem of their own, and words that stay as they are. -/
def exceptions : List (String × String) := [
  ("skis", "ski"), ("skies", "sky"), ("dying", "die"), ("lying", "lie"), ("tying", "tie"),
  ("idly", "idl"), ("gently", "gentl"), ("ugly", "ugli"), ("early", "earli"),
  ("only", "onli"), ("singly", "singl"), ("sky", "sky"), ("news", "news"), ("howe", "howe"),
  ("atlas", "atlas"), ("cosmos", "cosmos"), ("bias", "bias"), ("andes", "andes")]

/-- Words that stay as they are once a plural ending is off. -/
def uninflected : List String :=
  ["inning", "outing", "canning", "herring", "earring", "proceed", "exceed", "succeed"]

/-- Write `Y` for each `y` that is a consonant; `asConsonant` says whether a `y`
in first place is one. -/
def markConsonants (asConsonant : Bool) : List Char → List Char
  | [] => []
  | c :: rest =>
    if c = 'y' && asConsonant then 'Y' :: markConsonants false rest
    else c :: markConsonants (isVowel c) rest

/-- Beginnings after which the first region starts at once. -/
def regionOpeners : List String :=
  ["gener", "commun", "arsen"]

/-- What follows the opener that a word begins with. -/
def afterOpener? (word : List Char) : Option (List Char) :=
  (regionOpeners.find? (·.toList.isPrefixOf word)).map fun opener => word.drop opener.length

/-- The first region: after the first consonant that follows a vowel. -/
def firstRegion? (word : List Char) : Option (List Char) :=
  (afterOpener? word).or (afterSyllable? isVowel word)

/-- Where the two regions of a word start. -/
structure Regions where
  first : Nat
  second : Nat

/-- The regions of a word: the second starts inside the first as the first does
inside the word. -/
def Regions.of (word : List Char) : Regions :=
  let first? := firstRegion? word
  ⟨regionStart word first?, regionStart word (first?.bind (afterSyllable? isVowel))⟩

/-- Whether a suffix after this stem lies in the first region. -/
def Regions.holdsFirst (regions : Regions) (stem : List Char) : Bool :=
  regions.first ≤ stem.length

/-- Whether a suffix after this stem lies in the second region. -/
def Regions.holdsSecond (regions : Regions) (stem : List Char) : Bool :=
  regions.second ≤ stem.length

/-- Whether a word ends in a short syllable: consonant, vowel and a consonant
other than `w`, `x` and `Y`, or a word of a vowel and a consonant. -/
def endsShort (word : List Char) : Bool :=
  match word.reverse with
  | last :: middle :: first :: _ =>
    !(isVowel last || "wxY".toList.contains last) && isVowel middle && !isVowel first
  | [last, first] => !isVowel last && isVowel first
  | _ => false

/-- Genitive endings. -/
def genitives : List (String × Rule) :=
  sameRule ["'", "'s", "'s'"] .delete

/-- Plural endings. -/
def plurals : List (String × Rule) := [
  ("sses", .become "ss"),
  ("ied", fun stem => if stem.length < 2 then some (stem ++ ['i', 'e']) else some (stem ++ ['i'])),
  ("ies", fun stem => if stem.length < 2 then some (stem ++ ['i', 'e']) else some (stem ++ ['i'])),
  ("s", .guarded (fun stem => stem.dropLast.any isVowel) .delete),
  ("us", fun _ => none),
  ("ss", fun _ => none)]

/-- Take off a genitive and then a plural ending. -/
def dropPlural (word : List Char) : List Char :=
  let singular := (applyLongest? genitives word).getD word
  (applyLongest? plurals singular).getD singular

/-- Mend the end of a stem that lost `-ed` or `-ing`: a lost `e` comes back, a
doubled letter is written once. -/
def mendStem (regions : Regions) (stem : List Char) : List Char :=
  if endsWith "at" stem || endsWith "bl" stem || endsWith "iz" stem then stem ++ ['e']
  else if doubled.any (endsWith · stem) then stem.dropLast
  else if stem.length = regions.first && endsShort stem then stem ++ ['e']
  else stem

/-- Endings of the past and of the present participle. -/
def participles (regions : Regions) : List (String × Rule) :=
  sameRule ["eed", "eedly"] (.guarded regions.holdsFirst (.become "ee")) ++
  sameRule ["ed", "edly", "ing", "ingly"]
    (.guarded (·.any isVowel) fun stem => some (mendStem regions stem))

/-- Write `i` for a last `y` after a consonant that does not open the word. -/
def softenY (word : List Char) : List Char :=
  match word.reverse with
  | last :: before :: first :: rest =>
    if (last = 'y' || last = 'Y') && !isVowel before then
      ('i' :: before :: first :: rest).reverse
    else word
  | _ => word

/-- Whether `-li` may go after this stem. -/
def allowsLi (stem : List Char) : Bool :=
  stem.getLast?.any ("cdeghkmnrt".toList.contains ·)

/-- Compound suffixes, made simple. -/
def compounds : List (String × Rule) := [
  ("tional", .become "tion"), ("enci", .become "ence"), ("anci", .become "ance"),
  ("abli", .become "able"), ("entli", .become "ent"), ("izer", .become "ize"),
  ("ization", .become "ize"), ("ational", .become "ate"), ("ation", .become "ate"),
  ("ator", .become "ate"), ("alism", .become "al"), ("aliti", .become "al"),
  ("alli", .become "al"), ("fulness", .become "ful"), ("ousli", .become "ous"),
  ("ousness", .become "ous"), ("iveness", .become "ive"), ("iviti", .become "ive"),
  ("biliti", .become "ble"), ("bli", .become "ble"), ("fulli", .become "ful"),
  ("lessli", .become "less"),
  ("ogi", .guarded (endsWith "l") (.become "og")),
  ("li", .guarded allowsLi .delete)]

/-- Suffixes of adjectives and nouns that are made shorter or go. -/
def adjectives (regions : Regions) : List (String × Rule) := [
  ("tional", .become "tion"), ("ational", .become "ate"), ("alize", .become "al"),
  ("icate", .become "ic"), ("iciti", .become "ic"), ("ical", .become "ic"),
  ("ful", .delete), ("ness", .delete),
  ("ative", .guarded regions.holdsSecond .delete)]

/-- Suffixes that go when they lie in the second region. -/
def residues : List (String × Rule) :=
  sameRule ["al", "ance", "ence", "er", "ic", "able", "ible", "ant", "ement", "ment", "ent",
    "ism", "ate", "iti", "ous", "ive", "ize"] .delete ++
  [("ion", .guarded (fun stem => endsWith "s" stem || endsWith "t" stem) .delete)]

/-- A last `e` or the second of two `l`. -/
def finals (regions : Regions) : List (String × Rule) := [
  ("e", .guarded
    (fun stem => regions.holdsSecond stem || (regions.holdsFirst stem && !endsShort stem))
    .delete),
  ("l", .guarded (fun stem => regions.holdsSecond stem && endsWith "l" stem) .delete)]

/-- Apply the rule of the longest suffix if the suffix starts in a region. -/
def applyIn (holds : List Char → Bool) (rules : List (String × Rule)) (word : List Char) :
    List Char :=
  match longestSuffix? rules word with
  | some (stem, rule) => (rule.guarded holds stem).getD word
  | none => word

/-- The steps after the plural is off. -/
def dropDerivation (regions : Regions) (word : List Char) : List Char :=
  let word := applyIn (fun _ => true) (participles regions) word
  let word := softenY word
  let word := applyIn regions.holdsFirst compounds word
  let word := applyIn regions.holdsFirst (adjectives regions) word
  let word := applyIn regions.holdsSecond residues word
  applyIn (fun _ => true) (finals regions) word

/-- The stem of a word without an exception of its own. -/
def regularStem (word : List Char) : List Char :=
  let bare := if word.head? = some '\'' then word.drop 1 else word
  let marked := markConsonants true bare
  let regions := Regions.of marked
  let singular := dropPlural marked
  let stem :=
    if uninflected.any (·.toList = singular) then singular else dropDerivation regions singular
  if marked = bare then stem else stem.map fun c => if c = 'Y' then 'y' else c

/-- The stem of an English word; words of one or two letters stay. -/
def stem (word : List Char) : List Char :=
  match exceptions.find? (·.1.toList = word) with
  | some (_, special) => special.toList
  | none => if word.length < 3 then word else regularStem word

end BooleanRetrieval.Stem.English
