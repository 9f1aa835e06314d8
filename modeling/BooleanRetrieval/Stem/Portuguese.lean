/-
# Portuguese stemming

A word loses a standard suffix or else a verb ending, then a residual vowel.  The
nasal vowels `ã` and `õ` are written `a~` and `o~` while the rules run, so that a
rule may take off the vowel with its tilde.  The stemmer expects lower case and
leaves other letters alone.
-/

import BooleanRetrieval.Stem.Rule

namespace BooleanRetrieval.Stem.Portuguese

/-- The vowels of the rules; the nasal ones are spelt with a tilde of their own. -/
def isVowel (c : Char) : Bool :=
  "aeiouáéíóúâêô".toList.contains c

/-- Write a nasal vowel as the vowel and a tilde. -/
def spellNasals (word : List Char) : List Char :=
  word.flatMap fun c =>
    if c = 'ã' then ['a', '~'] else if c = 'õ' then ['o', '~'] else [c]

/-- Join each `a` and `o` with the tilde after it. -/
def joinNasals : List Char → List Char
  | 'a' :: '~' :: rest => 'ã' :: joinNasals rest
  | 'o' :: '~' :: rest => 'õ' :: joinNasals rest
  | c :: rest => c :: joinNasals rest
  | [] => []

/-- What follows the opening of a word, where verb endings may start.  The opening
lasts to the next vowel if the second letter is a consonant, to the next consonant
if the first two letters are vowels, and has three letters if a vowel follows a
consonant. -/
def verbRegion? : List Char → Option (List Char)
  | first :: second :: rest =>
    if isVowel second then
      if isVowel first then afterFirst? (!isVowel ·) rest else some (rest.drop 1)
    else afterFirst? isVowel rest
  | _ => none

/-- Where the three regions of a word start. -/
structure Regions where
  verb : Nat
  first : Nat
  second : Nat

/-- The regions of a word. -/
def Regions.of (word : List Char) : Regions :=
  let first? := afterSyllable? isVowel word
  { verb := regionStart word (verbRegion? word)
    first := regionStart word first?
    second := regionStart word (first?.bind (afterSyllable? isVowel)) }

/-- Whether a suffix after this stem lies in the verb region. -/
def Regions.holdsVerb (regions : Regions) (stem : List Char) : Bool :=
  regions.verb ≤ stem.length

/-- Whether a suffix after this stem lies in the first region. -/
def Regions.holdsFirst (regions : Regions) (stem : List Char) : Bool :=
  regions.first ≤ stem.length

/-- Whether a suffix after this stem lies in the second region. -/
def Regions.holdsSecond (regions : Regions) (stem : List Char) : Bool :=
  regions.second ≤ stem.length

/-- Take a further suffix off what a rule left, if one of the list fits in the
second region. -/
def thenDelete (regions : Regions) (suffixes : List String) (word : List Char) : List Char :=
  (applyLongest? (sameRule suffixes (.guarded regions.holdsSecond .delete)) word).getD word

/-- What `-amente` leaves: an adjective, whose suffix goes too. -/
def dropAdverbStem (regions : Regions) (word : List Char) : List Char :=
  match longestSuffix? [("iv", true), ("os", false), ("ic", false), ("ad", false)] word with
  | some (stem, mayFollowAt) =>
    if regions.holdsSecond stem then
      if mayFollowAt then thenDelete regions ["at"] stem else stem
    else word
  | none => word

/-- Suffixes that go when they lie in the second region. -/
def deletions : List String :=
  ["eza", "ezas", "ico", "ica", "icos", "icas", "ismo", "ismos", "ável", "ível", "ista",
   "istas", "oso", "osa", "osos", "osas", "amento", "amentos", "imento", "imentos", "adora",
   "ador", "aça~o", "adoras", "adores", "aço~es", "ante", "antes", "ância"]

/-- The standard suffixes of nouns, adjectives and adverbs. -/
def standards (regions : Regions) : List (String × Rule) :=
  let inSecond := Rule.guarded regions.holdsSecond
  sameRule deletions (inSecond .delete) ++
  sameRule ["logia", "logias"] (inSecond (.become "log")) ++
  sameRule ["uça~o", "uço~es"] (inSecond (.become "u")) ++
  sameRule ["ência", "ências"] (inSecond (.become "ente")) ++
  [("amente", .guarded regions.holdsFirst fun stem => some (dropAdverbStem regions stem)),
   ("mente", inSecond fun stem => some (thenDelete regions ["ante", "avel", "ível"] stem))] ++
  sameRule ["idade", "idades"]
    (inSecond fun stem => some (thenDelete regions ["abil", "ic", "iv"] stem)) ++
  sameRule ["iva", "ivo", "ivas", "ivos"]
    (inSecond fun stem => some (thenDelete regions ["at"] stem)) ++
  sameRule ["ira", "iras"]
    (.guarded (fun stem => regions.holdsVerb stem && endsWith "e" stem) (.become "ir"))

/-- The endings of verbs. -/
def verbEndings : List String :=
  ["ada", "ida", "ia", "aria", "eria", "iria", "ará", "ara", "erá", "era", "irá", "ava",
   "asse", "esse", "isse", "aste", "este", "iste", "ei", "arei", "erei", "irei", "am", "iam",
   "ariam", "eriam", "iriam", "aram", "eram", "iram", "avam", "em", "arem", "erem", "irem",
   "assem", "essem", "issem", "ado", "ido", "ando", "endo", "indo", "ara~o", "era~o",
   "ira~o", "ar", "er", "ir", "as", "adas", "idas", "ias", "arias", "erias", "irias", "arás",
   "aras", "erás", "eras", "irás", "avas", "es", "ardes", "erdes", "irdes", "ares", "eres",
   "ires", "asses", "esses", "isses", "astes", "estes", "istes", "is", "ais", "eis", "íeis",
   "aríeis", "eríeis", "iríeis", "áreis", "areis", "éreis", "ereis", "íreis", "ireis",
   "ásseis", "ésseis", "ísseis", "áveis", "ados", "idos", "ámos", "amos", "íamos", "aríamos",
   "eríamos", "iríamos", "áramos", "éramos", "íramos", "ávamos", "emos", "aremos", "eremos",
   "iremos", "ássemos", "êssemos", "íssemos", "imos", "armos", "ermos", "irmos", "eu", "iu",
   "ou", "ira", "iras"]

/-- Take off the longest verb ending that lies in the verb region. -/
def dropVerbEnding? (regions : Regions) (word : List Char) : Option (List Char) :=
  if regions.verb ≤ word.length then
    let opening := word.take regions.verb
    (applyLongest? (sameRule verbEndings .delete) (word.drop regions.verb)).map (opening ++ ·)
  else none

/-- Take off an `i` after a `c`. -/
def dropSoftI (regions : Regions) (word : List Char) : List Char :=
  (applyLongest? [("i", .guarded (fun stem => endsWith "c" stem && regions.holdsVerb stem)
    .delete)] word).getD word

/-- Take off a vowel, or `-os`, that is left in the verb region. -/
def dropResidue (regions : Regions) (word : List Char) : List Char :=
  (applyLongest? (sameRule ["os", "a", "i", "o", "á", "í", "ó"]
    (.guarded regions.holdsVerb .delete)) word).getD word

/-- Take off the `u` of `-gu` or the `i` of `-ci` that a dropped `e` leaves. -/
def dropSoftening (regions : Regions) (word : List Char) : List Char :=
  (applyLongest? [
    ("u", .guarded (fun stem => endsWith "g" stem && regions.holdsVerb stem) .delete),
    ("i", .guarded (fun stem => endsWith "c" stem && regions.holdsVerb stem) .delete)]
    word).getD word

/-- Take off a last `e`, and write `c` for a last `ç`. -/
def dropFinalE (regions : Regions) (word : List Char) : List Char :=
  (applyLongest? (
    sameRule ["e", "é", "ê"]
      (.guarded regions.holdsVerb fun stem => some (dropSoftening regions stem)) ++
    [("ç", .become "c")]) word).getD word

/-- The stem of a Portuguese word. -/
def stem (word : List Char) : List Char :=
  let spelt := spellNasals word
  let regions := Regions.of spelt
  let shortened :=
    match (applyLongest? (standards regions) spelt).or (dropVerbEnding? regions spelt) with
    | some shorter => dropSoftI regions shorter
    | none => dropResidue regions spelt
  joinNasals (dropFinalE regions shortened)

end BooleanRetrieval.Stem.Portuguese
