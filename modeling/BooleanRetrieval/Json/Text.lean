/-
# JSON text

Reading JSON from the front of a text: blanks, strings, and values that are to be
passed over.  A reader gives back the rest of the text, or nothing if the text
does not begin as it must.  A string that is passed over may hold any `\u` escape;
one that is decoded may not hold half of a surrogate pair.
-/

namespace BooleanRetrieval.Json

/-- Whether a character is a blank of JSON. -/
def isSpace (c : Char) : Bool :=
  c = ' ' || c = '\t' || c = '\n' || c = '\r'

/-- A text without the blanks before it. -/
def dropSpace (chars : List Char) : List Char :=
  chars.dropWhile isSpace

/-- The rest of a text after an expected beginning. -/
def expect (beginning : String) (chars : List Char) : Option (List Char) :=
  if beginning.toList.isPrefixOf chars then some (chars.drop beginning.length) else none

/-- The value of a hexadecimal digit. -/
def hexDigit? (c : Char) : Option Nat :=
  if '0' ≤ c ∧ c ≤ '9' then some (c.toNat - '0'.toNat)
  else if 'a' ≤ c ∧ c ≤ 'f' then some (c.toNat - 'a'.toNat + 10)
  else if 'A' ≤ c ∧ c ≤ 'F' then some (c.toNat - 'A'.toNat + 10)
  else none

/-- The number that four hexadecimal digits denote. -/
def hexUnit? (a b c d : Char) : Option Nat := do
  return ((((← hexDigit? a) * 16 + (← hexDigit? b)) * 16 + (← hexDigit? c)) * 16
    + (← hexDigit? d))

/-- The character of an escape of one letter. -/
def shortEscape? : Char → Option Char
  | '"' => some '"'
  | '\\' => some '\\'
  | '/' => some '/'
  | 'b' => some '\x08'
  | 'f' => some '\x0c'
  | 'n' => some '\n'
  | 'r' => some '\r'
  | 't' => some '\t'
  | _ => none

/-- Whether a code unit opens a surrogate pair. -/
def isHighSurrogate (unit : Nat) : Bool :=
  0xD800 ≤ unit && unit < 0xDC00

/-- Whether a code unit closes a surrogate pair. -/
def isLowSurrogate (unit : Nat) : Bool :=
  0xDC00 ≤ unit && unit < 0xE000

/-- The character of a surrogate pair. -/
def joinSurrogates (high low : Nat) : Char :=
  Char.ofNat (0x10000 + (high - 0xD800) * 0x400 + (low - 0xDC00))

/-- Decode a string whose opening quote has been read: its characters, and the rest
of the text after the closing quote. -/
def readString : List Char → Option (List Char × List Char)
  | [] => none
  | '"' :: rest => some ([], rest)
  | '\\' :: 'u' :: a :: b :: c :: d :: rest =>
    match hexUnit? a b c d with
    | none => none
    | some unit =>
      if isHighSurrogate unit then
        match rest with
        | '\\' :: 'u' :: e :: f :: g :: h :: rest =>
          match hexUnit? e f g h with
          | none => none
          | some low =>
            if isLowSurrogate low then
              (readString rest).map fun (chars, rest) => (joinSurrogates unit low :: chars, rest)
            else none
        | _ => none
      else if isLowSurrogate unit then none
      else (readString rest).map fun (chars, rest) => (Char.ofNat unit :: chars, rest)
  | '\\' :: c :: rest =>
    match shortEscape? c with
    | none => none
    | some escaped => (readString rest).map fun (chars, rest) => (escaped :: chars, rest)
  | c :: rest =>
    if c.toNat < 0x20 || c = '\\' then none
    else (readString rest).map fun (chars, rest) => (c :: chars, rest)

/-- Pass over a string whose opening quote has been read. -/
def skipString : List Char → Option (List Char)
  | [] => none
  | '"' :: rest => some rest
  | '\\' :: 'u' :: a :: b :: c :: d :: rest =>
    if (hexUnit? a b c d).isSome then skipString rest else none
  | '\\' :: c :: rest => if (shortEscape? c).isSome then skipString rest else none
  | c :: rest => if c.toNat < 0x20 || c = '\\' then none else skipString rest

/-- Pass over one or more decimal digits. -/
def skipDigits (chars : List Char) : Option (List Char) :=
  match chars with
  | c :: rest => if c.isDigit then some (rest.dropWhile Char.isDigit) else none
  | [] => none

/-- Pass over a whole part: zero, or digits that do not start with zero. -/
def skipWhole (chars : List Char) : Option (List Char) :=
  match chars with
  | '0' :: rest => if rest.head?.any Char.isDigit then none else some rest
  | _ => skipDigits chars

/-- Pass over a fraction, if there is one. -/
def skipFraction (chars : List Char) : Option (List Char) :=
  match chars with
  | '.' :: rest => skipDigits rest
  | _ => some chars

/-- Pass over an exponent, if there is one. -/
def skipExponent (chars : List Char) : Option (List Char) :=
  match chars with
  | c :: rest =>
    if c = 'e' || c = 'E' then
      match rest with
      | sign :: digits => skipDigits (if sign = '+' || sign = '-' then digits else rest)
      | [] => none
    else some chars
  | [] => some chars

/-- Pass over a number. -/
def skipNumber (chars : List Char) : Option (List Char) := do
  let whole := if chars.head? = some '-' then chars.drop 1 else chars
  skipExponent (← skipFraction (← skipWhole whole))

/-- What is to be passed over. -/
inductive Awaited where
  /-- A value. -/
  | value
  /-- The rest of an array, after one of its elements. -/
  | elements
  /-- The rest of an object, from a key on. -/
  | members

/-- Pass over what is awaited, in at most `steps` steps. -/
def skipWithin : Nat → Awaited → List Char → Option (List Char)
  | 0, _, _ => none
  | steps + 1, .value, chars =>
    match dropSpace chars with
    | '"' :: rest => skipString rest
    | '[' :: rest =>
      match dropSpace rest with
      | ']' :: rest => some rest
      | _ => (skipWithin steps .value rest).bind (skipWithin steps .elements)
    | '{' :: rest =>
      match dropSpace rest with
      | '}' :: rest => some rest
      | _ => skipWithin steps .members rest
    | 'n' :: rest => expect "ull" rest
    | 't' :: rest => expect "rue" rest
    | 'f' :: rest => expect "alse" rest
    | chars => skipNumber chars
  | steps + 1, .elements, chars =>
    match dropSpace chars with
    | ']' :: rest => some rest
    | ',' :: rest => (skipWithin steps .value rest).bind (skipWithin steps .elements)
    | _ => none
  | steps + 1, .members, chars => do
    let rest ← expect "\"" (dropSpace chars)
    let rest ← expect ":" (dropSpace (← skipString rest))
    let rest ← skipWithin steps .value rest
    match dropSpace rest with
    | '}' :: rest => some rest
    | ',' :: rest => skipWithin steps .members rest
    | _ => none

/-- Pass over a value.  Each step reads a character, so their number suffices. -/
def skipValue (chars : List Char) : Option (List Char) :=
  skipWithin (chars.length + 1) .value chars

/-- Read a string, with the blanks before it. -/
def stringValue? (chars : List Char) : Option (String × List Char) := do
  let rest ← expect "\"" (dropSpace chars)
  let (content, rest) ← readString rest
  return (.ofList content, rest)

/-- Read a truth value, with the blanks before it. -/
def boolValue? (chars : List Char) : Option (Bool × List Char) :=
  let chars := dropSpace chars
  match expect "true" chars, expect "false" chars with
  | some rest, _ => some (true, rest)
  | none, some rest => some (false, rest)
  | none, none => none

/-- The digit of a number below 16. -/
def hexDigit (value : Nat) : Char :=
  Char.ofNat (if value < 10 then '0'.toNat + value else 'a'.toNat + (value - 10))

/-- A character inside a written string. -/
def escape (c : Char) : List Char :=
  if c = '"' then ['\\', '"']
  else if c = '\\' then ['\\', '\\']
  else if c = '\x08' then ['\\', 'b']
  else if c = '\x0c' then ['\\', 'f']
  else if c = '\n' then ['\\', 'n']
  else if c = '\r' then ['\\', 'r']
  else if c = '\t' then ['\\', 't']
  else if c.toNat < 0x20 then
    ['\\', 'u', '0', '0', hexDigit (c.toNat / 16), hexDigit (c.toNat % 16)]
  else [c]

/-- A string as JSON text. -/
def quote (text : String) : String :=
  "\"" ++ String.ofList (text.toList.flatMap escape) ++ "\""

end BooleanRetrieval.Json
