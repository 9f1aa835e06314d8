/-
# Reading queries

The text of a query is cut into words at blanks and bars.  A bar closes the group
before it; a group without atoms is left out.  The run of `!` at the start of a
word negates its term as often as it is long, and a word of `!` only passes its
negations on to the next word of the group.  A term may not start or end with `&`,
which joins nothing here.
-/

import BooleanRetrieval.Error
import BooleanRetrieval.Query
import BooleanRetrieval.Text.Lowercase
import BooleanRetrieval.Text.Split

namespace BooleanRetrieval.Query

/-- A piece of the text of a query. -/
inductive Lexeme where
  /-- The sign between groups. -/
  | bar
  /-- A maximal run of characters other than blanks and bars. -/
  | word (chars : List Char)

/-- The word whose characters, the last first, are given; no word if there are
none. -/
def Lexeme.ofReversed : List Char → List Lexeme
  | [] => []
  | chars => [.word chars.reverse]

/-- The lexemes of a text that follows the given beginning of a word, the last
character first. -/
def lexemesAfter (current : List Char) : List Char → List Lexeme
  | [] => Lexeme.ofReversed current
  | c :: rest =>
    if c = '|' then Lexeme.ofReversed current ++ .bar :: lexemesAfter [] rest
    else if Text.isBlank c then Lexeme.ofReversed current ++ lexemesAfter [] rest
    else lexemesAfter (c :: current) rest

/-- The lexemes of a text. -/
def lexemes (chars : List Char) : List Lexeme :=
  lexemesAfter [] chars

/-- A bar cuts the lexemes of a text in two. -/
theorem lexemesAfter_append_bar (current first second : List Char) :
    lexemesAfter current (first ++ '|' :: second) =
      lexemesAfter current first ++ .bar :: lexemes second := by
  induction first generalizing current with
  | nil => simp [lexemesAfter, lexemes]
  | cons c rest ih =>
    simp only [List.cons_append, lexemesAfter]
    split
    · simp [ih]
    · split <;> simp [ih]

/-- What has been read of a query, the latest group and atom first. -/
structure Reading where
  groups : List Group
  /-- The atoms of the open group. -/
  atoms : List Atom
  /-- Whether the negations that wait for their term negate it, if there are any. -/
  pending : Option Bool

namespace Reading

/-- Nothing has been read. -/
def start : Reading := ⟨[], [], none⟩

/-- Close the open group. -/
def close (reading : Reading) : Except Error Reading :=
  match reading.pending with
  | some _ => .error .danglingNegation
  | none =>
    if reading.atoms.isEmpty then .ok reading
    else .ok ⟨⟨reading.atoms.reverse⟩ :: reading.groups, [], none⟩

/-- Read one word. -/
def readWord (lowercase : Bool) (reading : Reading) (word : List Char) : Except Error Reading :=
  let negations := word.takeWhile (· = '!')
  let term := word.dropWhile (· = '!')
  let negated := reading.pending.getD false ^^ (negations.length % 2 = 1)
  if term.isEmpty then .ok { reading with pending := some negated }
  else if term.head? = some '&' || term.getLast? = some '&' then
    .error (.danglingOperator (.ofList term))
  else
    let term := String.ofList term
    let atom := ⟨if lowercase then Text.lower term else term, negated⟩
    .ok { reading with atoms := atom :: reading.atoms, pending := none }

/-- Read one lexeme. -/
def read (lowercase : Bool) (reading : Reading) : Lexeme → Except Error Reading
  | .bar => reading.close
  | .word chars => reading.readWord lowercase chars

end Reading

/-- The query that a text denotes; `lowercase` puts its terms in lower case. -/
def parse (lowercase : Bool) (text : String) : Except Error Query := do
  let reading ← (lexemes text.toList).foldlM (Reading.read lowercase) .start
  return ⟨(← reading.close).groups.reverse⟩

end BooleanRetrieval.Query
