/-
# Paths

What a path says apart from its spelling: where it starts, and the names it leads
through.  A slash that is repeated or ends the path adds nothing, nor does a single
dot, except as the first thing in a path.  Two dots count as a name, because only a
file system knows what lies above a directory.
-/

import BooleanRetrieval.Text.Split

namespace BooleanRetrieval

/-- How a path starts. -/
inductive PathStart where
  /-- With a slash, at the root. -/
  | root
  /-- With a single dot. -/
  | dot
  /-- With its first name, if it has one. -/
  | name
  deriving DecidableEq

/-- A path apart from its spelling. -/
structure Path where
  start : PathStart
  names : List String
  deriving DecidableEq

namespace Path

/-- The start of a path with the given pieces between its slashes: the first piece
is empty if there is a slash in front. -/
def startOf : List (List Char) → PathStart
  | [] :: _ :: _ => .root
  | ['.'] :: _ => .dot
  | _ => .name

/-- The path that a text spells. -/
def ofText (text : String) : Path :=
  let pieces := Text.piecesBetween (· = '/') text.toList
  { start := startOf pieces
    names := (pieces.filter fun piece => piece ≠ [] && piece ≠ ['.']).map String.ofList }

/-- The last name of a path, unless it is a step up or there is none. -/
def lastName? (path : Path) : Option String :=
  path.names.getLast?.filter (· ≠ "..")

/-- Whether two texts spell the same path. -/
def sameText (first second : String) : Bool :=
  ofText first = ofText second

@[simp] theorem sameText_self (text : String) : sameText text text := by
  simp [sameText]

end Path

end BooleanRetrieval
