/-
# Queries

A query is a disjunction of groups, a group a conjunction of atoms, and an atom a
term that a document must hold or, if negated, must not hold.
-/

namespace BooleanRetrieval

/-- A term, asked for or excluded. -/
structure Query.Atom where
  term : String
  negated : Bool
  deriving DecidableEq

/-- Atoms that must all hold. -/
structure Query.Group where
  atoms : List Query.Atom
  deriving DecidableEq

/-- Groups of which one must hold; without groups nothing matches. -/
structure Query where
  groups : List Query.Group
  deriving DecidableEq

namespace Query

/-- Whether a query has no groups. -/
def isEmpty (query : Query) : Bool :=
  query.groups.isEmpty

/-- The atoms of all groups in order. -/
def atoms (query : Query) : List Atom :=
  query.groups.flatMap (·.atoms)

/-- The text of an atom: a negated one starts with `!`. -/
def Atom.render (atom : Atom) : String :=
  if atom.negated then "!" ++ atom.term else atom.term

/-- The text of a group: its atoms with a space between. -/
def Group.render (group : Group) : String :=
  " ".intercalate (group.atoms.map (·.render))

/-- The text of a query: its groups with a bar between. -/
def render (query : Query) : String :=
  " | ".intercalate (query.groups.map (·.render))

/-- A query with every term replaced by what a function makes of it. -/
def mapTerms (replace : String → String) (query : Query) : Query :=
  ⟨query.groups.map fun group =>
    ⟨group.atoms.map fun atom => { atom with term := replace atom.term }⟩⟩

end Query

end BooleanRetrieval
