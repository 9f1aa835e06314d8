/-
# Tokens

A token is a word of a text with its place: its number among the words, the byte
it starts at, and its length in bytes.
-/

import BooleanRetrieval.Text.Alphabetic
import BooleanRetrieval.Text.Numeric

namespace BooleanRetrieval

/-- What the characters of a token are. -/
inductive TokenKind where
  /-- Letters only. -/
  | word
  /-- Numeric characters only. -/
  | number
  /-- A mixture, or neither. -/
  | alphanumeric
  deriving DecidableEq

/-- The kind of a text; a text without characters counts as a word. -/
def TokenKind.classify (text : String) : TokenKind :=
  if text.toList.all Text.isAlphabetic then .word
  else if text.toList.all Text.isNumeric then .number
  else .alphanumeric

/-- A word of a text and its place. -/
structure Token where
  text : String
  /-- The number of tokens before it. -/
  position : Nat
  /-- The number of bytes before it. -/
  offset : Nat
  /-- The number of its bytes. -/
  length : Nat
  kind : TokenKind
  deriving DecidableEq

/-- A token with its length and kind read off its text. -/
def Token.ofText (text : String) (position offset : Nat) : Token :=
  { text, position, offset, length := text.utf8ByteSize, kind := .classify text }

end BooleanRetrieval
