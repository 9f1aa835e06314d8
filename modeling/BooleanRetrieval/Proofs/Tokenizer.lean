/-
# Tokenizers and case

A tokenizer looks for words in the text as it stands, so it finds the same words at the same
places whether or not it lowers them.  Their kinds are read off afterwards, and they are the
same too, but for a word with a dotted I: the dot that is left over is no letter.
-/

import BooleanRetrieval.Analyzer
import BooleanRetrieval.Proofs.Token
import Mathlib.Data.List.Forall2

namespace BooleanRetrieval

open Text

/-- What becomes of a token when its word is put in lower case. -/
structure Token.Lowers (token lowered : Token) : Prop where
  text : lowered.text = lower token.text
  position : lowered.position = token.position
  offset : lowered.offset = token.offset
  /-- The kind stays, but a dotted I makes a mixture of a word. -/
  kind : lowered.kind =
    if token.kind = .word ∧ 'İ' ∈ token.text.toList then .alphanumeric else token.kind

namespace Token

theorem lowers_ofText (word : String) (position offset : Nat) :
    (ofText word position offset).Lowers (ofText (lower word) position offset) where
  text := rfl
  position := rfl
  offset := rfl
  kind := TokenKind.classify_lower word

/-- A token is still a word in lower case if it is one without a dotted I. -/
theorem Lowers.kind_eq_word_iff {token lowered : Token} (hlowers : token.Lowers lowered) :
    lowered.kind = .word ↔ 'İ' ∉ token.text.toList ∧ token.kind = .word := by
  rw [hlowers.kind]
  split
  · next hdotted => simp [hdotted.2]
  · next hplain => grind

end Token

/-- With dotted words left out first, an alphabetic filter keeps the same tokens in lower case. -/
theorem Filter.lowers_alphabetic {tokens lowered : List Token}
    (hlowers : List.Forall₂ Token.Lowers tokens lowered) :
    List.Forall₂ Token.Lowers
      ((Filter.alphabetic.apply tokens).filter fun token => 'İ' ∉ token.text.toList)
      (Filter.alphabetic.apply lowered) := by
  rw [Filter.apply, Filter.apply, List.filter_filter]
  refine List.rel_filter ?_ hlowers
  intro token other hother
  simpa using hother.kind_eq_word_iff.symm

namespace Tokenizer

variable (maxLength : Nat) (text : String)

/-- The tokens of a text in lower case are those of the text, token by token. -/
theorem lowers_tokenize :
    List.Forall₂ Token.Lowers (tokenize ⟨false, maxLength⟩ text)
      (tokenize ⟨true, maxLength⟩ text) := by
  have hwords : words ⟨true, maxLength⟩ text = words ⟨false, maxLength⟩ text := rfl
  rw [tokenize, tokenize, hwords, List.forall₂_map_left_iff, List.forall₂_map_right_iff,
    List.forall₂_same]
  rintro ⟨⟨offset, word⟩, position⟩ -
  exact Token.lowers_ofText word position offset

/-- Lower-casing changes the spelling of the tokens of a text and neither their number nor their
places, whatever the limit on words.  Words with a dotted I apart, it leaves them their kinds,
and an alphabetic filter keeps the same of them. -/
theorem lowercase_respells :
    List.Forall₂ Token.Lowers (tokenize ⟨false, maxLength⟩ text)
        (tokenize ⟨true, maxLength⟩ text) ∧
      List.Forall₂ Token.Lowers
        ((Filter.alphabetic.apply (tokenize ⟨false, maxLength⟩ text)).filter
          fun token => 'İ' ∉ token.text.toList)
        (Filter.alphabetic.apply (tokenize ⟨true, maxLength⟩ text)) := by
  have hlowers := lowers_tokenize maxLength text
  exact ⟨hlowers, Filter.lowers_alphabetic hlowers⟩

/-- A word with a dotted I is a word of letters, but a mixture in lower case, and an alphabetic
filter drops it there. -/
theorem lowercase_drops_dotted_word :
    let tokens := tokenize { lowercase := false } "İstanbul Porto"
    let lowered := tokenize { lowercase := true } "İstanbul Porto"
    tokens.map (·.kind) = [.word, .word] ∧ lowered.map (·.kind) = [.alphanumeric, .word] ∧
      (Filter.alphabetic.apply tokens).map (·.offset) = [0, 10] ∧
      (Filter.alphabetic.apply lowered).map (·.offset) = [10] := by
  decide +kernel

end Tokenizer

end BooleanRetrieval
