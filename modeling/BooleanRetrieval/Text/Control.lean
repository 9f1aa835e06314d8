/-
# Control characters

Text for a terminal.  A character that a terminal may take for a command is shown by
its code; tabs, line ends and the other control characters stay.
-/

namespace BooleanRetrieval.Text

/-- Whether a terminal may take a character for a command: bell, backspace, form feed,
escape, delete and the control characters above ASCII. -/
def steersTerminal (c : Char) : Bool :=
  ['\x07', '\x08', '\x0c', '\x1b', '\x7f'].contains c || (0x80 ≤ c.toNat && c.toNat ≤ 0x9f)

/-- The code of a character: two hexadecimal digits after `x` in ASCII, else as many as
it takes in braces after `u`. -/
def characterCode (c : Char) : List Char :=
  let digits := Nat.toDigits 16 c.toNat
  if c.toNat < 0x80 then ['\\', 'x'] ++ List.replicate (2 - digits.length) '0' ++ digits
  else ['\\', 'u', '\x7b'] ++ digits ++ ['\x7d']

/-- A text as it can go to a terminal. -/
def showControls (text : String) : String :=
  .ofList (text.toList.flatMap fun c => if steersTerminal c then characterCode c else [c])

end BooleanRetrieval.Text
