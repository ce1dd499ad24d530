import Specimen.Unicode.BinaryProperty

/-!
# Texts quoted in messages

A message shows a text that it found between double quotes, in such a way that a reader
sees every character of it. Quotes, backslashes and the usual control characters are
escaped by a letter. Characters that leave no mark of their own on a page, and marks that
would join the character before them, are written by their code point.
-/

namespace Specimen.Text

/-- The categories whose characters leave no mark: controls, formats, private and
unassigned code points, and separators. -/
def invisibleCategories : List String := ["Cc", "Cf", "Co", "Cn", "Zl", "Zp", "Zs"]

/-- True when a character is shown as it is in a quoted text. -/
def isShown (c : Char) : Bool :=
  if c.toNat < 0x7F then 0x20 ≤ c.toNat
  else !(invisibleCategories.contains (Unicode.category c)) &&
    !((Unicode.tabulated "Grapheme_Extend").contains c)

/-- A number in hexadecimal, in lower case. -/
def hex (n : Nat) : String := String.ofList (Nat.toDigits 16 n)

/-- One character of a quoted text. -/
def debugChar (c : Char) : String :=
  if c = '"' then "\\\""
  else if c = '\\' then "\\\\"
  else if c = '\n' then "\\n"
  else if c = '\r' then "\\r"
  else if c = '\t' then "\\t"
  else if c = '\x00' then "\\0"
  else if isShown c then c.toString
  else "\\u\x7b" ++ hex c.toNat ++ "\x7d"

/-- A text between double quotes. -/
def debug (s : String) : String :=
  "\"" ++ String.join (s.toList.map debugChar) ++ "\""

end Specimen.Text
