import Specimen.Json.Basic

/-!
# Writing documents

Documents are written compactly, without any white space, or over several lines with two
spaces for each level. In a text only the quote, the backslash and the characters below
the space are escaped, by their short form if they have one and by four lower-case
hexadecimal digits otherwise; everything else is written as it is.

The writers work on lists of characters, so that the reader of `Specimen.Json.Scan` can
be stated against them; `Json.compact` and `Json.pretty` are the same as texts.
-/

namespace Specimen.Json

/-- A hexadecimal digit in lower case. -/
def hexDigit (n : Nat) : Char := Nat.digitChar (n % 16)

/-- One character inside a quoted text. -/
def escapeChar (c : Char) : List Char :=
  if c = '"' then ['\\', '"']
  else if c = '\\' then ['\\', '\\']
  else if c = '\x08' then ['\\', 'b']
  else if c = '\x0c' then ['\\', 'f']
  else if c = '\n' then ['\\', 'n']
  else if c = '\r' then ['\\', 'r']
  else if c = '\t' then ['\\', 't']
  else if c.toNat < 0x20 then
    ['\\', 'u', '0', '0', hexDigit (c.toNat / 16), hexDigit c.toNat]
  else [c]

/-- A quoted text. -/
def quote (s : String) : List Char := '"' :: (s.toList.flatMap escapeChar ++ ['"'])

mutual

/-- A document without white space. -/
def write : Json → List Char
  | null => "null".toList
  | bool true => "true".toList
  | bool false => "false".toList
  | number n => n.text.toList
  | string s => quote s
  | array items => '[' :: writeItems items
  | object entries => '\x7b' :: writeEntries entries

/-- The items of an array and its closing bracket. -/
def writeItems : List Json → List Char
  | [] => [']']
  | [j] => write j ++ [']']
  | j :: js => write j ++ ',' :: writeItems js

/-- The entries of an object and its closing brace. -/
def writeEntries : List (String × Json) → List Char
  | [] => ['\x7d']
  | [(k, j)] => quote k ++ ':' :: (write j ++ ['\x7d'])
  | (k, j) :: es => quote k ++ ':' :: (write j ++ ',' :: writeEntries es)

end

/-- A new line indented by two spaces for each level. -/
def newline (level : Nat) : List Char := '\n' :: List.replicate (2 * level) ' '

mutual

/-- A document over several lines, standing at a level. -/
def layOut (level : Nat) : Json → List Char
  | array [] => ['[', ']']
  | array items => '[' :: newline (level + 1) ++ layOutItems level items
  | object [] => ['\x7b', '\x7d']
  | object entries => '\x7b' :: newline (level + 1) ++ layOutEntries level entries
  | null => "null".toList
  | bool true => "true".toList
  | bool false => "false".toList
  | number n => n.text.toList
  | string s => quote s

/-- The items of an array, one a line, and its closing bracket. -/
def layOutItems (level : Nat) : List Json → List Char
  | [] => [']']
  | [j] => layOut (level + 1) j ++ newline level ++ [']']
  | j :: js => layOut (level + 1) j ++ ',' :: newline (level + 1) ++ layOutItems level js

/-- The entries of an object, one a line, and its closing brace. -/
def layOutEntries (level : Nat) : List (String × Json) → List Char
  | [] => ['\x7d']
  | [(k, j)] => quote k ++ ':' :: ' ' :: (layOut (level + 1) j ++ newline level ++ ['\x7d'])
  | (k, j) :: es =>
    quote k ++ ':' :: ' ' ::
      (layOut (level + 1) j ++ ',' :: newline (level + 1) ++ layOutEntries level es)

end

/-- The document on one line, without white space. -/
def compact (j : Json) : String := String.ofList (write j)

/-- The document over several lines. -/
def pretty (j : Json) : String := String.ofList (layOut 0 j)

end Specimen.Json
