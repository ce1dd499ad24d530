/-!
# White space and blanked text

Identifiers, case names and the lines of an id list are read between white space,
and a value counts as present only when something other than white space is left of
it. White space is the Unicode property `White_Space`, twenty-five characters in all
and the same in every edition of the standard; `Char.isWhitespace` of the core library
knows six of them (`isWhite_of_isWhitespace`).

* `trim` removes white space at both ends; what remains neither starts nor ends with it.
* `blanked` replaces every character by a space and keeps the number of characters
  (`length_blanked`).
-/

namespace Specimen.Text

/-- The characters with the property `White_Space`. -/
def isWhite (c : Char) : Bool :=
  let n := c.toNat
  (9 ≤ n && n ≤ 13) || n == 0x20 || n == 0x85 || n == 0xA0 || n == 0x1680
    || (0x2000 ≤ n && n ≤ 0x200A) || n == 0x2028 || n == 0x2029 || n == 0x202F
    || n == 0x205F || n == 0x3000

/-- The white space of the core library is white space here too. -/
theorem isWhite_of_isWhitespace {c : Char} (h : c.isWhitespace = true) : isWhite c = true := by
  simp only [Char.isWhitespace, Bool.or_eq_true, decide_eq_true_eq] at h
  rcases h with ((h | h) | h) | h <;> subst h <;> decide

/-- The characters left when white space at the front is dropped. -/
def trimStart (cs : List Char) : List Char :=
  cs.dropWhile isWhite

/-- The characters left when white space at the end is dropped. -/
def trimEnd (cs : List Char) : List Char :=
  (cs.reverse.dropWhile isWhite).reverse

/-- A text without the white space at its two ends. -/
def trim (s : String) : String :=
  String.ofList (trimEnd (trimStart s.toList))

/-- A text of as many spaces as `s` has characters. -/
def blanked (s : String) : String :=
  String.ofList (List.replicate s.toList.length ' ')

@[simp] theorem toList_blanked (s : String) :
    (blanked s).toList = List.replicate s.toList.length ' ' := by
  simp [blanked]

/-- Blanking keeps the number of characters. -/
@[simp] theorem length_blanked (s : String) :
    (blanked s).toList.length = s.toList.length := by
  simp

/-- Blanking a blanked text changes nothing. -/
@[simp] theorem blanked_blanked (s : String) : blanked (blanked s) = blanked s := by
  simp [blanked]

/-- True when something other than white space is left of `s`. -/
def isPresent (s : String) : Bool :=
  s.toList.any fun c => !isWhite c

end Specimen.Text
