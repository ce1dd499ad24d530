import Specimen.Dict

/-!
# Character sets

A text field draws its characters from a named set: an ordered list without repetitions
that has at least one character. Five sets are built in, and a document may add further
ones or put its own in their place.

* `CharacterSet.ofString?` keeps the first of several equal characters.
* `CharacterSets.builtin` holds the built-in sets.
-/

namespace Specimen

/-- A non-empty list of different characters. -/
structure CharacterSet where
  id : String
  chars : List Char
  nonempty : chars ≠ []
  nodup : chars.Nodup

/-- Why a character set cannot be had. -/
inductive CharacterSetError where
  | unknown (id : String)
  | noCharacter (id : String)
  deriving DecidableEq, Repr

/-- The wording of an error. -/
def CharacterSetError.message : CharacterSetError → String
  | unknown id => "unknown character set: " ++ id
  | noCharacter id => "invalid character set '" ++ id ++ "': must contain at least one character"

namespace CharacterSet

theorem nodup_eraseDups : ∀ (n : Nat) (cs : List Char), cs.length ≤ n → cs.eraseDups.Nodup
  | _, [], _ => by simp
  | n + 1, c :: cs, h => by
    rw [List.eraseDups_cons]
    refine List.nodup_cons.2 ⟨?_, nodup_eraseDups n _ ?_⟩
    · simp [List.mem_eraseDups]
    · exact Nat.le_trans (List.length_filter_le _ _) (by simpa using h)

/-- The set of the characters of a text; of equal characters the first counts. -/
def ofString? (id chars : String) : Except CharacterSetError CharacterSet :=
  if h : chars.toList.eraseDups ≠ [] then
    .ok ⟨id, chars.toList.eraseDups, h, nodup_eraseDups _ _ (Nat.le_refl _)⟩
  else .error (.noCharacter id)

/-- The characters as a text. -/
def text (s : CharacterSet) : String := String.ofList s.chars

/-- The number of characters. -/
def size (s : CharacterSet) : Nat := s.chars.length

theorem size_pos (s : CharacterSet) : 0 < s.size := List.length_pos_iff.2 s.nonempty

end CharacterSet

/-- Character sets by their ids. -/
abbrev CharacterSets := Dict CharacterSet

namespace CharacterSets

/-- The id of the set for fields that name none. -/
def standardId : String := "alnum"

/-- The small letters of the English alphabet. -/
def lowerLetters : String := "abcdefghijklmnopqrstuvwxyz"

/-- The capital letters of the English alphabet. -/
def upperLetters : String := "ABCDEFGHIJKLMNOPQRSTUVWXYZ"

/-- The decimal digits. -/
def digits : String := "0123456789"

/-- The ids and characters of the built-in sets. -/
def builtinTexts : List (String × String) := [
  ("alpha", lowerLetters ++ upperLetters),
  ("alnum", lowerLetters ++ upperLetters ++ digits),
  ("lower", lowerLetters),
  ("upper", upperLetters),
  ("numeric", digits)]

/-- True for the id of a built-in set. -/
def isBuiltin (id : String) : Bool := builtinTexts.any fun e => e.1 = id

/-- The sets with one more, which replaces another one with its id. -/
def declare (sets : CharacterSets) (id chars : String) :
    Except CharacterSetError CharacterSets :=
  (CharacterSet.ofString? id chars).map fun s => sets.insert id s

/-- The built-in sets. -/
def builtin : CharacterSets :=
  builtinTexts.foldl (fun sets e => (sets.declare e.1 e.2).toOption.getD sets) .empty

/-- The set with an id. -/
def find (sets : CharacterSets) (id : String) : Except CharacterSetError CharacterSet :=
  match sets.get? id with
  | some s => .ok s
  | none => .error (.unknown id)

end CharacterSets

end Specimen
