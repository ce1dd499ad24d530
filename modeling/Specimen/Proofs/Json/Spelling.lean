import Specimen.Json.Print
import Specimen.Proofs.Json.Yields

/-!
# One writer of documents

Both writers lay a document out in the same way, with different white space between its parts:
`Json.write` is `Json.spell` without any (`Json.write_eq_spell`), and `Json.layOut` is `Json.spell`
with every item on a line of its own (`Json.layOut_eq_spell`).
-/

namespace Specimen

namespace Json

/-- The white space between the parts of a document. -/
structure Spacing where
  /-- What stands before an item at a level. -/
  gap : Nat → List Char
  /-- What stands behind a colon. -/
  space : List Char
  gap_blank : ∀ level, Scan.Blank (gap level)
  space_blank : Scan.Blank space

/-- No white space. -/
def Spacing.none : Spacing where
  gap _ := []
  space := []
  gap_blank _ _ h := absurd h List.not_mem_nil
  space_blank _ h := absurd h List.not_mem_nil

/-- Items on lines of their own, indented. -/
def Spacing.lines : Spacing where
  gap := newline
  space := [' ']
  gap_blank level x h := by
    rcases List.mem_cons.1 h with rfl | h
    · rfl
    · rw [(List.mem_replicate.1 h).2]
      rfl
  space_blank x h := by
    rw [List.mem_singleton.1 h]
    rfl

/-- The items after the first one, and the closing bracket. -/
def tail (inner outer : List Char) (close : Char) : List (List Char) → List Char
  | [] => outer ++ [close]
  | t :: ts => ',' :: (inner ++ (t ++ tail inner outer close ts))

/-- Items and the closing bracket, behind the opening one. -/
def inside (inner outer : List Char) (close : Char) : List (List Char) → List Char
  | [] => [close]
  | t :: ts => inner ++ (t ++ tail inner outer close ts)

section Spell

variable (sp : Spacing)

mutual

/-- A document at a level. -/
def spell (level : Nat) : Json → List Char
  | null => "null".toList
  | bool true => "true".toList
  | bool false => "false".toList
  | number n => n.text.toList
  | string s => quote s
  | array items => '[' :: inside (sp.gap (level + 1)) (sp.gap level) ']' (spellItems level items)
  | object es =>
    '\x7b' :: inside (sp.gap (level + 1)) (sp.gap level) '\x7d' (spellEntries level es)

/-- The items of an array at a level. -/
def spellItems (level : Nat) : List Json → List (List Char)
  | [] => []
  | j :: js => spell (level + 1) j :: spellItems level js

/-- The entries of an object at a level. -/
def spellEntries (level : Nat) : List (String × Json) → List (List Char)
  | [] => []
  | (k, j) :: es => (quote k ++ ':' :: (sp.space ++ spell (level + 1) j)) :: spellEntries level es

end

end Spell

mutual

theorem write_eq_spell : ∀ (level : Nat) (j : Json), write j = spell .none level j
  | _, null | _, bool true | _, bool false | _, number _ | _, string _ => rfl
  | level, array items => congrArg ('[' :: ·) (writeItems_eq_spell level items)
  | level, object es => congrArg ('\x7b' :: ·) (writeEntries_eq_spell level es)

theorem writeItems_eq_spell : ∀ (level : Nat) (items : List Json),
    writeItems items = inside [] [] ']' (spellItems .none level items)
  | _, [] => rfl
  | level, [j] => by
    show write j ++ [']'] = spell .none (level + 1) j ++ [']']
    rw [write_eq_spell (level + 1)]
  | level, j :: j' :: js => by
    -- the comma opens the tail
    show write j ++ ',' :: writeItems (j' :: js) = _
    rw [write_eq_spell (level + 1), writeItems_eq_spell level (j' :: js)]
    rfl

theorem writeEntries_eq_spell : ∀ (level : Nat) (es : List (String × Json)),
    writeEntries es = inside [] [] '\x7d' (spellEntries .none level es)
  | _, [] => rfl
  | level, [(k, j)] => by
    show quote k ++ ':' :: (write j ++ ['\x7d']) = _
    rw [write_eq_spell (level + 1)]
    simp [spellEntries, inside, tail, Spacing.none]
  | level, (k, j) :: e :: es => by
    show quote k ++ ':' :: (write j ++ ',' :: writeEntries (e :: es)) = _
    rw [write_eq_spell (level + 1), writeEntries_eq_spell level (e :: es)]
    simp [spellEntries, inside, tail, Spacing.none]

end

mutual

theorem layOut_eq_spell : ∀ (level : Nat) (j : Json), layOut level j = spell .lines level j
  | _, null | _, bool true | _, bool false | _, number _ | _, string _ => rfl
  | _, array [] | _, object [] => rfl
  | level, array (j :: js) =>
    congrArg ('[' :: ·) (layOutItems_eq_spell level (j :: js) (List.cons_ne_nil _ _))
  | level, object (e :: es) =>
    congrArg ('\x7b' :: ·) (layOutEntries_eq_spell level (e :: es) (List.cons_ne_nil _ _))

theorem layOutItems_eq_spell : ∀ (level : Nat) (items : List Json), items ≠ [] →
    newline (level + 1) ++ layOutItems level items =
      inside (newline (level + 1)) (newline level) ']' (spellItems .lines level items)
  | _, [], h => absurd rfl h
  | level, [j], _ => by
    -- the last line break belongs to the closing bracket
    show newline (level + 1) ++ (layOut (level + 1) j ++ newline level ++ [']']) = _
    rw [layOut_eq_spell (level + 1), List.append_assoc]
    rfl
  | level, j :: j' :: js, _ => by
    have h_rest := layOutItems_eq_spell level (j' :: js) (List.cons_ne_nil _ _)
    show newline (level + 1) ++
      (layOut (level + 1) j ++ ',' :: newline (level + 1) ++ layOutItems level (j' :: js)) = _
    rw [layOut_eq_spell (level + 1), List.append_assoc, List.cons_append, h_rest]
    rfl

theorem layOutEntries_eq_spell : ∀ (level : Nat) (es : List (String × Json)), es ≠ [] →
    newline (level + 1) ++ layOutEntries level es =
      inside (newline (level + 1)) (newline level) '\x7d' (spellEntries .lines level es)
  | _, [], h => absurd rfl h
  | level, [(k, j)], _ => by
    show newline (level + 1) ++
      (quote k ++ ':' :: ' ' :: (layOut (level + 1) j ++ newline level ++ ['\x7d'])) = _
    rw [layOut_eq_spell (level + 1)]
    simp [spellEntries, inside, tail, Spacing.lines]
  | level, (k, j) :: e :: es, _ => by
    have h_rest := layOutEntries_eq_spell level (e :: es) (List.cons_ne_nil _ _)
    show newline (level + 1) ++ (quote k ++ ':' :: ' ' ::
      (layOut (level + 1) j ++ ',' :: newline (level + 1) ++ layOutEntries level (e :: es))) = _
    rw [layOut_eq_spell (level + 1), List.append_assoc, List.cons_append, h_rest]
    simp [spellEntries, inside, tail, Spacing.lines]

end

end Json

end Specimen
