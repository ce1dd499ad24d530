import Mathlib.Data.List.Infix
import Specimen.Proofs.Config.WellFormed
import Specimen.Proofs.Dict

/-!
# Character sets of configurations

Which character set counts at a place is said by the text alone: that of the nearest constraint from
there outwards that names one (`Config.nearestCharset?`). References do not matter, as they lead to
other places. What an id means is said by the declarations, which come before the built-in sets
(`Config.charsetText?`).

Of what is declared for an id only the different characters count, in the order in which they come
up first (`CharacterSet.letters`). Two configurations that declare the same characters in this sense
have the same issues (`Config.check_congr`); so it is when a character is repeated
(`Config.letters_repeat`).
-/

namespace Specimen

/-! ### What counts of a declaration -/

/-- The different characters of a text. -/
def CharacterSet.letters (chars : String) : List Char := chars.toList.eraseDups

theorem CharacterSet.mem_letters {chars : String} {x : Char} :
    x ∈ letters chars ↔ x ∈ chars.toList := List.mem_eraseDups

theorem CharacterSet.ofString?_congr {id chars chars' : String}
    (h : letters chars = letters chars') : ofString? id chars = ofString? id chars' := by
  simp only [letters] at h
  simp only [ofString?, h]

/-- A set has the different characters of the text that it is made of. -/
theorem CharacterSet.chars_of_ofString? {id chars : String} {set : CharacterSet}
    (h : ofString? id chars = .ok set) : set.chars = letters chars := by
  unfold ofString? at h
  split at h
  · rw [← Except.ok.inj h]
    rfl
  · cases h

/-- **Repetitions.** A character that has come up before does not count again. -/
theorem CharacterSet.letters_repeat {before after : List Char} {x : Char} (h : x ∈ before) :
    letters (String.ofList (before ++ x :: after)) = letters (String.ofList (before ++ after)) := by
  rw [letters, letters, String.toList_ofList, String.toList_ofList, List.eraseDups_append,
    List.eraseDups_append, List.removeAll, List.filter_cons_of_neg (by simpa using h),
    List.removeAll]

namespace Config

/-! ### The nearest character set -/

/-- The constraint at a place and those in which it is embedded, from the innermost one on. -/
def outwards (c : Config) (p : Place) : List Constraint := (p.inits.filterMap c.at?).reverse

/-- The character set that is named nearest to a place, there or further out. -/
def nearestCharset? (c : Config) (p : Place) : Option String :=
  (c.outwards p).findSome? Constraint.charset

/-- The characters that an id stands for: those that are declared, or else those that are built
in. -/
def charsetText? (c : Config) (id : String) : Option String :=
  (c.charsets.get? id).or (CharacterSets.builtinTexts.lookup id)

variable {c : Config} {p : Place} {x : Constraint}

theorem nearestCharset?_nil (c : Config) : c.nearestCharset? [] = none := rfl

/-- **One step inwards.** A set that is named at a place comes before those further out. -/
theorem nearestCharset?_append {i : Nat} (h : c.at? (p ++ [i]) = some x) :
    c.nearestCharset? (p ++ [i]) = x.charset.or (c.nearestCharset? p) := by
  have h_inits : (p ++ [i]).inits = p.inits ++ [p ++ [i]] := by
    simp [List.inits_append]
  rw [nearestCharset?, outwards, h_inits, List.filterMap_append, List.reverse_append,
    List.filterMap_cons_some h, List.filterMap_nil, List.reverse_singleton, List.singleton_append,
    List.findSome?_cons]
  cases x.charset <;> rfl

/-! ### Declarations with the same characters -/

/-- Two entries declare the same characters under the same id. -/
def SameLetters (e e' : String × String) : Prop :=
  e.1 = e'.1 ∧ CharacterSet.letters e.2 = CharacterSet.letters e'.2

section Same

variable {sets sets' : Dict String} (h : sets.map CharacterSet.letters =
  sets'.map CharacterSet.letters)
include h

theorem forall₂_sameLetters : List.Forall₂ SameLetters sets.entries sets'.entries := by
  have h_entries := congrArg Dict.entries h
  rw [Dict.map, Dict.map, ← List.forall₂_eq_eq_eq, List.forall₂_map_left_iff,
    List.forall₂_map_right_iff] at h_entries
  exact h_entries.imp fun e e' h_eq => Prod.mk.inj h_eq

theorem contains_congr (id : String) : sets.contains id = sets'.contains id := by
  have h_get := congrArg (fun d => (d.get? id).isSome) h
  simp only [Dict.get?_map, Option.isSome_map] at h_get
  exact h_get

theorem declarationIssues_congr : declarationIssues sets = declarationIssues sets' := by
  have h_entries := forall₂_sameLetters h
  rw [declarationIssues, declarationIssues]
  generalize sets.entries = es, sets'.entries = es' at h_entries
  induction h_entries with
  | nil => rfl
  | cons h_e _ ih =>
    rw [List.filterMap_cons, List.filterMap_cons, ih, h_e.1, CharacterSet.ofString?_congr h_e.2]

theorem charsetIssues_congr (path : String) (charset : Option String) :
    charsetIssues sets path charset = charsetIssues sets' path charset := by
  cases charset with
  | none => rfl
  | some id => rw [charsetIssues, charsetIssues, contains_congr h]

theorem mentionIssues_congr (ms : List Mention) (seen : Dict String) :
    mentionIssues sets seen ms = mentionIssues sets' seen ms := by
  induction ms generalizing seen with
  | nil => rfl
  | cons m ms ih =>
    match m with
    | .unnamed _ _ => rw [mentionIssues, mentionIssues, ih]
    | .reference _ _ _ => exact ih seen
    | .constraint _ _ none _ _ =>
      simp only [mentionIssues, charsetIssues_congr h, ih]
    | .constraint _ _ (some _) _ _ =>
      simp only [mentionIssues, charsetIssues_congr h, ih]

end Same

/-- **The check** goes by the characters that count. -/
theorem check_congr {sets : Dict String}
    (h : sets.map CharacterSet.letters = c.charsets.map CharacterSet.letters) :
    { c with charsets := sets }.check = c.check := by
  show Report.mk (versionIssues c.version ++ declarationIssues sets ++
      mentionIssues sets .empty c.mentions ++ referenceIssues c.declarations c.mentions ++
        cycleIssues c.dependencies) _ = _
  rw [declarationIssues_congr h, mentionIssues_congr h]
  rfl

/-- A declaration with the same characters can take the place of another one. -/
theorem map_letters_insert {id chars chars' : String} (h_get : c.charsets.get? id = some chars)
    (h : CharacterSet.letters chars' = CharacterSet.letters chars) :
    (c.charsets.insert id chars').map CharacterSet.letters =
      c.charsets.map CharacterSet.letters := by
  refine Dict.ext_get? fun id' => ?_
  rw [Dict.get?_map, Dict.get?_map, Dict.get?_insert]
  split
  · next h_eq => rw [h_eq, h_get, Option.map_some, Option.map_some, h]
  · rfl

end Config

end Specimen
