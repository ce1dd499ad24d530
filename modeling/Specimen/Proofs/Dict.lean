import Mathlib.Tactic.Tauto
import Specimen.Dict

/-!
# What updates of dictionaries do to their keys

The laws of `Specimen.Dict` say what an update does to a look-up. Here they are turned into
statements about which keys there are, for single insertions, for the set of the texts of a
list (`NameSet.mem_ofNames`), and for the insertion of whatever is not there yet
(`Dict.contains_foldl_keep`).
-/

namespace Specimen

namespace Dict

variable {α : Type}

@[simp] theorem contains_empty (k : String) : (empty : Dict α).contains k = false := rfl

theorem contains_iff {d : Dict α} {k : String} : d.contains k = true ↔ ∃ v, d.get? k = some v :=
  Option.isSome_iff_exists

theorem contains_insert (d : Dict α) (k : String) (v : α) (j : String) :
    (d.insert k v).contains j = true ↔ j = k ∨ d.contains j = true := by
  rw [contains, get?_insert]
  split
  · next h => simp [h]
  · next h => simp [h, contains]

/-- The keys of a list of entries are those of the dictionary before them and their own. -/
theorem contains_foldl_insert (es : List (String × α)) (d : Dict α) (j : String) :
    (es.foldl (fun d e => d.insert e.1 e.2) d).contains j = true ↔
      d.contains j = true ∨ j ∈ es.map (·.1) := by
  induction es generalizing d with
  | nil => simp
  | cons e es ih =>
    rw [List.foldl_cons, ih, contains_insert, List.map_cons, List.mem_cons]
    tauto

/-- The same when entries are kept that are there already. -/
theorem contains_foldl_keep (es : List (String × α)) (d : Dict α) (j : String) :
    (es.foldl (fun d e => if d.contains e.1 then d else d.insert e.1 e.2) d).contains j = true ↔
      d.contains j = true ∨ j ∈ es.map (·.1) := by
  induction es generalizing d with
  | nil => simp
  | cons e es ih =>
    rw [List.foldl_cons, ih, List.map_cons, List.mem_cons]
    split
    · next h =>
      constructor
      · exact fun hj => hj.imp_right .inr
      · rintro (hj | rfl | hj)
        · exact .inl hj
        · exact .inl h
        · exact .inr hj
    · rw [contains_insert]
      tauto

theorem keys_nodup (d : Dict α) : d.keys.Nodup :=
  d.keys_ascending.imp fun {a b} (h : a < b) (heq : a = b) => String.lt_irrefl b (heq ▸ h)

/-- The values are transformed each under its own key. -/
theorem get?_map {β : Type} (f : α → β) (d : Dict α) (k : String) :
    (d.map f).get? k = (d.get? k).map f := by
  show (d.entries.map fun e => (e.1, f e.2)).lookup k = (d.entries.lookup k).map f
  induction d.entries with
  | nil => rfl
  | cons e es ih =>
    rw [List.map_cons, List.lookup_cons, List.lookup_cons, ih]
    cases k == e.1 <;> rfl

end Dict

namespace NameSet

theorem mem_ofNames {names : List String} {id : String} :
    id ∈ (ofNames names).keys ↔ id ∈ names := by
  rw [Dict.mem_keys_iff, ofNames, Dict.ofList, Dict.contains_foldl_insert]
  simp

/-- Inserting texts one after the other adds just these. -/
theorem contains_foldl_insert (names : List String) (ids : NameSet) (id : String) :
    (names.foldl (fun ids name => ids.insert name ()) ids).contains id = true ↔
      ids.contains id = true ∨ id ∈ names := by
  have h_entries := Dict.contains_foldl_insert (names.map fun name => (name, ())) ids id
  rw [List.foldl_map, List.map_map] at h_entries
  simpa using h_entries

end NameSet

end Specimen
