import Mathlib.Data.List.Nodup
import Specimen.Json.Basic
import Specimen.Proofs.Dict

/-!
# Objects by their keys

An object may be read by looking its keys up, as long as none of them is repeated
(`Json.KeysDistinct`). That holds of everything in canonical form (`Json.keysDistinct_canonical`).

* `Json.canonical_canonical`: the canonical form is its own canonical form.
* `Json.lookup_canonical`: sorting the entries of an object changes nothing about what stands under
  a key. `Json.lookup_eq_of_canonical_eq` says it of any two documents that differ in the order of
  entries only.
* `Json.depth_lt_of_lookup` and `Json.depth_lt_of_mem`: what stands inside is less deep.
-/

namespace Specimen

namespace Dict

variable {α β : Type}

/-- What stands in the dictionary of a list stood in the list. -/
theorem mem_of_mem_ofList {es : List (String × α)} {e : String × α}
    (h : e ∈ (ofList es).entries) : e ∈ es := by
  have h_fold : ∀ (es : List (String × α)) (d : Dict α),
      e ∈ (es.foldl (fun d e => d.insert e.1 e.2) d).entries → e ∈ d.entries ∨ e ∈ es := by
    intro es
    induction es with
    | nil => exact fun _ h => .inl h
    | cons x es ih =>
      intro d h
      rcases ih _ h with h_before | h_rest
      · rcases mem_insertEntry h_before with rfl | h_before
        · exact .inr List.mem_cons_self
        · exact .inl h_before
      · exact .inr (List.mem_cons_of_mem _ h_rest)
  exact (h_fold es empty h).resolve_left List.not_mem_nil

/-- Nothing is found under a key that does not occur. -/
theorem lookup_eq_none {es : List (String × α)} {k : String} (h : k ∉ es.map (·.1)) :
    es.lookup k = none := by
  refine List.lookup_eq_none_iff.2 fun e h_e => ?_
  have h_ne : k ≠ e.1 := fun h_eq => h (List.mem_map.2 ⟨e, h_e, h_eq.symm⟩)
  simpa using h_ne

/-- With distinct keys a list is looked up like its dictionary. -/
theorem get?_ofList {es : List (String × α)} (h : (es.map (·.1)).Nodup) (k : String) :
    (ofList es).get? k = es.lookup k := by
  have h_fold : ∀ (es : List (String × α)) (d : Dict α), (es.map (·.1)).Nodup →
      (es.foldl (fun d e => d.insert e.1 e.2) d).get? k = (es.lookup k).or (d.get? k) := by
    intro es
    induction es with
    | nil => exact fun _ _ => rfl
    | cons x es ih =>
      intro d h
      obtain ⟨h_new, h_rest⟩ := List.nodup_cons.1 h
      rw [List.foldl_cons, ih _ h_rest, get?_insert, List.lookup_cons]
      by_cases h_k : k = x.1
      · -- the key does not come again
        have h_none : es.lookup x.1 = none := lookup_eq_none h_new
        simp [h_k, h_none]
      · have h_beq : (k == x.1) = false := by simpa using h_k
        simp [h_k, h_beq]
  rw [ofList, h_fold es empty h, get?_empty, Option.or_none]

/-- The entries of a dictionary make up that dictionary. -/
theorem ofList_entries (d : Dict α) : ofList d.entries = d :=
  ext_get? fun k => by rw [get?_ofList d.keys_nodup, get?]

/-- Values are transformed where they stand. -/
theorem lookup_map (f : α → β) (es : List (String × α)) (k : String) :
    (es.map fun e => (e.1, f e.2)).lookup k = (es.lookup k).map f := by
  induction es with
  | nil => rfl
  | cons e es ih =>
    rw [List.map_cons, List.lookup_cons, List.lookup_cons]
    split <;> simp_all

theorem mem_of_lookup {es : List (String × α)} {k : String} {v : α} (h : es.lookup k = some v) :
    (k, v) ∈ es := by
  obtain ⟨before, after, rfl, -⟩ := List.lookup_eq_some_iff.1 h
  exact List.mem_append_right _ List.mem_cons_self

/-- With distinct keys an entry is what is found under its key. -/
theorem lookup_of_mem {es : List (String × α)} (h : (es.map (·.1)).Nodup) {e : String × α}
    (h_e : e ∈ es) : es.lookup e.1 = some e.2 := by
  induction es with
  | nil => exact absurd h_e List.not_mem_nil
  | cons x es ih =>
    obtain ⟨h_new, h_rest⟩ := List.nodup_cons.1 h
    rw [List.lookup_cons]
    rcases List.mem_cons.1 h_e with rfl | h_e
    · simp
    · have h_ne : e.1 ≠ x.1 := fun h_eq => h_new (List.mem_map.2 ⟨e, h_e, h_eq⟩)
      have h_beq : (e.1 == x.1) = false := by simpa using h_ne
      rw [h_beq]
      exact ih h_rest h_e

end Dict

namespace Json

/-! ### Distinct keys -/

mutual

/-- No object in a document repeats a key. -/
def KeysDistinct : Json → Prop
  | array items => KeysDistinctItems items
  | object entries => (entries.map (·.1)).Nodup ∧ KeysDistinctEntries entries
  | _ => True

/-- `KeysDistinct` of every item. -/
def KeysDistinctItems : List Json → Prop
  | [] => True
  | j :: js => KeysDistinct j ∧ KeysDistinctItems js

/-- `KeysDistinct` of the value of every entry. -/
def KeysDistinctEntries : List (String × Json) → Prop
  | [] => True
  | (_, j) :: es => KeysDistinct j ∧ KeysDistinctEntries es

end

theorem keysDistinctItems_iff {items : List Json} :
    KeysDistinctItems items ↔ ∀ j ∈ items, j.KeysDistinct := by
  induction items with
  | nil => simp [KeysDistinctItems]
  | cons j js ih => rw [KeysDistinctItems, ih, List.forall_mem_cons]

theorem keysDistinctEntries_iff {es : List (String × Json)} :
    KeysDistinctEntries es ↔ ∀ e ∈ es, e.2.KeysDistinct := by
  induction es with
  | nil => simp [KeysDistinctEntries]
  | cons e es ih => rw [KeysDistinctEntries, ih, List.forall_mem_cons]

theorem keysDistinct_array {items : List Json} :
    (array items).KeysDistinct ↔ ∀ j ∈ items, j.KeysDistinct := by
  rw [KeysDistinct, keysDistinctItems_iff]

theorem keysDistinct_object {es : List (String × Json)} :
    (object es).KeysDistinct ↔ (es.map (·.1)).Nodup ∧ ∀ e ∈ es, e.2.KeysDistinct := by
  rw [KeysDistinct, keysDistinctEntries_iff]

/-- What is found under a key has distinct keys, too. -/
theorem KeysDistinct.of_lookup {es : List (String × Json)} (h : (object es).KeysDistinct)
    {k : String} {j : Json} (h_j : es.lookup k = some j) : j.KeysDistinct :=
  (keysDistinct_object.1 h).2 _ (Dict.mem_of_lookup h_j)

/-! ### Canonical forms -/

theorem canonicalItems_eq_map (items : List Json) : canonicalItems items = items.map canonical := by
  induction items with
  | nil => rfl
  | cons j js ih => rw [canonicalItems, ih, List.map_cons]

theorem canonicalEntries_eq_map (es : List (String × Json)) :
    canonicalEntries es = es.map fun e => (e.1, e.2.canonical) := by
  induction es with
  | nil => rfl
  | cons e es ih => rw [canonicalEntries, ih, List.map_cons]

theorem canonical_array (items : List Json) :
    (array items).canonical = array (items.map canonical) := by
  rw [canonical, canonicalItems_eq_map]

theorem canonical_object (es : List (String × Json)) : (object es).canonical =
    object (Dict.ofList (es.map fun e => (e.1, e.2.canonical))).entries := by
  rw [canonical, canonicalEntries_eq_map]

mutual

/-- **Canonical forms repeat no key.** -/
theorem keysDistinct_canonical : ∀ j : Json, j.canonical.KeysDistinct
  | null | bool _ | number _ | string _ => by simp only [canonical, KeysDistinct]
  | array items => by
    rw [canonical_array, keysDistinct_array]
    exact List.forall_mem_map.2 (keysDistinct_canonicalItems items)
  | object es => by
    rw [canonical_object, keysDistinct_object]
    refine ⟨Dict.keys_nodup _, fun e h_e => ?_⟩
    obtain ⟨e', h_e', rfl⟩ := List.mem_map.1 (Dict.mem_of_mem_ofList h_e)
    exact keysDistinct_canonicalEntries es e' h_e'

theorem keysDistinct_canonicalItems : ∀ items : List Json,
    ∀ j ∈ items, j.canonical.KeysDistinct
  | j :: js, x, h_x => (List.mem_cons.1 h_x).elim (fun h => h ▸ keysDistinct_canonical j)
    (keysDistinct_canonicalItems js x)

theorem keysDistinct_canonicalEntries : ∀ es : List (String × Json),
    ∀ e ∈ es, e.2.canonical.KeysDistinct
  | (_, j) :: es, x, h_x => (List.mem_cons.1 h_x).elim (fun h => h ▸ keysDistinct_canonical j)
    (keysDistinct_canonicalEntries es x)

end

mutual

/-- The canonical form is its own canonical form. -/
theorem canonical_canonical : ∀ j : Json, j.canonical.canonical = j.canonical
  | null | bool _ | number _ | string _ => by simp only [canonical]
  | array items => by
    rw [canonical_array, canonical_array, List.map_map]
    exact congrArg array (List.map_congr_left (canonicalItems_canonical items))
  | object es => by
    rw [canonical_object, canonical_object]
    have h_same : ∀ e ∈ (Dict.ofList (es.map fun e => (e.1, e.2.canonical))).entries,
        (e.1, e.2.canonical) = e := by
      intro e h_e
      obtain ⟨e', h_e', rfl⟩ := List.mem_map.1 (Dict.mem_of_mem_ofList h_e)
      exact Prod.ext rfl (canonicalEntries_canonical es e' h_e')
    rw [List.map_congr_left h_same, List.map_id', Dict.ofList_entries]

theorem canonicalItems_canonical : ∀ items : List Json,
    ∀ j ∈ items, j.canonical.canonical = j.canonical
  | j :: js, x, h_x => (List.mem_cons.1 h_x).elim (fun h => h ▸ canonical_canonical j)
    (canonicalItems_canonical js x)

theorem canonicalEntries_canonical : ∀ es : List (String × Json),
    ∀ e ∈ es, e.2.canonical.canonical = e.2.canonical
  | (_, j) :: es, x, h_x => (List.mem_cons.1 h_x).elim (fun h => h ▸ canonical_canonical j)
    (canonicalEntries_canonical es x)

end

section Same

variable {j j' : Json} {es es' : List (String × Json)}

/-- Sorting keeps what stands under a key. -/
theorem lookup_canonical (h : (es.map (·.1)).Nodup) (k : String) :
    (Dict.ofList (es.map fun e => (e.1, e.2.canonical))).entries.lookup k =
      (es.lookup k).map canonical := by
  have h_nodup : ((es.map fun e => (e.1, e.2.canonical)).map (·.1)).Nodup := by
    rw [List.map_map]
    exact h
  exact (Dict.get?_ofList h_nodup k).trans (Dict.lookup_map canonical es k)

/-- In objects that differ in the order of entries only, the same stands under each key. -/
theorem lookup_eq_of_canonical_eq (h : (object es).canonical = (object es').canonical)
    (h_keys : (es.map (·.1)).Nodup) (h_keys' : (es'.map (·.1)).Nodup) (k : String) :
    (es.lookup k).map canonical = (es'.lookup k).map canonical := by
  rw [canonical_object, canonical_object, object.injEq] at h
  rw [← lookup_canonical h_keys, ← lookup_canonical h_keys', h]

theorem exists_object_of_canonical_eq (h : j.canonical = (object es).canonical) :
    ∃ es, j = object es := by
  rw [canonical_object] at h
  cases j <;> simp_all [canonical]

theorem exists_array_of_canonical_eq {items : List Json}
    (h : j.canonical = (array items).canonical) :
    ∃ items', j = array items' ∧ items'.map canonical = items.map canonical := by
  rw [canonical_array] at h
  cases j with
  | array items' => exact ⟨items', rfl, array.inj ((canonical_array items').symm.trans h)⟩
  | _ => simp [canonical] at h

/-- A document without parts is its own canonical form, and that of no other. -/
theorem canonical_eq_string_iff {s : String} : j.canonical = string s ↔ j = string s := by
  cases j <;> simp [canonical]

theorem canonical_eq_number_iff {n : Number} : j.canonical = number n ↔ j = number n := by
  cases j <;> simp [canonical]

theorem canonical_eq_bool_iff {b : Bool} : j.canonical = bool b ↔ j = bool b := by
  cases j <;> simp [canonical]

end Same

/-! ### Depth -/

theorem depth_le_of_mem {items : List Json} {j : Json} (h : j ∈ items) :
    j.depth ≤ depthItems items := by
  induction items with
  | nil => exact absurd h List.not_mem_nil
  | cons x items ih =>
    rw [depthItems]
    rcases List.mem_cons.1 h with rfl | h
    · exact Nat.le_max_left _ _
    · exact Nat.le_trans (ih h) (Nat.le_max_right _ _)

theorem depth_le_of_mem_entries {es : List (String × Json)} {e : String × Json} (h : e ∈ es) :
    e.2.depth ≤ depthEntries es := by
  induction es with
  | nil => exact absurd h List.not_mem_nil
  | cons x es ih =>
    rw [depthEntries]
    rcases List.mem_cons.1 h with rfl | h
    · exact Nat.le_max_left _ _
    · exact Nat.le_trans (ih h) (Nat.le_max_right _ _)

theorem depth_lt_of_mem {items : List Json} {j : Json} (h : j ∈ items) :
    j.depth < (array items).depth := by
  rw [depth]
  exact Nat.lt_succ_of_le (depth_le_of_mem h)

theorem depth_lt_of_lookup {es : List (String × Json)} {k : String} {j : Json}
    (h : es.lookup k = some j) : j.depth < (object es).depth := by
  rw [depth]
  exact Nat.lt_succ_of_le (depth_le_of_mem_entries (Dict.mem_of_lookup h))

end Json

end Specimen
