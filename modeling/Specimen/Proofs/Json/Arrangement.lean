import Specimen.Proofs.Json.Form

/-!
# Arrangements of a document

The entries of an object may come in any order. `Json.Arranges` says that a document is another one
with its entries in some order, and `Reader.Restores` that a reader gets back from every arrangement
what has been written. In an object, this is a matter of what is found under each key
(`Json.Carries`).

Nesting is bounded, for readers that go only so deep.
-/

namespace Specimen

variable {α β : Type} {origin : Origin} {n : Nat}

namespace Json

variable {j model : Json} {es es' : List (String × Json)} {k : String}

/-- A document is another one with the entries of objects in some order. -/
structure Arranges (j model : Json) : Prop where
  distinct : j.KeysDistinct
  distinct_model : model.KeysDistinct
  same : j.canonical = model.canonical

theorem arranges_refl (h : j.KeysDistinct) : j.Arranges j := ⟨h, h, rfl⟩

theorem arranges_canonical (h : j.KeysDistinct) : j.canonical.Arranges j :=
  ⟨j.keysDistinct_canonical, h, j.canonical_canonical⟩

theorem Arranges.eq_string {s : String} (h : j.Arranges (string s)) : j = string s :=
  canonical_eq_string_iff.1 (h.same.trans (canonical_eq_string_iff.2 rfl))

theorem Arranges.eq_number {n : Number} (h : j.Arranges (number n)) : j = number n :=
  canonical_eq_number_iff.1 (h.same.trans (canonical_eq_number_iff.2 rfl))

theorem Arranges.eq_bool {b : Bool} (h : j.Arranges (bool b)) : j = bool b :=
  canonical_eq_bool_iff.1 (h.same.trans (canonical_eq_bool_iff.2 rfl))

/-- Only null arranges null. -/
theorem Arranges.ne_null (h : j.Arranges model) (h_model : model ≠ null) : j ≠ null := by
  rintro rfl
  have h_same := h.same
  cases model <;> simp_all [canonical]

theorem forall₂_of_map_eq {f : α → β} {R : α → α → Prop} {xs ys : List α}
    (h : xs.map f = ys.map f) (h_R : ∀ x ∈ xs, ∀ y ∈ ys, f x = f y → R x y) :
    List.Forall₂ R xs ys := by
  induction xs generalizing ys with
  | nil =>
    obtain rfl := List.map_eq_nil_iff.1 h.symm
    exact .nil
  | cons x xs ih =>
    cases ys with
    | nil => cases h
    | cons y ys =>
      obtain ⟨h_x, h_xs⟩ := List.cons.inj h
      exact .cons (h_R x List.mem_cons_self y List.mem_cons_self h_x) (ih h_xs fun a h_a b h_b =>
        h_R a (List.mem_cons_of_mem _ h_a) b (List.mem_cons_of_mem _ h_b))

/-- Arrays keep the order of their items. -/
theorem Arranges.array {items : List Json} (h : j.Arranges (array items)) :
    ∃ items', j = .array items' ∧ List.Forall₂ Arranges items' items := by
  obtain ⟨items', rfl, h_map⟩ := exists_array_of_canonical_eq h.same
  have h_distinct := keysDistinct_array.1 h.distinct
  have h_distinct_model := keysDistinct_array.1 h.distinct_model
  exact ⟨items', rfl, forall₂_of_map_eq h_map fun x h_x y h_y h_xy =>
    ⟨h_distinct x h_x, h_distinct_model y h_y, h_xy⟩⟩

/-- What stands under a key arranges something, and is not nested too deep. -/
def Carries (n : Nat) (es : List (String × Json)) (k : String) (model : Option Json) : Prop :=
  Option.Rel (fun v w => v.depth < n ∧ v.Arranges w) (es.lookup k) model

/-- In objects, an arrangement carries the same under each key. -/
theorem Arranges.object (h : j.Arranges (object es)) (h_depth : j.depth ≤ n) :
    ∃ es', j = .object es' ∧ (es'.map (·.1)).Nodup ∧ ∀ k, Carries n es' k (es.lookup k) := by
  obtain ⟨es', rfl⟩ := exists_object_of_canonical_eq h.same
  have h_keys := (keysDistinct_object.1 h.distinct).1
  have h_keys_model := (keysDistinct_object.1 h.distinct_model).1
  refine ⟨es', rfl, h_keys, fun k => ?_⟩
  -- keys are distinct on both sides, so that sorting moves the entries only
  have h_same := lookup_eq_of_canonical_eq h.same h_keys h_keys_model k
  rw [Carries]
  cases h_v : es'.lookup k with
  | none =>
    rw [h_v, Option.map_none] at h_same
    rw [Option.map_eq_none_iff.1 h_same.symm]
    exact .none
  | some v =>
    rw [h_v, Option.map_some] at h_same
    obtain ⟨w, h_w, h_vw⟩ := Option.map_eq_some_iff.1 h_same.symm
    rw [h_w]
    exact .some ⟨Nat.lt_of_lt_of_le (depth_lt_of_lookup h_v) h_depth, h.distinct.of_lookup h_v,
      h.distinct_model.of_lookup h_w, h_vw.symm⟩

theorem carries_some_iff {w : Json} : Carries n es k (some w) ↔
    ∃ v, es.lookup k = some v ∧ v.depth < n ∧ v.Arranges w := by
  rw [Carries]
  cases es.lookup k <;> simp

theorem carries_none_iff : Carries n es k none ↔ es.lookup k = none := by
  rw [Carries]
  cases es.lookup k <;> simp

theorem Carries.eq_string {s : String} (h : Carries n es k (some (string s))) :
    es.lookup k = some (string s) := by
  obtain ⟨v, h_v, -, h_arranges⟩ := carries_some_iff.1 h
  rw [h_v, h_arranges.eq_string]

end Json

open Json

namespace Reader

variable {r : Reader α} {write : α → Json} {es : List (String × Json)} {k : String} {a : α}

/-- A reader gets back what has been written, from every arrangement that is nested less deep than
the number says. -/
def Restores (r : Reader α) (origin : Origin) (write : α → Json) (n : Nat) : Prop :=
  ∀ a j, j.depth < n → j.Arranges (write a) → r.read? origin j = some a

/-! ### Values -/

theorem restores_text {expected : String} : (text expected).Restores origin Json.string n := by
  intro s j _ h
  rw [h.eq_string]
  rfl

theorem restores_integer {expected : String} {low high : Int} {f : Int → α} {g : α → Int}
    (h_low : ∀ a, low ≤ g a) (h_high : ∀ a, g a ≤ high) (h_f : ∀ a, f (g a) = a) :
    ((integer expected low high).map f).Restores origin (fun a => Json.int (g a)) n := by
  intro a j _ h
  have h_read : (integer expected low high).ofJson origin (Json.int (g a)) = .ok (g a) :=
    if_pos ⟨h_low a, h_high a⟩
  rw [h.eq_number, read?, map, toOption_map]
  show ((integer expected low high).ofJson origin (Json.int (g a))).toOption.map f = some a
  rw [h_read, toOption_ok, Option.map_some, h_f]

/-! ### Collections -/

theorem Restores.list (h : r.Restores origin write n) :
    (list r).Restores origin (fun as => Json.array (as.map write)) n := by
  intro as j h_depth h_j
  obtain ⟨items, rfl, h_items⟩ := h_j.array
  -- the items are nested less deep than the list
  have h_each : ∀ x ∈ items, x.depth < n := fun x h_x => Nat.lt_trans (depth_lt_of_mem h_x) h_depth
  rw [read?, Reader.list, toOption_mapM, mapM_eq_some_iff]
  rw [List.forall₂_map_right_iff] at h_items
  clear h_depth h_j
  induction h_items with
  | nil => exact .nil
  | cons h_x _ ih =>
    obtain ⟨h_depth, h_each⟩ := List.forall_mem_cons.1 h_each
    exact .cons (h _ _ h_depth h_x) (ih h_each)

/-- What a dictionary holds under a key is read from what stands there. -/
theorem get?_of_read?_dict {es : List (String × Json)} {d : Dict α}
    (h_keys : (es.map (·.1)).Nodup) (h : (dict r).read? origin (.object es) = some d) (k : String) :
    d.get? k = (es.lookup k).bind (r.read? origin) := by
  rw [read?, dict, toOption_map, toOption_mapM] at h
  obtain ⟨ys, h_ys, rfl⟩ := Option.map_eq_some_iff.1 h
  have h_pairs := mapM_eq_some_iff.1 h_ys
  have h_step : ∀ (e : String × Json) (y : String × α), ((r.ofJson origin e.2).map fun a => (e.1, a)).toOption = some y →
      ∃ a, r.read? origin e.2 = some a ∧ y = (e.1, a) := by
    intro e y h_y
    rw [toOption_map] at h_y
    obtain ⟨a, h_a, rfl⟩ := Option.map_eq_some_iff.1 h_y
    exact ⟨a, h_a, rfl⟩
  -- reading keeps the keys, and with them that they are distinct
  have h_names : ys.map (·.1) = es.map (·.1) := by
    clear h_ys h h_keys
    induction h_pairs with
    | nil => rfl
    | cons h_y _ ih =>
      obtain ⟨a, -, rfl⟩ := h_step _ _ h_y
      rw [List.map_cons, List.map_cons, ih]
  rw [Dict.get?_ofList (h_names ▸ h_keys)]
  clear h_ys h h_keys h_names
  induction h_pairs with
  | nil => rfl
  | cons h_y _ ih =>
    obtain ⟨a, h_a, rfl⟩ := h_step _ _ h_y
    rw [List.lookup_cons, List.lookup_cons, ih]
    split <;> simp [h_a]

theorem Restores.dict (h : r.Restores origin write n) :
    (dict r).Restores origin (fun d => Json.object (d.map write).entries) n := by
  intro d j h_depth h_j
  obtain ⟨es, rfl, h_keys, h_carries⟩ := h_j.object (Nat.le_of_lt h_depth)
  -- what stands under a key is read as what the dictionary holds there
  have h_lookup : ∀ k v, es.lookup k = some v → r.read? origin v = d.get? k ∧
      (r.read? origin v).isSome = true := by
    intro k v h_v
    have h_k := h_carries k
    rw [Dict.map, Dict.lookup_map] at h_k
    cases h_a : d.entries.lookup k with
    | none =>
      rw [h_a, Option.map_none, carries_none_iff, h_v] at h_k
      cases h_k
    | some a =>
      rw [h_a, Option.map_some, carries_some_iff] at h_k
      obtain ⟨v', h_v', h_lt, h_arranges⟩ := h_k
      obtain rfl := Option.some.inj (h_v.symm.trans h_v')
      rw [h a v h_lt h_arranges, Dict.get?, h_a]
      exact ⟨rfl, rfl⟩
  have h_reads : (Reader.dict r).Reads origin (.object es) := by
    rw [reads_dict]
    exact ⟨es, rfl, fun e h_e => (h_lookup e.1 e.2 (Dict.lookup_of_mem h_keys h_e)).2⟩
  obtain ⟨d', h_d'⟩ := Option.isSome_iff_exists.1 h_reads
  rw [h_d']
  refine congrArg some (Dict.ext_get? fun k => ?_)
  rw [get?_of_read?_dict h_keys h_d' k]
  cases h_v : es.lookup k with
  | none =>
    have h_k := h_carries k
    rw [Dict.map, Dict.lookup_map, Carries, h_v] at h_k
    cases h_a : d.entries.lookup k with
    | none => rw [Dict.get?, h_a, Option.bind_none]
    | some a =>
      rw [h_a] at h_k
      cases h_k
  | some v => exact (h_lookup k v h_v).1

/-! ### Fields -/

theorem Restores.required (h : r.Restores origin write n) (h_k : Carries n es k (some (write a))) :
    r.required origin es k = some a := by
  obtain ⟨v, h_v, h_depth, h_arranges⟩ := carries_some_iff.1 h_k
  rw [Reader.required, h_v]
  exact h a v h_depth h_arranges

theorem Restores.optional {a : Option α} (h : r.Restores origin write n)
    (h_k : Carries n es k (a.map write)) : r.optional origin es k = some a := by
  cases a with
  | none => rw [Reader.optional, carries_none_iff.1 h_k]
  | some a =>
    obtain ⟨v, h_v, h_depth, h_arranges⟩ := carries_some_iff.1 h_k
    have h_read : r.read? origin v = some a := h a v h_depth h_arranges
    rw [Reader.optional, h_v]
    show (r.read? origin v).map some = _
    rw [h_read, Option.map_some]

/-- A field that is left out when there is no value. -/
theorem Restores.orNull {a : Option α} (h : r.Restores origin write n)
    (h_null : ∀ a, write a ≠ null) (h_k : Carries n es k (a.map write)) :
    (option r).optional origin es k = some (a.map some) := by
  cases a with
  | none => rw [Reader.optional, carries_none_iff.1 h_k, Option.map_none]
  | some a =>
    obtain ⟨v, h_v, h_depth, h_arranges⟩ := carries_some_iff.1 h_k
    have h_read : r.read? origin v = some a := h a v h_depth h_arranges
    -- null would have been read as no value, but a value is never written as null
    have h_some : (option r).read? origin v = some (some a) := by
      have h_ne := h_arranges.ne_null (h_null a)
      have h_map : (option r).ofJson origin v = (r.ofJson origin v).map some := by
        cases v with
        | null => exact absurd rfl h_ne
        | _ => rfl
      rw [read?, h_map, toOption_map, ← read?, h_read, Option.map_some]
    rw [Reader.optional, h_v]
    show ((option r).read? origin v).map some = _
    rw [h_some]
    rfl

end Reader

end Specimen
