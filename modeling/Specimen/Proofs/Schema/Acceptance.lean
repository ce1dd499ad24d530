import Mathlib.Data.List.Forall2
import Mathlib.Data.List.Nodup
import Specimen.Proofs.Json.Form
import Specimen.Schema.Check

/-!
# Which documents schemas accept

A document is accepted by a schema if it has no violations. For the rules that schemas of records
are made of, this is said in terms of what stands in the document: values of a type, single texts,
lists, and objects with certain fields (`Schema.objectOf_iff`).

Alternatives that ask for different texts under one key exclude each other (`Schema.Demands`), so
that exactly one of them holds as soon as one does (`Schema.oneOf_iff`).
-/

namespace Specimen.Schema

open Json

variable {names : List (String × Option Schema)} {fuel : Nat} {p : Pointer} {j : Json}

/-! ### Rules -/

theorem rules_iff {rs : List Rule} : violations names (fuel + 1) (.rules rs) p j = [] ↔
    ∀ r ∈ rs, ruleViolations names fuel r p j = [] := by
  show (rs.flatMap fun r => ruleViolations names fuel r p j) = [] ↔ _
  rw [List.flatMap_eq_nil_iff]

theorem rules_singleton_iff {r : Rule} : violations names (fuel + 1) (.rules [r]) p j = [] ↔
    ruleViolations names fuel r p j = [] := by
  rw [rules_iff, List.forall_mem_singleton]

theorem rules_pair_iff {r r' : Rule} : violations names (fuel + 1) (.rules [r, r']) p j = [] ↔
    ruleViolations names fuel r p j = [] ∧ ruleViolations names fuel r' p j = [] := by
  rw [rules_iff, List.forall_mem_cons, List.forall_mem_singleton]

theorem rules_triple_iff {r r' r'' : Rule} :
    violations names (fuel + 1) (.rules [r, r', r'']) p j = [] ↔
      ruleViolations names fuel r p j = [] ∧ ruleViolations names fuel r' p j = [] ∧
        ruleViolations names fuel r'' p j = [] := by
  rw [rules_iff, List.forall_mem_cons, List.forall_mem_cons, List.forall_mem_singleton]

theorem reference_eq {target : String} {s : Schema} (h : names.lookup target = some (some s)) :
    violations names (fuel + 1) (.reference target) p j = violations names fuel s p j := by
  rw [violations, h]

theorem expect_eq_nil_iff {holds : Bool} {found : Json} {cause : Cause} :
    expect holds p found cause = [] ↔ holds = true := by
  cases holds <;> simp [expect]

theorem anyOf_iff {ss : List Schema} : ruleViolations names (fuel + 1) (.anyOf ss) p j = [] ↔
    ∃ s ∈ ss, violations names fuel s p j = [] := by
  show expect (ss.any fun s => (violations names fuel s p j).isEmpty) p j .noneOf = [] ↔ _
  simp only [expect_eq_nil_iff, List.any_eq_true, List.isEmpty_iff]

theorem allOf_iff {ss : List Schema} : ruleViolations names (fuel + 1) (.allOf ss) p j = [] ↔
    ∀ s ∈ ss, violations names fuel s p j = [] := by
  show (ss.flatMap fun s => violations names fuel s p j) = [] ↔ _
  rw [List.flatMap_eq_nil_iff]

theorem anyOf_pair_iff {s s' : Schema} :
    ruleViolations names (fuel + 1) (.anyOf [s, s']) p j = [] ↔
      violations names fuel s p j = [] ∨ violations names fuel s' p j = [] := by
  simp [anyOf_iff]

theorem allOf_singleton_iff {s : Schema} :
    ruleViolations names (fuel + 1) (.allOf [s]) p j = [] ↔ violations names fuel s p j = [] := by
  rw [allOf_iff, List.forall_mem_singleton]

theorem type_iff {types : List JsonType} :
    ruleViolations names (fuel + 1) (.type types) p j = [] ↔ ∃ t ∈ types, t.admits j = true := by
  show expect (types.any fun t => t.admits j) p j (.type types) = [] ↔ _
  rw [expect_eq_nil_iff, List.any_eq_true]

theorem type_singleton_iff {t : JsonType} :
    ruleViolations names (fuel + 1) (.type [t]) p j = [] ↔ t.admits j = true := by
  simp [type_iff]

theorem type_pair_iff {t t' : JsonType} : ruleViolations names (fuel + 1) (.type [t, t']) p j = [] ↔
    t.admits j = true ∨ t'.admits j = true := by
  simp [type_iff]

theorem enumeration_iff {values : List Json} :
    ruleViolations names (fuel + 1) (.enumeration values) p j = [] ↔
      ∃ v ∈ values, j.sameValue v = true := by
  show expect (values.any j.sameValue) p j (.notListed values) = [] ↔ _
  rw [expect_eq_nil_iff, List.any_eq_true]

theorem required_iff {keys : List String} {es : List (String × Json)} :
    ruleViolations names (fuel + 1) (.required keys) p (.object es) = [] ↔
      ∀ k ∈ keys, (es.lookup k).isSome = true := by
  show (keys.flatMap fun k => expect (es.lookup k).isSome p (.object es) (.missingKey k)) = [] ↔ _
  simp only [List.flatMap_eq_nil_iff, expect_eq_nil_iff]

theorem entries_iff {listed : List (String × Schema)} {es : List (String × Json)} :
    ruleViolations names (fuel + 1) (.entries listed) p (.object es) = [] ↔
      ∀ e ∈ listed, MayHave es e.1 fun v => violations names fuel e.2 (p ++ [e.1]) v = [] := by
  refine List.flatMap_eq_nil_iff.trans (forall₂_congr fun e _ => ?_)
  cases h : es.lookup e.1 with
  | none => simp [MayHave, h]
  | some v => simp [MayHave, h]

/-- Objects that have listed keys only. -/
theorem everyEntry_closed_iff {e : String × Schema} {listed : List (String × Schema)}
    {es : List (String × Json)} :
    ruleViolations names (fuel + 1) (.everyEntry (e :: listed) (.verdict false)) p (.object es) = [] ↔
      ∀ x ∈ es, ∃ s, (e :: listed).lookup x.1 = some s ∧
        violations names fuel s (p ++ [x.1]) x.2 = [] := by
  refine List.append_eq_nil_iff.trans ?_
  simp only [List.flatMap_eq_nil_iff, expect_eq_nil_iff, List.isEmpty_iff,
    List.filterMap_eq_nil_iff]
  -- a key that is not listed is a violation of its own, and listed ones have a schema
  rw [← forall₂_and]
  refine forall₂_congr fun x _ => ?_
  cases (e :: listed).lookup x.1 with
  | none => simp
  | some s => simp

theorem items_iff {s : Schema} {items : List Json} :
    ruleViolations names (fuel + 1) (.items s) p (.array items) = [] ↔
      ∀ x ∈ items.zipIdx, violations names fuel s (p ++ [toString x.2]) x.1 = [] :=
  List.flatMap_eq_nil_iff

theorem bound_iff {b : Bound} {limit n : Number} :
    ruleViolations names (fuel + 1) (.bound b limit) p (.number n) = [] ↔
      b.admits limit n = true :=
  expect_eq_nil_iff

/-! ### Values -/

/-- The documents of a type. -/
def ofType (t : JsonType) : Schema := .rules [.type [t]]

/-- One certain text. -/
def onlyText (text : String) : Schema := .rules [.enumeration [.string text], .type [.string]]

/-- Texts, or null. -/
def textOrNull : Schema := .rules [.type [.null, .string]]

/-- Integers that are not negative. -/
def natural : Schema := .rules [.bound .least (.float .zero), .type [.integer]]

/-- Integers that are not negative, or null. -/
def naturalOrNull : Schema := .rules [.bound .least (.float .zero), .type [.integer, .null]]

/-- Lists of documents. -/
def arrayOf (s : Schema) : Schema := .rules [.items s, .type [.array]]

/-- Objects all of whose values are accepted by a schema. -/
def mapOf (s : Schema) : Schema := .rules [.everyEntry [] s, .type [.object]]

/-- Objects with fields, of which some are required. -/
def objectOf (listed : List (String × Schema)) (required : List String) : Schema :=
  .rules [.entries listed, .required required, .type [.object]]

theorem ofType_iff {t : JsonType} :
    violations names (fuel + 2) (ofType t) p j = [] ↔ t.admits j = true := by
  rw [ofType, rules_singleton_iff, type_singleton_iff]

theorem admits_string_iff : JsonType.string.admits j = true ↔ IsText j := by
  cases j <;> simp [JsonType.admits, IsText]

theorem admits_boolean_iff : JsonType.boolean.admits j = true ↔ ∃ b, j = .bool b := by
  cases j <;> simp [JsonType.admits]

theorem admits_null_iff : JsonType.null.admits j = true ↔ j = .null := by
  cases j <;> simp [JsonType.admits]

theorem admits_integer_iff :
    JsonType.integer.admits j = true ↔ IsNumber (fun n => n.isIntegral = true) j := by
  cases j <;> simp [JsonType.admits, IsNumber]

theorem admits_array_iff : JsonType.array.admits j = true ↔ ∃ items, j = .array items := by
  cases j <;> simp [JsonType.admits]

theorem admits_object_iff : JsonType.object.admits j = true ↔ ∃ es, j = .object es := by
  cases j <;> simp [JsonType.admits]

theorem sameValue_string_iff {s t : String} :
    (Json.string s).sameValue (.string t) = true ↔ s = t := by
  rw [Json.sameValue, beq_iff_eq]

theorem onlyText_iff {text : String} :
    violations names (fuel + 2) (onlyText text) p j = [] ↔ j = .string text := by
  rw [onlyText, rules_pair_iff, enumeration_iff, type_singleton_iff]
  constructor
  · rintro ⟨h_same, h_type⟩
    obtain ⟨s, rfl⟩ := admits_string_iff.1 h_type
    obtain ⟨v, h_v, h_same⟩ := h_same
    obtain rfl := List.mem_singleton.1 h_v
    exact congrArg Json.string (sameValue_string_iff.1 h_same)
  · rintro rfl
    exact ⟨⟨_, List.mem_singleton_self _, sameValue_string_iff.2 rfl⟩,
      admits_string_iff.2 ⟨text, rfl⟩⟩

theorem textOrNull_iff :
    violations names (fuel + 2) textOrNull p j = [] ↔ OrNull IsText j := by
  rw [textOrNull, rules_singleton_iff, type_pair_iff, admits_null_iff, admits_string_iff, OrNull]

theorem natural_iff :
    violations names (fuel + 2) natural p j = [] ↔ IsNumber Number.IsNatural j := by
  rw [natural, rules_pair_iff, type_singleton_iff, admits_integer_iff]
  constructor
  · rintro ⟨h_bound, n, rfl, h_integral⟩
    exact ⟨n, rfl, h_integral, bound_iff.1 h_bound⟩
  · rintro ⟨n, rfl, h_integral, h_bound⟩
    exact ⟨bound_iff.2 h_bound, n, rfl, h_integral⟩

theorem naturalOrNull_iff :
    violations names (fuel + 2) naturalOrNull p j = [] ↔ OrNull (IsNumber Number.IsNatural) j := by
  rw [naturalOrNull, rules_pair_iff, type_pair_iff, admits_integer_iff, admits_null_iff]
  constructor
  · rintro ⟨h_bound, ⟨n, rfl, h_integral⟩ | rfl⟩
    · exact .inr ⟨n, rfl, h_integral, bound_iff.1 h_bound⟩
    · exact .inl rfl
  · rintro (rfl | ⟨n, rfl, h_integral, h_bound⟩)
    · -- a bound of numbers says nothing of null
      exact ⟨rfl, .inr rfl⟩
    · exact ⟨bound_iff.2 h_bound, .inl ⟨n, rfl, h_integral⟩⟩

/-! ### Collections -/

/-- Lists are accepted item by item, if what a schema accepts does not depend on the place. -/
theorem arrayOf_iff {s : Schema} {Form : Json → Prop}
    (h : ∀ items, j = .array items → ∀ x ∈ items, ∀ p,
      violations names fuel s p x = [] ↔ Form x) :
    violations names (fuel + 2) (arrayOf s) p j = [] ↔ IsListOf Form j := by
  rw [arrayOf, rules_pair_iff, type_singleton_iff, admits_array_iff]
  constructor
  · rintro ⟨h_items, items, rfl⟩
    refine ⟨items, rfl, fun x h_x => ?_⟩
    obtain ⟨i, h_i, rfl⟩ := List.getElem_of_mem h_x
    have h_entry : (items[i], i) ∈ items.zipIdx := List.mem_zipIdx_iff_getElem?.2 (by simp)
    exact (h items rfl _ h_x _).1 (items_iff.1 h_items _ h_entry)
  · rintro ⟨items, rfl, h_items⟩
    refine ⟨items_iff.2 fun x h_x => ?_, items, rfl⟩
    have h_mem : x.1 ∈ items := List.fst_mem_of_mem_zipIdx h_x
    exact (h items rfl _ h_mem _).2 (h_items _ h_mem)

theorem texts_iff :
    violations names (fuel + 4) (arrayOf (ofType .string)) p j = [] ↔ IsListOf IsText j :=
  arrayOf_iff fun _ _ _ _ _ => ofType_iff.trans admits_string_iff

theorem mapOf_iff {t : JsonType} : violations names (fuel + 4) (mapOf (ofType t)) p j = [] ↔
    IsMapOf (fun v => t.admits v = true) j := by
  rw [mapOf, rules_pair_iff, type_singleton_iff, admits_object_iff]
  have h_entries : ∀ es, ruleViolations names (fuel + 3) (.everyEntry [] (ofType t)) p
      (.object es) = [] ↔ ∀ e ∈ es, t.admits e.2 = true := by
    intro es
    exact List.flatMap_eq_nil_iff.trans (forall₂_congr fun e _ => ofType_iff)
  constructor
  · rintro ⟨h_every, es, rfl⟩
    exact ⟨es, rfl, (h_entries es).1 h_every⟩
  · rintro ⟨es, rfl, h_every⟩
    exact ⟨(h_entries es).2 h_every, es, rfl⟩

/-- What a record asks for under a listed key. -/
def Field (accepts : String × Schema → Json → Prop) (required : List String)
    (es : List (String × Json)) (e : String × Schema) : Prop :=
  if e.1 ∈ required then Has es e.1 (accepts e) else MayHave es e.1 (accepts e)

theorem forall_field_iff {accepts : String × Schema → Json → Prop} {listed : List (String × Schema)}
    {required : List String} {es : List (String × Json)} (h : required ⊆ listed.map (·.1)) :
    (∀ e ∈ listed, Field accepts required es e) ↔
      (∀ k ∈ required, (es.lookup k).isSome = true) ∧
        ∀ e ∈ listed, MayHave es e.1 (accepts e) := by
  constructor
  · intro h_fields
    refine ⟨fun k h_k => ?_, fun e h_e => ?_⟩
    · obtain ⟨e, h_e, rfl⟩ := List.mem_map.1 (h h_k)
      have h_field := h_fields e h_e
      rw [Field, if_pos h_k] at h_field
      exact (has_iff.1 h_field).1
    · have h_field := h_fields e h_e
      rw [Field] at h_field
      split at h_field
      · exact (has_iff.1 h_field).2
      · exact h_field
  · rintro ⟨h_required, h_listed⟩ e h_e
    rw [Field]
    split
    · rename_i h_k
      exact has_iff.2 ⟨h_required e.1 h_k, h_listed e h_e⟩
    · exact h_listed e h_e

/-- **Records**, field by field. -/
theorem objectOf_iff {listed : List (String × Schema)} {required : List String}
    (h : required ⊆ listed.map (·.1)) :
    violations names (fuel + 2) (objectOf listed required) p j = [] ↔
      ∃ es, j = .object es ∧ ∀ e ∈ listed,
        Field (fun e v => violations names fuel e.2 (p ++ [e.1]) v = []) required es e := by
  rw [objectOf, rules_triple_iff, type_singleton_iff, admits_object_iff]
  constructor
  · rintro ⟨h_entries, h_required, es, rfl⟩
    exact ⟨es, rfl, (forall_field_iff h).2
      ⟨required_iff.1 h_required, entries_iff.1 h_entries⟩⟩
  · rintro ⟨es, rfl, h_fields⟩
    obtain ⟨h_required, h_entries⟩ := (forall_field_iff h).1 h_fields
    exact ⟨entries_iff.2 h_entries, required_iff.2 h_required, es, rfl⟩

/-! ### Alternatives -/

/-- A schema asks for a certain text under a key. -/
def Demands (key tag : String) (s : Schema) : Prop :=
  ∃ listed required, s = objectOf listed required ∧ required ⊆ listed.map (·.1) ∧
    (key, onlyText tag) ∈ listed ∧ key ∈ required

theorem Demands.tag_eq {key tag : String} {s : Schema} (h : Demands key tag s)
    (h_accepted : violations names (fuel + 4) s p j = []) :
    ∃ es, j = .object es ∧ es.lookup key = some (.string tag) := by
  obtain ⟨listed, required, rfl, h_known, h_listed, h_required⟩ := h
  obtain ⟨es, rfl, h_fields⟩ := (objectOf_iff h_known).1 h_accepted
  have h_field := h_fields _ h_listed
  rw [Field, if_pos h_required] at h_field
  obtain ⟨v, h_v, h_tag⟩ := h_field
  exact ⟨es, rfl, h_v.trans (congrArg some (onlyText_iff.1 h_tag))⟩

/-- Of schemas that exclude each other at most one accepts. -/
theorem filter_eq_of_exclusive {ss : List Schema} {accepts : Schema → Bool}
    (h : ss.Pairwise fun s s' => ¬ (accepts s = true ∧ accepts s' = true)) :
    ss.filter accepts = [] ∨ ∃ s ∈ ss, accepts s = true ∧ ss.filter accepts = [s] := by
  match h_filter : ss.filter accepts with
  | [] => exact .inl rfl
  | [s] =>
    have h_s : s ∈ ss.filter accepts := h_filter ▸ List.mem_singleton_self s
    obtain ⟨h_mem, h_accepts⟩ := List.mem_filter.1 h_s
    exact .inr ⟨s, h_mem, h_accepts, rfl⟩
  -- two schemas that accept would have to exclude each other
  | s :: s' :: rest =>
    have h_pair : (s :: s' :: rest).Pairwise fun s s' =>
        ¬ (accepts s = true ∧ accepts s' = true) := h_filter ▸ h.sublist List.filter_sublist
    have h_both : ∀ x ∈ s :: s' :: rest, accepts x = true :=
      fun x h_x => (List.mem_filter.1 (h_filter ▸ h_x)).2
    have h_first := (List.pairwise_cons.1 h_pair).1 s' List.mem_cons_self
    exact absurd ⟨h_both s List.mem_cons_self,
      h_both s' (List.mem_cons_of_mem _ List.mem_cons_self)⟩ h_first

/-- **Alternatives with different tags**: exactly one of them holds as soon as one does. -/
theorem oneOf_iff {key : String} {tags : List String} {ss : List Schema}
    (h : List.Forall₂ (Demands key) tags ss) (h_tags : tags.Nodup) :
    ruleViolations names (fuel + 5) (.oneOf ss) p j = [] ↔
      ∃ s ∈ ss, violations names (fuel + 4) s p j = [] := by
  have h_exclusive : ss.Pairwise fun s s' => ¬ ((violations names (fuel + 4) s p j).isEmpty = true ∧
      (violations names (fuel + 4) s' p j).isEmpty = true) := by
    induction h with
    | nil => exact .nil
    | @cons tag s tags ss h_first h_rest ih =>
      obtain ⟨h_new, h_tags⟩ := List.nodup_cons.1 h_tags
      refine .cons (fun s' h_s' ⟨h_accepted, h_accepted'⟩ => ?_) (ih h_tags)
      obtain ⟨i, h_i, rfl⟩ := List.getElem_of_mem h_s'
      -- both would find their own tag under the key
      obtain ⟨es, rfl, h_tag⟩ := h_first.tag_eq (List.isEmpty_iff.1 h_accepted)
      have h_demands := h_rest.get (h_rest.length_eq ▸ h_i) h_i
      obtain ⟨es', h_es, h_tag'⟩ := h_demands.tag_eq (List.isEmpty_iff.1 h_accepted')
      cases h_es
      cases h_tag.symm.trans h_tag'
      exact h_new (List.get_mem _ _)
  simp only [ruleViolations]
  constructor
  · intro h_nil
    rcases filter_eq_of_exclusive h_exclusive with h_none | ⟨s, h_s, h_accepts, -⟩
    · rw [h_none] at h_nil
      cases h_nil
    · exact ⟨s, h_s, List.isEmpty_iff.1 h_accepts⟩
  · rintro ⟨s, h_s, h_accepted⟩
    rcases filter_eq_of_exclusive h_exclusive with h_none | ⟨s', -, -, h_one⟩
    · have h_mem : s ∈ ss.filter fun s => (violations names (fuel + 4) s p j).isEmpty :=
        List.mem_filter.2 ⟨h_s, List.isEmpty_iff.2 h_accepted⟩
      rw [h_none] at h_mem
      exact absurd h_mem List.not_mem_nil
    · rw [h_one]

end Specimen.Schema
