import Specimen.Config.Schema
import Specimen.Proofs.Config.Form
import Specimen.Proofs.Schema.Acceptance

/-!
# The schema of configurations accepts their form

The schema of configurations, read as rules (`Schema.ofJson_schema`, `Schema.named_schema`), accepts
a document exactly if it has the form of a configuration whose numbers are accepted for their types
(`Schema.check_eq_nil_iff`).

Parts contain constraints and constraints contain parts. One level of a document is entered with
ten units of fuel less than the one above it, so that the induction is on its depth.
-/

namespace Specimen.Schema

open Config Json

/-! ### The schema as rules -/

/-- References. -/
def ofReference : Schema :=
  .rules [.everyEntry [("ref", ofType .string)] (.verdict false), .required ["ref"],
    .type [.object]]

/-- Rules of optional constraints. -/
def ofMandatory : Schema :=
  .rules [.anyOf [ofType .boolean, objectOf [("when_present", ofType .string)] ["when_present"]]]

/-- The kinds of fields. -/
def fieldKinds : List Schema := [
  objectOf [("kind", onlyText "text"), ("max_len", natural), ("min_len", natural)]
    ["kind", "max_len", "min_len"],
  objectOf [("kind", onlyText "number"), ("max", ofType .integer), ("min", ofType .integer)]
    ["kind", "max", "min"],
  objectOf [("format", textOrNull), ("kind", onlyText "date"), ("max", ofType .string),
    ("min", ofType .string)] ["kind", "max", "min"],
  objectOf [("kind", onlyText "choice"), ("values", arrayOf (ofType .string))] ["kind", "values"],
  objectOf [("kind", onlyText "pattern"), ("max_repeat", naturalOrNull),
    ("pattern", ofType .string)] ["kind", "pattern"]]

/-- Fields. -/
def ofField : Schema := .rules [.oneOf fieldKinds]

/-- Where the definition of parts stands. -/
def childTarget : String := "#/definitions/ChildSpec"

/-- Where the definition of constraints stands. -/
def constraintTarget : String := "#/definitions/ConstraintSpec"

/-- Parts. -/
def ofChild : Schema :=
  .rules [.anyOf [.reference "#/definitions/ReferenceSpec", .reference constraintTarget]]

/-- The kinds of constraints. -/
def constraintKinds : List Schema := [
  objectOf [("type", onlyText "constant"), ("value", ofType .string)] ["type", "value"],
  objectOf [("field", .reference "#/definitions/FieldSpec"), ("type", onlyText "field")]
    ["field", "type"],
  objectOf [("parts", arrayOf (.reference childTarget)), ("separator", ofType .string),
    ("type", onlyText "combined")] ["parts", "type"],
  objectOf [("child", .reference childTarget),
    ("mandatory", .rules [.allOf [.reference "#/definitions/MandatorySpec"]]),
    ("type", onlyText "optional")] ["child", "type"],
  objectOf [("child", .reference childTarget), ("type", onlyText "source")] ["child", "type"]]

/-- Constraints. -/
def ofConstraint : Schema :=
  .rules [.oneOf constraintKinds, .entries [("charset", textOrNull), ("id", textOrNull)],
    .type [.object]]

/-- Whole configurations. -/
def ofConfig : Schema := objectOf [
  ("charsets", mapOf (ofType .string)), ("config_version", ofType .string),
  ("constraints", arrayOf (.reference constraintTarget)), ("seed", naturalOrNull)]
  ["config_version", "constraints"]

/-- What the references of the schema lead to. -/
def definitions : List (String × Option Schema) := [
  ("#/definitions/ReferenceSpec", some ofReference), (constraintTarget, some ofConstraint),
  ("#/definitions/FieldSpec", some ofField), (childTarget, some ofChild),
  ("#/definitions/MandatorySpec", some ofMandatory)]

theorem ofJson_schema : ofJson schema.canonical = ofConfig := by rfl

theorem named_schema : named schema.canonical = definitions := by rfl

/-! ### Parts without parts -/

section Accepted

variable {fuel : Nat} {p : Pointer} {j : Json}

theorem ofReference_iff (h_keys : j.KeysDistinct) :
    violations definitions (fuel + 4) ofReference p j = [] ↔
      ∃ id, j = .object [("ref", .string id)] := by
  rw [ofReference, rules_triple_iff, type_singleton_iff, admits_object_iff]
  constructor
  · rintro ⟨h_every, h_required, es, rfl⟩
    have h_some : (es.lookup "ref").isSome = true := required_iff.1 h_required "ref" (by simp)
    have h_only : ∀ x ∈ es, x.1 = "ref" ∧ IsText x.2 := by
      intro x h_x
      obtain ⟨s, h_s, h_value⟩ := everyEntry_closed_iff.1 h_every x h_x
      by_cases h_ref : x.1 = "ref"
      · rw [h_ref] at h_s
        cases h_s
        exact ⟨h_ref, admits_string_iff.1 (ofType_iff.1 h_value)⟩
      · rw [List.lookup_cons, beq_false_of_ne h_ref] at h_s
        cases h_s
    -- no key is repeated, so that there is one entry
    cases es with
    | nil => simp at h_some
    | cons x es =>
      obtain ⟨h_ref, id, h_id⟩ := h_only x List.mem_cons_self
      have h_rest : es = [] := by
        refine List.eq_nil_iff_forall_not_mem.2 fun y h_y => ?_
        have h_same : y.1 = x.1 := (h_only y (List.mem_cons_of_mem _ h_y)).1.trans h_ref.symm
        have h_new := (List.nodup_cons.1 (keysDistinct_object.1 h_keys).1).1
        exact h_new (List.mem_map.2 ⟨y, h_y, h_same⟩)
      exact ⟨id, by rw [h_rest, ← h_ref, ← h_id]⟩
  · rintro ⟨id, rfl⟩
    refine ⟨everyEntry_closed_iff.2 ?_, required_iff.2 ?_, _, rfl⟩
    · simp [ofType_iff, JsonType.admits]
    · simp

theorem ofMandatory_iff :
    violations definitions (fuel + 6) ofMandatory p j = [] ↔ MandatoryForm j := by
  have h_object : violations definitions (fuel + 4)
      (objectOf [("when_present", ofType .string)] ["when_present"]) p j = [] ↔
        ∃ es, j = .object es ∧ Has es "when_present" IsText := by
    rw [objectOf_iff (by simp)]
    simp [Field, ofType_iff, admits_string_iff]
  rw [ofMandatory, rules_singleton_iff, anyOf_pair_iff, h_object, ofType_iff, admits_boolean_iff]
  constructor
  · rintro (⟨always, rfl⟩ | ⟨es, rfl, h_id⟩)
    · exact .fixed always
    · exact .whenPresent h_id
  · rintro (always | h_id)
    · exact .inl ⟨always, rfl⟩
    · exact .inr ⟨_, rfl, h_id⟩

theorem ofField_iff :
    violations definitions (fuel + 8) ofField p j = [] ↔ FieldForm IntegerType.Accepts j := by
  -- Each of the five forms fixes its own `kind`, so no value satisfies two of them.
  have h_demands : List.Forall₂ (Demands "kind") ["text", "number", "date", "choice", "pattern"]
      fieldKinds := by
    simp only [fieldKinds, List.forall₂_cons, List.forall₂_nil_left_iff, and_true]
    refine ⟨?_, ?_, ?_, ?_, ?_⟩ <;> exact ⟨_, _, rfl, by simp, by simp, by simp⟩
  rw [ofField, rules_singleton_iff, oneOf_iff h_demands (by decide)]
  simp only [fieldKinds, List.exists_mem_cons_iff, List.not_mem_nil, false_and, exists_false,
    or_false]
  rw [objectOf_iff (by simp), objectOf_iff (by simp), objectOf_iff (by simp),
    objectOf_iff (by simp), objectOf_iff (by simp)]
  simp [Field, onlyText_iff, natural_iff, naturalOrNull_iff, textOrNull_iff, ofType_iff, texts_iff,
    admits_string_iff, admits_integer_iff, has_eq_iff]
  constructor
  · rintro (⟨es, rfl, kind, greatest, least⟩ | ⟨es, rfl, kind, greatest, least⟩ |
      ⟨es, rfl, format, kind, greatest, least⟩ | ⟨es, rfl, kind, values⟩ |
      ⟨es, rfl, kind, maxRepeat, expression⟩)
    · exact .text kind least greatest
    · exact .number kind least greatest
    · exact .date kind least greatest format
    · exact .choice kind values
    · exact .pattern kind expression maxRepeat
  · intro h
    cases h with
    | text kind least greatest => exact .inl ⟨_, rfl, kind, greatest, least⟩
    | number kind least greatest => exact .inr (.inl ⟨_, rfl, kind, greatest, least⟩)
    | date kind least greatest format =>
      exact .inr (.inr (.inl ⟨_, rfl, format, kind, greatest, least⟩))
    | choice kind values => exact .inr (.inr (.inr (.inl ⟨_, rfl, kind, values⟩)))
    | pattern kind expression maxRepeat =>
      exact .inr (.inr (.inr (.inr ⟨_, rfl, kind, maxRepeat, expression⟩)))

/-! ### Constraints -/

section Parts

variable {Part : Json → Prop}

theorem constraintKinds_iff (h_keys : j.KeysDistinct)
    (h_parts : ∀ x, x.depth < j.depth → x.KeysDistinct → ∀ f ≥ fuel + 7, ∀ p,
      violations definitions f (.reference childTarget) p x = [] ↔ Part x) :
    (∃ s ∈ constraintKinds, violations definitions (fuel + 11) s p j = []) ↔
      ∃ es, j = .object es ∧ KindForm IntegerType.Accepts Part es := by
  simp only [constraintKinds, List.exists_mem_cons_iff, List.not_mem_nil, false_and, exists_false,
    or_false]
  rw [objectOf_iff (by simp), objectOf_iff (by simp), objectOf_iff (by simp),
    objectOf_iff (by simp), objectOf_iff (by simp)]
  -- parts are less deep, so that what is given for them applies
  have h_child : ∀ es, j = .object es → ∀ p,
      Has es "child" (fun v => violations definitions (fuel + 9) (.reference childTarget) p v = []) ↔
        Has es "child" Part := by
    rintro es rfl p
    exact has_congr fun v h_v =>
      h_parts v (depth_lt_of_lookup h_v) (h_keys.of_lookup h_v) _ (by omega) p
  have h_list : ∀ es, j = .object es → ∀ p, Has es "parts" (fun v =>
      violations definitions (fuel + 9) (arrayOf (.reference childTarget)) p v = []) ↔
        Has es "parts" (IsListOf Part) := by
    rintro es rfl p
    refine has_congr fun v h_v => arrayOf_iff ?_
    rintro items rfl x h_x q
    have h_depth : x.depth < (Json.object es).depth :=
      (depth_lt_of_mem h_x).trans (depth_lt_of_lookup h_v)
    have h_distinct : x.KeysDistinct := keysDistinct_array.1 (h_keys.of_lookup h_v) x h_x
    exact h_parts x h_depth h_distinct _ le_rfl q
  have h_field : ∀ {p v}, violations definitions (fuel + 9) (.reference "#/definitions/FieldSpec")
      p v = [] ↔ FieldForm IntegerType.Accepts v := by
    intro p v
    rw [reference_eq (s := ofField) rfl, ofField_iff]
  have h_mandatory : ∀ {p v}, violations definitions (fuel + 9)
      (.rules [.allOf [.reference "#/definitions/MandatorySpec"]]) p v = [] ↔
        MandatoryForm v := by
    intro p v
    rw [rules_singleton_iff, allOf_singleton_iff, reference_eq (s := ofMandatory) rfl,
      ofMandatory_iff]
  -- what is left are the entries of the five kinds, in the order of their names
  simp [Field, onlyText_iff, ofType_iff, admits_string_iff, has_eq_iff, h_field, h_mandatory]
  constructor
  · rintro (⟨es, h_j, type, value⟩ | ⟨es, h_j, field, type⟩ | ⟨es, h_j, parts, separator, type⟩ |
      ⟨es, h_j, child, mandatory, type⟩ | ⟨es, h_j, child, type⟩)
    · exact ⟨es, h_j, .constant type value⟩
    · exact ⟨es, h_j, .field type field⟩
    · exact ⟨es, h_j, .combined type ((h_list es h_j _).1 parts) separator⟩
    · exact ⟨es, h_j, .optional type ((h_child es h_j _).1 child) mandatory⟩
    · exact ⟨es, h_j, .source type ((h_child es h_j _).1 child)⟩
  · rintro ⟨es, h_j, h_kind⟩
    cases h_kind with
    | constant type value => exact .inl ⟨es, h_j, type, value⟩
    | field type field => exact .inr (.inl ⟨es, h_j, field, type⟩)
    | combined type parts separator =>
      exact .inr (.inr (.inl ⟨es, h_j, (h_list es h_j _).2 parts, separator, type⟩))
    | optional type child mandatory =>
      exact .inr (.inr (.inr (.inl ⟨es, h_j, (h_child es h_j _).2 child, mandatory, type⟩)))
    | source type child => exact .inr (.inr (.inr (.inr ⟨es, h_j, (h_child es h_j _).2 child, type⟩)))

/-- Constraints, given that of parts. -/
theorem ofConstraint_iff (h_keys : j.KeysDistinct)
    (h_parts : ∀ x, x.depth < j.depth → x.KeysDistinct → ∀ f ≥ fuel + 7, ∀ p,
      violations definitions f (.reference childTarget) p x = [] ↔ Part x) :
    violations definitions (fuel + 13) ofConstraint p j = [] ↔
      ConstraintForm IntegerType.Accepts Part j := by
  have h_demands : List.Forall₂ (Demands "type")
      ["constant", "field", "combined", "optional", "source"] constraintKinds := by
    simp only [constraintKinds, List.forall₂_cons, List.forall₂_nil_left_iff, and_true]
    refine ⟨?_, ?_, ?_, ?_, ?_⟩ <;> exact ⟨_, _, rfl, by simp, by simp, by simp⟩
  rw [ofConstraint, rules_triple_iff, oneOf_iff h_demands (by decide),
    constraintKinds_iff h_keys h_parts]
  constructor
  · rintro ⟨⟨es, rfl, kind⟩, h_entries, -⟩
    have h_common := entries_iff.1 h_entries
    simp only [List.forall_mem_cons, textOrNull_iff] at h_common
    exact .mk h_common.2.1 h_common.1 kind
  · rintro ⟨id, charset, kind⟩
    refine ⟨⟨_, rfl, kind⟩, entries_iff.2 ?_, type_singleton_iff.2 rfl⟩
    simp only [List.forall_mem_cons, textOrNull_iff]
    exact ⟨charset, id, List.forall_mem_nil _⟩

end Parts

/-- Parts are accepted if they have the form of parts. The induction is on a bound of the depth. -/
theorem childTarget_iff (depth : Nat) : ∀ j : Json, j.depth < depth → j.KeysDistinct →
    ∀ fuel ≥ 10 * depth + 7, ∀ p, violations definitions fuel (.reference childTarget) p j = [] ↔
      ChildForm IntegerType.Accepts j := by
  induction depth with
  | zero => exact fun j h_depth => absurd h_depth (Nat.not_lt_zero _)
  | succ depth ih =>
    intro j h_depth h_keys fuel h_fuel p
    obtain ⟨rest, rfl⟩ : ∃ rest, fuel = rest + 17 := ⟨fuel - 17, by omega⟩
    have h_constraint : violations definitions (rest + 13) ofConstraint p j = [] ↔
        ConstraintForm IntegerType.Accepts (ChildForm IntegerType.Accepts) j :=
      ofConstraint_iff h_keys fun x h_x h_distinct f h_f =>
        ih x (by omega) h_distinct f (by omega)
    rw [reference_eq (s := ofChild) rfl, ofChild, rules_singleton_iff, anyOf_pair_iff,
      reference_eq (s := ofReference) rfl, reference_eq (s := ofConstraint) rfl,
      ofReference_iff h_keys, h_constraint, childForm_iff]

theorem ofConfig_iff (h_keys : j.KeysDistinct) (h_fuel : 10 * j.depth + 7 ≤ fuel) :
    violations definitions (fuel + 18) ofConfig p j = [] ↔ ConfigForm IntegerType.Accepts j := by
  have h_constraints : ∀ es, j = .object es → ∀ p, Has es "constraints" (fun v =>
      violations definitions (fuel + 16) (arrayOf (.reference constraintTarget)) p v = []) ↔
        Has es "constraints" (IsListOf
          (ConstraintForm IntegerType.Accepts (ChildForm IntegerType.Accepts))) := by
    rintro es rfl p
    refine has_congr fun v h_v => arrayOf_iff ?_
    rintro items rfl x h_x q
    have h_depth : x.depth < (Json.object es).depth :=
      (depth_lt_of_mem h_x).trans (depth_lt_of_lookup h_v)
    have h_distinct : x.KeysDistinct := keysDistinct_array.1 (h_keys.of_lookup h_v) x h_x
    rw [reference_eq (s := ofConstraint) rfl]
    exact ofConstraint_iff h_distinct fun y h_y h_distinct' f h_f =>
      childTarget_iff _ y (h_y.trans h_depth) h_distinct' f (by omega)
  rw [ofConfig, objectOf_iff (by simp)]
  simp [Field, ofType_iff, admits_string_iff, mapOf_iff, naturalOrNull_iff]
  constructor
  · rintro ⟨es, rfl, charsets, version, constraints, seed⟩
    exact .mk version seed charsets ((h_constraints es rfl _).1 constraints)
  · rintro ⟨version, seed, charsets, constraints⟩
    exact ⟨_, rfl, charsets, version, (h_constraints _ rfl _).2 constraints, seed⟩

end Accepted

/-- **The schema of configurations accepts the form of configurations.** -/
theorem check_eq_nil_iff {j : Json} (h_keys : j.KeysDistinct) :
    check schema.canonical j = [] ↔ ConfigForm IntegerType.Accepts j := by
  have h_size : schema.canonical.size = 244 := by decide +kernel
  have h_enough : enough schema.canonical j = 490 * j.depth + 962 + 18 := by
    rw [enough, h_size]
    omega
  rw [check, ofJson_schema, named_schema, h_enough]
  exact ofConfig_iff h_keys (by omega)

end Specimen.Schema
