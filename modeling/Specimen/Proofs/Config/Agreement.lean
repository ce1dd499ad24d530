import Specimen.Config.Validation
import Specimen.Proofs.Config.Acceptance
import Specimen.Proofs.Config.Readable

/-!
# The schema and the reader of configurations

A configuration document is checked against the schema before it is read. The schema counts `1.0`
among the integers and knows no upper limits, while the reader asks for integers that are written
as such and that fit 64 or 32 bits. They agree about everything else: what the schema accepts can be
read exactly if its numbers fit (`readable_iff_of_clean`).
-/

namespace Specimen.Config

variable {j : Json}

theorem fault?_schema : Specimen.Schema.fault? schema.canonical = none := by decide +kernel

theorem structuralReport_schema (j : Json) : structuralReport schema.canonical j =
    .ok ⟨(Specimen.Schema.check schema.canonical j).map violationIssue, []⟩ := by
  rw [structuralReport, fault?_schema]

/-- **Clean documents** are those that have the form of a configuration. -/
theorem isClean_iff (h_keys : j.KeysDistinct) :
    structuralReport schema.canonical j = .ok ⟨[], []⟩ ↔ ConfigForm IntegerType.Accepts j := by
  rw [structuralReport_schema, ← Specimen.Schema.check_eq_nil_iff h_keys]
  simp

/-- What validation makes of a clean document. -/
theorem validate_of_clean (h : structuralReport schema.canonical j = .ok ⟨[], []⟩) :
    validate schema.canonical j =
      match ofJson j with
      | .error m => .error (.ofError (.plain "invalid_config_json" "/" m.message))
      | .ok c => if c.check.isOk then .ok ⟨c, c.check.warnings⟩ else .error c.check := by
  rw [validate, h]
  cases ofJson j with
  | error m => rfl
  | ok c => cases h_ok : c.check.isOk <;> simp [h_ok] <;> rfl

/-- **The schema and the reader agree up to the size and the writing of numbers.** -/
theorem readable_iff_of_clean (j : Json)
    (h : structuralReport schema.canonical j.canonical = .ok ⟨[], []⟩) :
    ConfigForm IntegerType.Accepts j.canonical ∧
    ((∃ c, ofJson j.canonical = .ok c) ↔ ConfigForm IntegerType.Fits j.canonical) ∧
    (ConfigForm IntegerType.Fits j.canonical → ∃ c, ofJson j.canonical = .ok c ∧
      validate schema.canonical j.canonical =
        if c.check.isOk then .ok ⟨c, c.check.warnings⟩ else .error c.check) ∧
    (¬ ConfigForm IntegerType.Fits j.canonical → ∃ m, ofJson j.canonical = .error m ∧
      validate schema.canonical j.canonical =
        .error (.ofError (.plain "invalid_config_json" "/" m.message))) := by
  have h_keys : j.canonical.KeysDistinct := j.keysDistinct_canonical
  have h_form : ConfigForm IntegerType.Accepts j.canonical := (isClean_iff h_keys).1 h
  have h_readable := readable_iff h_form h_keys
  have h_validate := validate_of_clean h
  refine ⟨h_form, h_readable, fun h_fits => ?_, fun h_not => ?_⟩
  · obtain ⟨c, h_c⟩ := h_readable.2 h_fits
    rw [h_c] at h_validate
    exact ⟨c, h_c, h_validate⟩
  · cases h_read : ofJson j.canonical with
    | ok c => exact absurd (h_readable.1 ⟨c, h_read⟩) h_not
    | error m =>
      rw [h_read] at h_validate
      exact ⟨m, rfl, h_validate⟩

/-- A configuration of one constant, with a number for its seed. -/
def constantWithSeed (seed : Number) : Json := .object [
  ("config_version", .string "0.1"), ("seed", .number seed),
  ("constraints", .array [.object
    [("id", .string "a"), ("type", .string "constant"), ("value", .string "x")]])]

theorem constantWithSeed_form {A : IntegerType → Number → Prop} {n : Number} (h : A .word64 n) :
    ConfigForm A (constantWithSeed n).canonical := by
  have h_keys : (constantWithSeed n).KeysDistinct := by
    simp [constantWithSeed, Json.KeysDistinct, Json.KeysDistinctItems, Json.KeysDistinctEntries]
  have h_constraint : ConstraintForm A (ChildForm A) (.object
      [("id", .string "a"), ("type", .string "constant"), ("value", .string "x")]) := by
    refine .mk ?_ (fun v h_v => by cases h_v) (.constant rfl ⟨_, rfl, _, rfl⟩)
    rintro v ⟨⟩
    exact .inr ⟨_, rfl⟩
  refine ConfigForm.canonical (.mk ⟨_, rfl, _, rfl⟩ ?_ (fun v h_v => by cases h_v)
    ⟨_, rfl, _, rfl, List.forall_mem_singleton.2 h_constraint⟩) h_keys
  rintro v ⟨⟩
  exact .inr ⟨n, rfl, h⟩

theorem readable_iff_of_clean_integerSeed :
    structuralReport schema.canonical (constantWithSeed (.int 1)).canonical = .ok ⟨[], []⟩ ∧
      ∃ c, ofJson (constantWithSeed (.int 1)).canonical = .ok c := by
  have h_fits : IntegerType.word64.Fits (.int 1) := ⟨1, rfl, by decide, by decide⟩
  have h_clean := (isClean_iff (Json.keysDistinct_canonical _)).2
    (constantWithSeed_form h_fits.accepts)
  exact ⟨h_clean, (readable_iff_of_clean _ h_clean).2.1.2 (constantWithSeed_form h_fits)⟩

/-- The number one, written with a point, is an integer for the schema and not for the reader. -/
theorem floatSeed_clean_not_readable :
    structuralReport schema.canonical (constantWithSeed (.float (Binary64.ofNat 1))).canonical =
        .ok ⟨[], []⟩ ∧
      ¬ ∃ c, ofJson (constantWithSeed (.float (Binary64.ofNat 1))).canonical = .ok c := by
  have h_accepts : IntegerType.word64.Accepts (.float (Binary64.ofNat 1)) :=
    ⟨by decide +kernel, by decide +kernel⟩
  have h_read : (ofJson (constantWithSeed (.float (Binary64.ofNat 1))).canonical).toOption.isNone =
      true := by decide +kernel
  refine ⟨(isClean_iff (Json.keysDistinct_canonical _)).2 (constantWithSeed_form h_accepts), ?_⟩
  rintro ⟨c, h_c⟩
  rw [h_c] at h_read
  cases h_read

end Specimen.Config
