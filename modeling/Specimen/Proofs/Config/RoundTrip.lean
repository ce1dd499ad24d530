import Specimen.Config.Document
import Specimen.Config.Load
import Specimen.Proofs.Config.Agreement
import Specimen.Proofs.Config.Restored
import Specimen.Proofs.Json.Faithful

/-!
# Configurations that are written and read back

Reading is the inverse of writing: for documents, with their entries as written or sorted
(`ofJson_toJson`, `ofJson_canonical_toJson`), and for texts in either layout that are not nested too
deep (`readAll_compact`, `readAll_pretty`). So configurations with the same text are the same
(`compact_toJson_inj`), and a valid configuration is valid again when it has been written
(`validate_of_validate`).

A configuration is read straight from text with the same result as from its document, provided that
the document has no other fields than those of a configuration (`takes_config`). Inside a constraint
any fields may stand: they are set aside as documents (`Constraint.reader_faithful`).

Readers of texts start with 128 levels and refuse the bracket that takes the last one, so that
brackets may nest 127 deep.
-/

namespace Specimen.Config

open Json Scan

variable {c c' : Config}

/-! ### Documents -/

theorem ofJson_toJson (c : Config) : ofJson c.toJson = .ok c :=
  ofJson_of_arranges (arranges_refl c.toJson_plain.distinct)

theorem ofJson_canonical_toJson (c : Config) : ofJson c.toJson.canonical = .ok c :=
  ofJson_of_arranges (arranges_canonical c.toJson_plain.distinct)

theorem toJson_inj : c.toJson = c'.toJson ↔ c = c' := by
  refine ⟨fun h => ?_, congrArg toJson⟩
  have h_read := ofJson_toJson c
  rw [h, ofJson_toJson c'] at h_read
  exact (Except.ok.inj h_read).symm

/-! ### Reading from text -/

theorem ConstraintFields.slot?_faithful {key : String} {slot : Slot ConstraintFields}
    (h : slot? key = some slot) : slot.Faithful := by
  have h_text : (Reader.option Reader.string).Faithful := Reader.faithful_text.option
  rw [slot?] at h
  split at h
  · cases h
    exact Slot.of_faithful h_text
  · split at h
    · cases h
      exact Slot.of_faithful h_text
    · cases h

/-- One entry of a constraint, behind its key. -/
theorem yields_scanEntry {s s' : ConstraintFields} {e : String × Json} {blank more : List Char}
    {sp : Spacing} {level o d : Nat} (h : ConstraintFields.addEntry .document s e = .ok s')
    (h_exact : e.2.Exact) (h_depth : e.2.depth < d) (h_blank : Blank blank) (h_more : Ended more) :
    Yields (Constraint.scanEntry s e.1) ⟨':' :: (blank ++ spell sp level e.2) ++ more, o, d⟩ s'
      more := by
  rw [Constraint.scanEntry, List.cons_append, List.append_assoc]
  rw [ConstraintFields.addEntry] at h
  -- the id and the character set are read at once, and everything else is set aside as it is
  cases h_slot : ConstraintFields.slot? e.1 with
  | some slot =>
    rw [h_slot] at h
    cases h_filled : slot.isFilled s with
    | true => simp [h_filled] at h
    | false =>
      simp only [h_filled, Bool.false_eq_true, if_false] at h ⊢
      refine yields_colon.bind fun o => ?_
      exact ConstraintFields.slot?_faithful h_slot e.2 s s' h_exact h sp level blank more o d
        h_blank h_more h_depth
  | none =>
    rw [h_slot] at h
    cases h
    refine yields_colon.bind fun o => ?_
    exact (takes_value h_exact level blank more o d h_blank h_more h_depth).bind fun o => yields_pure

theorem Constraint.reader_faithful : Constraint.reader.Faithful := by
  intro j c h_exact h_read sp level blank more o d h_blank h_more h_depth
  cases j with
  | object es =>
    have h_some : (constraintOfJson Child.reader .document (.object es)).toOption = some c :=
      toOption_eq_some_iff.2 h_read
    rw [constraintOfJson, toOption_bind, toOption_foldlM] at h_some
    obtain ⟨s', h_fold, h_finish⟩ := Option.bind_eq_some_iff.1 h_some
    have h_entry : ∀ e ∈ es, ∀ s s', (ConstraintFields.addEntry .document s e).toOption = some s' →
        ∀ more o, Ended more → Yields (Constraint.scanEntry s e.1)
          ⟨':' :: (sp.space ++ spell sp (level + 1) e.2) ++ more, o, d - 1⟩ s' more := by
      intro e h_e s s' h_add more o h_more
      have h_lt : e.2.depth < d - 1 := by
        have h_le := depth_le_of_mem_entries h_e
        rw [depth] at h_depth
        omega
      exact yields_scanEntry (toOption_eq_some_iff.1 h_add) (exactEntries_iff.1 h_exact e h_e) h_lt
        sp.space_blank h_more
    have h_object := fun o => yields_object (o := o) more h_depth h_entry h_fold
      (toOption_eq_some_iff.1 h_finish)
    rw [spell] at h_object ⊢
    refine (yields_valueStart h_blank rfl).bind fun o => ?_
    rw [if_pos rfl]
    exact h_object o
  | _ => cases h_read

theorem record_faithful : ∀ slot ∈ record.slots, slot.Faithful := by
  have h_version : Reader.string.Faithful := Reader.faithful_text
  have h_seed : (Reader.option Reader.word64).Faithful := (Reader.faithful_integer.map _).option
  have h_charsets : (Reader.dict Reader.string).Faithful := h_version.dict
  have h_constraints : (Reader.list Constraint.reader).Faithful := Constraint.reader_faithful.list
  simp only [record, List.forall_mem_cons, List.not_mem_nil, false_imp_iff, implies_true, and_true]
  exact ⟨Slot.of_faithful h_version, Slot.of_faithful h_seed, Slot.of_faithful h_charsets,
    Slot.of_faithful h_constraints⟩

/-- **Configurations from text.** -/
theorem takes_config {es : List (String × Json)} {c : Config} (h_exact : (object es).Exact)
    (h_known : ∀ e ∈ es, e.1 ∈ record.slots.map (·.name)) (h_read : ofJson (.object es) = .ok c)
    (sp : Spacing) (level : Nat) :
    Takes reader.scan (object es).depth (spell sp level (object es)) c :=
  Record.takes_object record_faithful h_exact h_known h_read

/-! ### Texts -/

/-- **The text of a configuration says which one it is**, however deep it is nested. -/
theorem compact_toJson_inj : c.toJson.compact = c'.toJson.compact ↔ c = c' := by
  rw [compact_inj c.toJson_plain.exact c'.toJson_plain.exact, toJson_inj]

theorem writtenFields_known (c : Config) :
    ∀ e ∈ c.writtenFields, e.1 ∈ record.slots.map (·.name) := by
  simp only [writtenFields, List.forall_mem_cons, List.forall_mem_append, forall_mem_optionalEntry,
    List.not_mem_nil, false_imp_iff, implies_true, and_true]
  refine ⟨?_, fun _ _ => ?_, fun _ _ => ?_, ?_⟩ <;> simp [record, Slot.of]

/-- What readers of texts make of a written configuration, in either layout. -/
theorem takes_toJson (c : Config) (sp : Spacing) :
    Takes reader.scan c.toJson.depth (spell sp 0 c.toJson) c := by
  have h_exact := c.toJson_plain.exact
  have h_read := ofJson_toJson c
  rw [toJson_eq] at h_exact h_read ⊢
  exact takes_config h_exact c.writtenFields_known h_read sp 0

theorem readAll_compact (h : c.toJson.depth ≤ 127) :
    readAll reader.scan c.toJson.compact = .ok c := by
  rw [compact_eq_spell]
  exact readAll_eq (takes_toJson c .none) h

theorem readAll_pretty (h : c.toJson.depth ≤ 127) :
    readAll reader.scan c.toJson.pretty = .ok c := by
  rw [pretty_eq_spell]
  exact readAll_eq (takes_toJson c .lines) h

/-! ### Validation -/

/-- What is written is clean. -/
theorem toJson_clean (c : Config) :
    structuralReport schema.canonical c.toJson.canonical = .ok ⟨[], []⟩ := by
  refine (isClean_iff c.toJson.keysDistinct_canonical).2 ?_
  exact (c.toJson_form.mono fun _ _ => IntegerType.Fits.accepts).canonical c.toJson_plain.distinct

/-- Validating a written configuration is checking it. -/
theorem validate_toJson (c : Config) : validate schema.canonical c.toJson.canonical =
    if c.check.isOk then .ok ⟨c, c.check.warnings⟩ else .error c.check := by
  rw [validate_of_clean c.toJson_clean, ofJson_canonical_toJson]

/-- What validation answers has been found fit for use. -/
theorem check_of_validate {schema j : Json} {v : Validated} (h : validate schema j = .ok v) :
    v.config.check.isOk = true ∧ v = ⟨v.config, v.config.check.warnings⟩ := by
  rw [validate] at h
  -- each step but the last either ends the validation or hands on what it has found
  cases h_report : structuralReport schema j with
  | error fault =>
    rw [h_report] at h
    cases h
  | ok report =>
    cases h_clean : report.isOk with
    | false =>
      rw [h_report] at h
      simp only [h_clean, Bool.not_false, if_true] at h
      cases h
    | true =>
      cases h_read : ofJson j with
      | error m =>
        rw [h_report, h_read] at h
        simp only [h_clean, Bool.not_true, Bool.false_eq_true, if_false] at h
        cases h
      | ok c =>
        cases h_ok : c.check.isOk with
        | false =>
          rw [h_report, h_read] at h
          simp only [h_clean, h_ok, Bool.not_true, Bool.false_eq_true, if_false] at h
          cases h
        | true =>
          rw [h_report, h_read] at h
          simp only [h_clean, h_ok, Bool.not_true, Bool.false_eq_true, if_false, if_true] at h
          cases h
          exact ⟨h_ok, rfl⟩

/-- **Valid configurations stay valid** when they are written. -/
theorem validate_of_validate {j : Json} {v : Validated} (h : validate schema.canonical j = .ok v) :
    validate schema.canonical v.config.toJson.canonical = .ok v := by
  obtain ⟨h_ok, h_v⟩ := check_of_validate h
  rw [validate_toJson, if_pos h_ok, ← h_v]

/-- What a text that is a document is parsed as. -/
theorem parse_of_ok {text : String} {j : Json} (h : Json.parse text = .ok j) :
    parse text = (validate schema.canonical j.canonical).mapError .invalid := by
  rw [Config.parse, h]

/-- The same through text. -/
theorem parse_of_validate {j : Json} {v : Validated} (h : validate schema.canonical j = .ok v)
    (h_depth : v.config.toJson.depth ≤ 127) : parse v.config.toJson.pretty = .ok v := by
  rw [parse_of_ok (parse_pretty v.config.toJson_plain.exact h_depth), validate_of_validate h]
  rfl

/-- **Written configurations read back.** Documents do so in any case, and texts up to the depth that
readers allow, both as documents and as configurations. No two configurations have one text. What
has been read and written once does not change any more, and what has been validated is found valid
again, with the same warnings. -/
theorem written_reads_back :
    (∀ c : Config, ofJson c.toJson = .ok c ∧ ofJson c.toJson.canonical = .ok c) ∧
    (∀ c : Config, c.toJson.depth ≤ 127 →
      (Json.parse c.toJson.compact = .ok c.toJson ∧ Json.parse c.toJson.pretty = .ok c.toJson) ∧
      readAll reader.scan c.toJson.compact = .ok c ∧ readAll reader.scan c.toJson.pretty = .ok c) ∧
    (∀ c c' : Config, c.toJson.compact = c'.toJson.compact → c = c') ∧
    (∀ j k, (ofJson j).map toJson = .ok k →
      (ofJson k).map toJson = .ok k ∧ (ofJson k.canonical).map toJson = .ok k) ∧
    ∀ j v, validate schema.canonical j = .ok v →
      validate schema.canonical v.config.toJson.canonical = .ok v ∧
      (v.config.toJson.depth ≤ 127 → parse v.config.toJson.pretty = .ok v) := by
  refine ⟨fun c => ⟨ofJson_toJson c, ofJson_canonical_toJson c⟩, fun c h_depth => ?_,
    fun c c' => compact_toJson_inj.1, fun j k h => ?_, fun j v h => ?_⟩
  · have h_exact := c.toJson_plain.exact
    exact ⟨⟨parse_compact h_exact h_depth, parse_pretty h_exact h_depth⟩,
      readAll_compact h_depth, readAll_pretty h_depth⟩
  · obtain ⟨c, -, rfl⟩ := Reader.map_eq_ok_iff.1 h
    rw [ofJson_toJson, ofJson_canonical_toJson]
    exact ⟨rfl, rfl⟩
  · exact ⟨validate_of_validate h, parse_of_validate h⟩

/-- A configuration with a seed, and with constraints inside another one. -/
def seededPair : Config := ⟨supportedVersion, some 7, .empty, [
  .mk (some "pair") none (.combined [.reference "digits",
    .embedded (.mk none none (.optional (.reference "digits") (.whenPresent "digits")))] "-"),
  .mk (some "digits") (some "numeric") (.field (.text 1 2))]⟩

theorem written_reads_back_seededPair :
    seededPair.toJson.depth ≤ 127 ∧ readAll reader.scan seededPair.toJson.pretty = .ok seededPair ∧
    ofJson seededPair.toJson = .ok seededPair ∧
    validate schema.canonical seededPair.toJson.canonical = .ok ⟨seededPair, []⟩ ∧
    parse seededPair.toJson.pretty = .ok ⟨seededPair, []⟩ := by
  obtain ⟨h_json, h_text, -, -, h_valid⟩ := written_reads_back
  have h_depth : seededPair.toJson.depth ≤ 127 := by decide +kernel
  have h_ok : seededPair.check.isOk = true := by decide +kernel
  have h_warnings : seededPair.check.warnings = [] := rfl
  have h_first : validate schema.canonical seededPair.toJson.canonical = .ok ⟨seededPair, []⟩ := by
    rw [validate_toJson, if_pos h_ok, h_warnings]
  exact ⟨h_depth, (h_text _ h_depth).2.2, (h_json _).1, h_first, (h_valid _ _ h_first).2 h_depth⟩

end Specimen.Config
