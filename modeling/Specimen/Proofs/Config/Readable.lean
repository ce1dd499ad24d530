import Specimen.Proofs.Config.Form
import Specimen.Proofs.Config.Reading
import Specimen.Proofs.Json.Form

/-!
# Which documents can be read as configurations

A document that has the form of a configuration, whatever is asked of its numbers, can be read
exactly if its numbers fit their types (`readable_iff`).

For an object with a certain tag, what can be read is said field by field. From this both directions
go up to the whole configuration. Parts are read with fuel, as deep as they are nested, and the
induction is on that (`ChildForm.readable`, `ChildForm.fits`).
-/

namespace Specimen.Config

open Json Reader

variable {A : IntegerType → Number → Prop} {origin : Origin} {j : Json}
  {es : List (String × Json)}

/-! ### Numbers -/

theorem reads_size : Reader.size.Reads origin = IsNumber IntegerType.word64.Fits :=
  reads_map.trans reads_integer

theorem reads_word64 : Reader.word64.Reads origin = IsNumber IntegerType.word64.Fits :=
  reads_map.trans reads_integer

theorem reads_int64 : Reader.int64.Reads origin = IsNumber IntegerType.int64.Fits :=
  reads_map.trans reads_integer

theorem reads_word32 : Reader.word32.Reads origin = IsNumber IntegerType.word32.Fits :=
  reads_map.trans reads_integer

/-- Two answers in a row. -/
theorem isSome_bind_map {α β γ : Type} {x : Option α} {y : Option β} {f : α → β → γ} :
    (x.bind fun a => y.map (f a)).isSome = true ↔ x.isSome = true ∧ y.isSome = true := by
  cases x <;> simp

/-! ### Fields and rules -/

namespace FieldSpec

variable (h_keys : (es.map (·.1)).Nodup)

include h_keys

theorem reads_text (h_kind : es.lookup "kind" = some (.string "text")) :
    reader.Reads origin (.object es) ↔ Has es "min_len" (IsNumber IntegerType.word64.Fits) ∧
      Has es "max_len" (IsNumber IntegerType.word64.Fits) := by
  rw [Reads, read?_text h_keys h_kind, isSome_bind_map, isSome_required_iff, isSome_required_iff,
    reads_size]

theorem reads_number (h_kind : es.lookup "kind" = some (.string "number")) :
    reader.Reads origin (.object es) ↔ Has es "min" (IsNumber IntegerType.int64.Fits) ∧
      Has es "max" (IsNumber IntegerType.int64.Fits) := by
  rw [Reads, read?_number h_keys h_kind, isSome_bind_map, isSome_required_iff, isSome_required_iff,
    reads_int64]

theorem reads_date (h_kind : es.lookup "kind" = some (.string "date")) :
    reader.Reads origin (.object es) ↔ Has es "min" IsText ∧ Has es "max" IsText ∧
      MayHave es "format" (OrNull IsText) := by
  rw [Reads, read?_date h_keys h_kind, ← @reads_string .fragment,
    ← isSome_required_iff, ← isSome_required_iff, ← reads_option, ← isSome_optional_iff]
  cases Reader.string.required .fragment es "min" with
  | none => simp
  | some a => simp [isSome_bind_map]

theorem reads_choice (h_kind : es.lookup "kind" = some (.string "choice")) :
    reader.Reads origin (.object es) ↔ Has es "values" (IsListOf IsText) := by
  rw [Reads, read?_choice h_keys h_kind, Option.isSome_map, isSome_required_iff, reads_list,
    reads_string]

theorem reads_pattern (h_kind : es.lookup "kind" = some (.string "pattern")) :
    reader.Reads origin (.object es) ↔ Has es "pattern" IsText ∧
      MayHave es "max_repeat" (OrNull (IsNumber IntegerType.word32.Fits)) := by
  rw [Reads, read?_pattern h_keys h_kind, isSome_bind_map, isSome_required_iff,
    isSome_optional_iff, reads_option, reads_string, reads_word32]

end FieldSpec

theorem FieldForm.readable (h : FieldForm IntegerType.Fits j) (h_keys : j.KeysDistinct) :
    FieldSpec.reader.Reads origin j := by
  cases h with
  | text kind least greatest =>
    exact (FieldSpec.reads_text (keysDistinct_object.1 h_keys).1 kind).2 ⟨least, greatest⟩
  | number kind least greatest =>
    exact (FieldSpec.reads_number (keysDistinct_object.1 h_keys).1 kind).2 ⟨least, greatest⟩
  | date kind least greatest format =>
    exact (FieldSpec.reads_date (keysDistinct_object.1 h_keys).1 kind).2 ⟨least, greatest, format⟩
  | choice kind values =>
    exact (FieldSpec.reads_choice (keysDistinct_object.1 h_keys).1 kind).2 values
  | pattern kind expression maxRepeat =>
    exact (FieldSpec.reads_pattern (keysDistinct_object.1 h_keys).1 kind).2 ⟨expression, maxRepeat⟩

theorem FieldForm.fits (h : FieldForm A j) (h_keys : j.KeysDistinct)
    (h_reads : FieldSpec.reader.Reads origin j) : FieldForm IntegerType.Fits j := by
  cases h with
  | text kind =>
    obtain ⟨least, greatest⟩ :=
      (FieldSpec.reads_text (keysDistinct_object.1 h_keys).1 kind).1 h_reads
    exact .text kind least greatest
  | number kind =>
    obtain ⟨least, greatest⟩ :=
      (FieldSpec.reads_number (keysDistinct_object.1 h_keys).1 kind).1 h_reads
    exact .number kind least greatest
  | date kind least greatest format => exact .date kind least greatest format
  | choice kind values => exact .choice kind values
  | pattern kind expression =>
    obtain ⟨-, maxRepeat⟩ :=
      (FieldSpec.reads_pattern (keysDistinct_object.1 h_keys).1 kind).1 h_reads
    exact .pattern kind expression maxRepeat

theorem MandatoryForm.readable (h : MandatoryForm j) (h_keys : j.KeysDistinct) :
    Mandatory.reader.Reads origin j := by
  cases h with
  | fixed always => rfl
  | whenPresent id =>
    rw [Reads, Mandatory.read?_object (keysDistinct_object.1 h_keys).1, Option.isSome_map,
      isSome_required_iff, reads_string]
    exact id

/-! ### Kinds -/

namespace KindForm

variable {child : Reader Child} {Part Part' : Json → Prop} {depth : Nat}

/-- The form of a kind says nothing about ids and character sets. -/
theorem of_lookup {es' : List (String × Json)}
    (h_same : ∀ key, key ≠ "id" → key ≠ "charset" → es'.lookup key = es.lookup key)
    (h : KindForm A Part es) : KindForm A Part es' := by
  have h_has : ∀ {key P}, key ≠ "id" → key ≠ "charset" → Has es key P → Has es' key P := by
    intro key P h_id h_charset h
    rwa [Has, h_same key h_id h_charset]
  have h_mayHave : ∀ {key P}, key ≠ "id" → key ≠ "charset" → MayHave es key P →
      MayHave es' key P := by
    intro key P h_id h_charset h
    rwa [MayHave, h_same key h_id h_charset]
  have h_type : es'.lookup "type" = es.lookup "type" := h_same _ (by decide) (by decide)
  cases h with
  | constant type value => exact .constant (h_type.trans type) (h_has (by decide) (by decide) value)
  | field type field => exact .field (h_type.trans type) (h_has (by decide) (by decide) field)
  | combined type parts separator =>
    exact .combined (h_type.trans type) (h_has (by decide) (by decide) parts)
      (h_mayHave (by decide) (by decide) separator)
  | optional type child mandatory =>
    exact .optional (h_type.trans type) (h_has (by decide) (by decide) child)
      (h_mayHave (by decide) (by decide) mandatory)
  | source type child => exact .source (h_type.trans type) (h_has (by decide) (by decide) child)

variable (h_keys : (es.map (·.1)).Nodup)
  (h_inside : ∀ e ∈ es, e.2.depth < depth ∧ e.2.KeysDistinct)

include h_inside in
/-- What holds of everything inside that is of a form holds of what stands under a key. -/
theorem has_of_inside {key : String} {P Q : Json → Prop} (h : Has es key P)
    (h_imp : ∀ v, v.depth < depth → v.KeysDistinct → P v → Q v) : Has es key Q := by
  obtain ⟨v, h_v, h_P⟩ := h
  obtain ⟨h_depth, h_distinct⟩ := h_inside _ (Dict.mem_of_lookup h_v)
  exact ⟨v, h_v, h_imp v h_depth h_distinct h_P⟩

include h_inside in
theorem mayHave_of_inside {key : String} {P Q : Json → Prop} (h : MayHave es key P)
    (h_imp : ∀ v, v.depth < depth → v.KeysDistinct → P v → Q v) : MayHave es key Q := by
  intro v h_v
  obtain ⟨h_depth, h_distinct⟩ := h_inside _ (Dict.mem_of_lookup h_v)
  exact h_imp v h_depth h_distinct (h v h_v)

/-- The same of the items of a list. -/
theorem isListOf_of_inside {P Q : Json → Prop} (h_depth : j.depth < depth)
    (h_distinct : j.KeysDistinct) (h : IsListOf P j)
    (h_imp : ∀ x, x.depth < depth → x.KeysDistinct → P x → Q x) : IsListOf Q j := by
  obtain ⟨items, rfl, h_items⟩ := h
  refine ⟨items, rfl, fun x h_x => ?_⟩
  exact h_imp x ((depth_lt_of_mem h_x).trans h_depth) (keysDistinct_array.1 h_distinct x h_x)
    (h_items x h_x)

include h_keys h_inside

/-- Kinds of the right form can be read, if their parts can. -/
theorem readable (h : KindForm IntegerType.Fits Part es)
    (h_part : ∀ x, x.depth < depth → x.KeysDistinct → Part x → child.Reads .fragment x) :
    ((kindTagged child).ofEntries origin es).toOption.isSome = true := by
  cases h with
  | constant type value =>
    rw [read?_constant h_keys type, Option.isSome_map, isSome_required_iff, reads_string]
    exact value
  | field type field =>
    rw [read?_field h_keys type, Option.isSome_map, isSome_required_iff]
    exact has_of_inside h_inside field fun v _ h_distinct h_v => h_v.readable h_distinct
  | combined type parts separator =>
    rw [read?_combined h_keys type, isSome_bind_map, isSome_required_iff, isSome_optional_iff,
      reads_list, reads_string]
    refine ⟨has_of_inside h_inside parts fun v h_depth h_distinct h_v => ?_, separator⟩
    exact isListOf_of_inside h_depth h_distinct h_v h_part
  | optional type child mandatory =>
    rw [read?_optional h_keys type, isSome_bind_map, isSome_required_iff, isSome_optional_iff]
    exact ⟨has_of_inside h_inside child h_part,
      mayHave_of_inside h_inside mandatory fun v _ h_distinct h_v => h_v.readable h_distinct⟩
  | source type child =>
    rw [read?_source h_keys type, Option.isSome_map, isSome_required_iff]
    exact has_of_inside h_inside child h_part

/-- The numbers of kinds that can be read fit, if those of their parts do. -/
theorem fits (h : KindForm A Part es)
    (h_part : ∀ x, x.depth < depth → x.KeysDistinct → Part x → child.Reads .fragment x → Part' x)
    (h_reads : ((kindTagged child).ofEntries origin es).toOption.isSome = true) :
    KindForm IntegerType.Fits Part' es := by
  cases h with
  | constant type value => exact .constant type value
  | field type field =>
    rw [read?_field h_keys type, Option.isSome_map, isSome_required_iff] at h_reads
    exact .field type (has_of_inside h_inside (field.and h_reads)
      fun v _ h_distinct h_v => h_v.1.fits h_distinct h_v.2)
  | combined type parts separator =>
    rw [read?_combined h_keys type, isSome_bind_map, isSome_required_iff, reads_list] at h_reads
    refine .combined type (has_of_inside h_inside (parts.and h_reads.1) ?_) separator
    intro v h_depth h_distinct h_v
    exact isListOf_of_inside h_depth h_distinct (h_v.1.and h_v.2)
      fun x h_depth h_distinct h_x => h_part x h_depth h_distinct h_x.1 h_x.2
  | optional type child mandatory =>
    rw [read?_optional h_keys type, isSome_bind_map, isSome_required_iff] at h_reads
    exact .optional type (has_of_inside h_inside (child.and h_reads.1)
      fun v h_depth h_distinct h_v => h_part v h_depth h_distinct h_v.1 h_v.2) mandatory
  | source type child =>
    rw [read?_source h_keys type, Option.isSome_map, isSome_required_iff] at h_reads
    exact .source type (has_of_inside h_inside (child.and h_reads)
      fun v h_depth h_distinct h_v => h_part v h_depth h_distinct h_v.1 h_v.2)

end KindForm

/-! ### Constraints and parts -/

/-- What stands beside the id and the character set stands in the constraint. -/
theorem inside_kindEntries (h_keys : (Json.object es).KeysDistinct) :
    ∀ e ∈ kindEntries es, e.2.depth < (Json.object es).depth ∧ e.2.KeysDistinct := by
  intro e h_e
  have h_mem : e ∈ es := List.mem_of_mem_filter (List.mem_of_mem_filter h_e)
  have h_lookup := Dict.lookup_of_mem (keysDistinct_object.1 h_keys).1 h_mem
  exact ⟨depth_lt_of_lookup h_lookup, h_keys.of_lookup h_lookup⟩

/-- Three answers in a row. -/
theorem isSome_constraint {child : Reader Child} (h_keys : (Json.object es).KeysDistinct) :
    (constraintOfJson child origin (.object es)).toOption.isSome = true ↔
      MayHave es "id" (OrNull IsText) ∧ MayHave es "charset" (OrNull IsText) ∧
        ((kindTagged child).ofEntries .fragment (kindEntries es)).toOption.isSome = true := by
  rw [read?_constraint (keysDistinct_object.1 h_keys).1, ← @reads_string origin,
    ← reads_option, ← isSome_optional_iff, ← isSome_optional_iff]
  cases textOrNull.optional origin es "id" with
  | none => simp
  | some a => simp [isSome_bind_map]

namespace ConstraintForm

variable {child : Reader Child} {Part Part' : Json → Prop}

theorem readable (h : ConstraintForm IntegerType.Fits Part j) (h_keys : j.KeysDistinct)
    (h_part : ∀ x, x.depth < j.depth → x.KeysDistinct → Part x → child.Reads .fragment x) :
    (constraintOfJson child origin j).toOption.isSome = true := by
  obtain ⟨id, charset, kind⟩ := h
  have h_kind : KindForm IntegerType.Fits Part (kindEntries _) :=
    kind.of_lookup fun _ => lookup_kindEntries
  exact (isSome_constraint h_keys).2 ⟨id, charset,
    h_kind.readable (nodup_kindEntries (keysDistinct_object.1 h_keys).1)
      (inside_kindEntries h_keys) h_part⟩

theorem fits (h : ConstraintForm A Part j) (h_keys : j.KeysDistinct)
    (h_part : ∀ x, x.depth < j.depth → x.KeysDistinct → Part x → child.Reads .fragment x → Part' x)
    (h_reads : (constraintOfJson child origin j).toOption.isSome = true) :
    ConstraintForm IntegerType.Fits Part' j := by
  obtain ⟨id, charset, kind⟩ := h
  have h_kind : KindForm A Part (kindEntries _) := kind.of_lookup fun _ => lookup_kindEntries
  have h_fits := h_kind.fits (nodup_kindEntries (keysDistinct_object.1 h_keys).1)
    (inside_kindEntries h_keys) h_part ((isSome_constraint h_keys).1 h_reads).2.2
  exact ⟨id, charset, h_fits.of_lookup fun _ h_id h_charset =>
    (lookup_kindEntries h_id h_charset).symm⟩

/-- A constraint has another key than a reference. -/
theorem exists_type (h : ConstraintForm A Part (.object es)) : ∃ e ∈ es, e.1 ≠ "ref" := by
  obtain ⟨-, -, kind⟩ := h
  obtain ⟨name, h_type⟩ : ∃ name, es.lookup "type" = some (.string name) := by
    cases kind with
    | constant type | field type | combined type | optional type | source type => exact ⟨_, type⟩
  exact ⟨_, Dict.mem_of_lookup h_type, show "type" ≠ "ref" by decide⟩

end ConstraintForm

namespace ChildForm

theorem readable (fuel : Nat) : ∀ j, j.depth < fuel → j.KeysDistinct →
    ChildForm IntegerType.Fits j → (childWithin fuel j).toOption.isSome = true := by
  induction fuel with
  | zero => exact fun j h_depth => absurd h_depth (Nat.not_lt_zero _)
  | succ fuel ih =>
    intro j h_depth h_keys h
    rcases childForm_iff.1 h with ⟨id, rfl⟩ | h_constraint
    · rfl
    · obtain ⟨es, rfl⟩ : ∃ es, j = .object es := by
        obtain ⟨-, -, -⟩ := h_constraint
        exact ⟨_, rfl⟩
      obtain ⟨e, h_e, h_ne⟩ := h_constraint.exists_type
      rw [toOption_childWithin fuel h_e h_ne, Option.isSome_map]
      exact h_constraint.readable h_keys fun x h_x h_distinct h_part =>
        ih x (by omega) h_distinct h_part

theorem fits (fuel : Nat) : ∀ j, j.depth < fuel → j.KeysDistinct → ChildForm A j →
    (childWithin fuel j).toOption.isSome = true → ChildForm IntegerType.Fits j := by
  induction fuel with
  | zero => exact fun j h_depth => absurd h_depth (Nat.not_lt_zero _)
  | succ fuel ih =>
    intro j h_depth h_keys h h_reads
    rcases childForm_iff.1 h with ⟨id, rfl⟩ | h_constraint
    · exact .reference id
    · obtain ⟨es, rfl⟩ : ∃ es, j = .object es := by
        obtain ⟨-, -, -⟩ := h_constraint
        exact ⟨_, rfl⟩
      obtain ⟨e, h_e, h_ne⟩ := h_constraint.exists_type
      rw [toOption_childWithin fuel h_e h_ne, Option.isSome_map] at h_reads
      refine childForm_iff.2 (.inr (h_constraint.fits h_keys ?_ h_reads))
      exact fun x h_x h_distinct h_part h_x_reads => ih x (by omega) h_distinct h_part h_x_reads

end ChildForm

/-! ### Whole configurations -/

/-- Four answers in a row. -/
theorem isSome_config (h_keys : (es.map (·.1)).Nodup) :
    (ofJson (.object es)).toOption.isSome = true ↔ Has es "config_version" IsText ∧
      MayHave es "seed" (OrNull (IsNumber IntegerType.word64.Fits)) ∧
      MayHave es "charsets" (IsMapOf IsText) ∧
      Has es "constraints" (IsListOf (Constraint.reader.Reads .document)) := by
  rw [read?_config h_keys, ← @reads_string .document, ← @reads_word64 .document,
    ← reads_option, ← reads_dict, ← reads_list, ← isSome_required_iff, ← isSome_required_iff,
    ← isSome_optional_iff, ← isSome_optional_iff]
  cases Reader.string.required .document es "config_version" with
  | none => simp
  | some version =>
    cases (Reader.option .word64).optional .document es "seed" with
    | none => simp
    | some seed => simp [isSome_bind_map]

/-- **Reading configurations.** What has the form of a configuration can be read exactly if its
numbers fit their types. -/
theorem readable_iff (h : ConfigForm A j) (h_keys : j.KeysDistinct) :
    (∃ c, ofJson j = .ok c) ↔ ConfigForm IntegerType.Fits j := by
  have h_isSome : (∃ c, ofJson j = .ok c) ↔ (ofJson j).toOption.isSome = true := by
    simp only [Option.isSome_iff_exists, toOption_eq_some_iff]
  rw [h_isSome]
  constructor
  · intro h_reads
    obtain ⟨version, -, charsets, constraints⟩ := h
    obtain ⟨-, seed, -, h_constraints⟩ := (isSome_config (keysDistinct_object.1 h_keys).1).1 h_reads
    obtain ⟨v, h_v, h_both⟩ := constraints.and h_constraints
    have h_list := KindForm.isListOf_of_inside (depth_lt_of_lookup h_v) (h_keys.of_lookup h_v)
      (h_both.1.and h_both.2) fun x _ h_distinct h_x =>
        h_x.1.fits h_distinct (fun y _ h_y => ChildForm.fits _ y (Nat.lt_succ_self _) h_y) h_x.2
    exact .mk version seed charsets ⟨v, h_v, h_list⟩
  · rintro ⟨version, seed, charsets, constraints⟩
    refine (isSome_config (keysDistinct_object.1 h_keys).1).2 ⟨version, seed, charsets, ?_⟩
    obtain ⟨v, h_v, h_list⟩ := constraints
    refine ⟨v, h_v, KindForm.isListOf_of_inside (depth_lt_of_lookup h_v) (h_keys.of_lookup h_v)
      h_list fun x _ h_distinct h_x => ?_⟩
    exact h_x.readable h_distinct fun y _ h_y => ChildForm.readable _ y (Nat.lt_succ_self _) h_y

end Specimen.Config
