import Specimen.Proofs.Config.Place
import Specimen.Proofs.Config.Readable
import Specimen.Proofs.Json.Text

/-!
# What configurations look like when they are written

The document of a configuration repeats no key and has no other numbers than integers of 64 bits
(`toJson_plain`), so that it can be written as text and read again. It has the form of a
configuration, with numbers that fit (`toJson_form`). What stands under a key of it is said by a
look-up for each field that may be left out.
-/

namespace Specimen

namespace Json

variable {es : List (String × Json)}

/-- No key is repeated, and all numbers are integers of 64 bits. -/
structure Plain (j : Json) : Prop where
  distinct : j.KeysDistinct
  exact : j.Exact

theorem plain_string (s : String) : (string s).Plain := ⟨trivial, trivial⟩

theorem plain_bool (b : Bool) : (bool b).Plain := ⟨trivial, trivial⟩

theorem plain_int {i : Int} (h_least : -0x8000_0000_0000_0000 ≤ i)
    (h_greatest : i ≤ 0xffff_ffff_ffff_ffff) : (int i).Plain :=
  ⟨trivial, i, rfl, h_least, h_greatest⟩

theorem plain_array {items : List Json} (h : ∀ x ∈ items, x.Plain) : (array items).Plain :=
  ⟨keysDistinct_array.2 fun x h_x => (h x h_x).distinct,
    exactItems_iff.2 fun x h_x => (h x h_x).exact⟩

theorem plain_object (h_keys : (es.map (·.1)).Nodup) (h : ∀ e ∈ es, e.2.Plain) :
    (object es).Plain :=
  ⟨keysDistinct_object.2 ⟨h_keys, fun e h_e => (h e h_e).distinct⟩,
    exactEntries_iff.2 fun e h_e => (h e h_e).exact⟩

end Json

namespace Config

open Json

variable {α : Type} {name k : String} {write : α → Json} {a : Option α}
  {es : List (String × Json)}

/-! ### Entries that may be left out -/

theorem lookup_optionalEntry : (optionalEntry name write a).lookup name = a.map write := by
  cases a <;> simp [optionalEntry]

theorem lookup_optionalEntry_append (h : es.lookup name = none) :
    (optionalEntry name write a ++ es).lookup name = a.map write := by
  cases a with
  | none => exact h
  | some a => simp [optionalEntry]

theorem lookup_optionalEntry_of_ne (h : k ≠ name) :
    (optionalEntry name write a ++ es).lookup k = es.lookup k := by
  cases a with
  | none => rfl
  | some a =>
    have h_beq : (k == name) = false := by simpa using h
    rw [optionalEntry, List.singleton_append, List.lookup_cons, h_beq]

theorem forall_mem_optionalEntry {P : String × Json → Prop} :
    (∀ e ∈ optionalEntry name write a, P e) ↔ ∀ b ∈ a, P (name, write b) := by
  cases a <;> simp [optionalEntry]

theorem mayHave_of_lookup {P : Json → Prop} (h : es.lookup k = a.map write)
    (h_P : ∀ a, P (write a)) : MayHave es k (OrNull P) := by
  intro v h_v
  rw [h] at h_v
  obtain ⟨b, -, rfl⟩ := Option.map_eq_some_iff.1 h_v
  exact .inr (h_P b)

/-! ### Numbers -/

theorem isNumber_word64 (n : UInt64) : IsNumber IntegerType.word64.Fits (word64ToJson n) :=
  ⟨_, rfl, n.toNat, rfl, Int.natCast_nonneg _, by
    have h_lt := n.toNat_lt
    simp only [IntegerType.greatest]
    omega⟩

theorem isNumber_int64 (n : Int64) : IsNumber IntegerType.int64.Fits (.int n.toInt) :=
  ⟨_, rfl, n.toInt, rfl, n.le_toInt, Int.le_of_lt_add_one n.toInt_lt⟩

theorem isNumber_word32 (n : UInt32) : IsNumber IntegerType.word32.Fits (.nat n.toNat) :=
  ⟨_, rfl, n.toNat, rfl, Int.natCast_nonneg _, by
    have h_lt := n.toNat_lt
    simp only [IntegerType.greatest]
    omega⟩

theorem plain_of_isNumber {t : IntegerType} {j : Json} (h : IsNumber t.Fits j) : j.Plain := by
  obtain ⟨_, rfl, i, rfl, h_least, h_greatest⟩ := h
  cases t <;> exact plain_int (by simp only [IntegerType.least] at h_least; omega)
    (by simp only [IntegerType.greatest] at h_greatest; omega)

/-! ### Fields and rules -/

theorem FieldSpec.toJson_plain (spec : FieldSpec) : spec.toJson.Plain := by
  cases spec with
  | text least greatest =>
    refine plain_object (by simp) ?_
    simp only [List.forall_mem_cons, List.not_mem_nil, false_imp_iff, implies_true, and_true]
    exact ⟨plain_string _, plain_of_isNumber (isNumber_word64 _),
      plain_of_isNumber (isNumber_word64 _)⟩
  | number least greatest =>
    refine plain_object (by simp) ?_
    simp only [List.forall_mem_cons, List.not_mem_nil, false_imp_iff, implies_true, and_true]
    exact ⟨plain_string _, plain_of_isNumber (isNumber_int64 _),
      plain_of_isNumber (isNumber_int64 _)⟩
  | date least greatest format =>
    refine plain_object (by cases format <;> simp [optionalEntry]) ?_
    simp only [List.forall_mem_append, List.forall_mem_cons, List.not_mem_nil, false_imp_iff,
      implies_true, and_true, forall_mem_optionalEntry]
    exact ⟨⟨plain_string _, plain_string _, plain_string _⟩, fun _ _ => plain_string _⟩
  | choice values =>
    refine plain_object (by simp) ?_
    simp only [List.forall_mem_cons, List.not_mem_nil, false_imp_iff, implies_true, and_true]
    exact ⟨plain_string _, plain_array (List.forall_mem_map.2 fun _ _ => plain_string _)⟩
  | pattern expression maxRepeat =>
    refine plain_object (by cases maxRepeat <;> simp [optionalEntry]) ?_
    simp only [List.forall_mem_append, List.forall_mem_cons, List.not_mem_nil, false_imp_iff,
      implies_true, and_true, forall_mem_optionalEntry]
    exact ⟨⟨plain_string _, plain_string _⟩, fun _ _ => plain_of_isNumber (isNumber_word32 _)⟩

theorem FieldSpec.toJson_form (spec : FieldSpec) : FieldForm IntegerType.Fits spec.toJson := by
  cases spec with
  | text least greatest =>
    exact .text rfl ⟨_, rfl, isNumber_word64 _⟩ ⟨_, rfl, isNumber_word64 _⟩
  | number least greatest =>
    exact .number rfl ⟨_, rfl, isNumber_int64 _⟩ ⟨_, rfl, isNumber_int64 _⟩
  | date least greatest format =>
    have h_format : List.lookup "format" (optionalEntry "format" .string format) = _ :=
      lookup_optionalEntry
    exact .date rfl ⟨_, rfl, _, rfl⟩ ⟨_, rfl, _, rfl⟩ (mayHave_of_lookup h_format fun s => ⟨s, rfl⟩)
  | choice values =>
    exact .choice rfl ⟨_, rfl, _, rfl, List.forall_mem_map.2 fun s _ => ⟨s, rfl⟩⟩
  | pattern expression maxRepeat =>
    have h_maxRepeat : List.lookup "max_repeat" (optionalEntry "max_repeat"
        (fun n : UInt32 => .nat n.toNat) maxRepeat) = _ := lookup_optionalEntry
    exact .pattern rfl ⟨_, rfl, _, rfl⟩ (mayHave_of_lookup h_maxRepeat isNumber_word32)

theorem Mandatory.toJson_plain (rule : Mandatory) : rule.toJson.Plain := by
  cases rule with
  | fixed always => exact plain_bool always
  | whenPresent id =>
    exact plain_object (List.nodup_singleton _) (List.forall_mem_singleton.2 (plain_string id))

theorem Mandatory.toJson_form (rule : Mandatory) : MandatoryForm rule.toJson := by
  cases rule with
  | fixed always => exact .fixed always
  | whenPresent id => exact .whenPresent ⟨_, rfl, id, rfl⟩

/-! ### Constraints and parts -/

theorem Child.listToJson_eq_map (cs : List Child) : Child.listToJson cs = cs.map Child.toJson := by
  induction cs with
  | nil => rw [Child.listToJson, List.map_nil]
  | cons c cs ih => rw [Child.listToJson, ih, List.map_cons]

/-- A separator is left out when it is empty, which it is taken for when it is not there. -/
theorem Kind.lookup_separator (parts : List Child) (separator : String) :
    ∃ written : Option String, written.getD "" = separator ∧
      (Kind.combined parts separator).entries.lookup "separator" = written.map .string := by
  rw [Kind.entries]
  -- the look-up passes over the tag and the parts
  cases h : separator.isEmpty with
  | true => exact ⟨none, (String.isEmpty_iff.1 h).symm, rfl⟩
  | false => exact ⟨some separator, rfl, rfl⟩

theorem Kind.entries_keys (kind : Kind) :
    (kind.entries.map (·.1)).Nodup ∧ ∀ e ∈ kind.entries, e.1 ≠ "id" ∧ e.1 ≠ "charset" := by
  cases kind with
  | combined parts separator =>
    rw [Kind.entries]
    split <;> simp
  | _ => simp [Kind.entries]

theorem Kind.entries_plain {kind : Kind} (h : ∀ c ∈ kind.children, c.toJson.Plain) :
    ∀ e ∈ kind.entries, e.2.Plain := by
  cases kind with
  | constant value =>
    simp only [Kind.entries, List.forall_mem_cons, List.not_mem_nil, false_imp_iff, implies_true,
      and_true]
    exact ⟨plain_string _, plain_string _⟩
  | field field =>
    simp only [Kind.entries, List.forall_mem_cons, List.not_mem_nil, false_imp_iff, implies_true,
      and_true]
    exact ⟨plain_string _, field.toJson_plain⟩
  | combined parts separator =>
    have h_parts : (Json.array (Child.listToJson parts)).Plain := by
      rw [Child.listToJson_eq_map]
      exact plain_array (List.forall_mem_map.2 h)
    rw [Kind.entries, List.forall_mem_append]
    simp only [List.forall_mem_cons, List.not_mem_nil, false_imp_iff, implies_true, and_true]
    refine ⟨⟨plain_string _, h_parts⟩, ?_⟩
    split
    · exact fun _ h_e => absurd h_e List.not_mem_nil
    · exact List.forall_mem_singleton.2 (plain_string _)
  | optional child mandatory =>
    simp only [Kind.entries, List.forall_mem_cons, List.not_mem_nil, false_imp_iff, implies_true,
      and_true]
    exact ⟨plain_string _, h child (List.mem_singleton_self _), mandatory.toJson_plain⟩
  | source child =>
    simp only [Kind.entries, List.forall_mem_cons, List.not_mem_nil, false_imp_iff, implies_true,
      and_true]
    exact ⟨plain_string _, h child (List.mem_singleton_self _)⟩

theorem Kind.entries_form {kind : Kind} {Part : Json → Prop}
    (h : ∀ c ∈ kind.children, Part c.toJson) : KindForm IntegerType.Fits Part kind.entries := by
  cases kind with
  | constant value =>
    rw [Kind.entries]
    exact .constant rfl ⟨_, rfl, value, rfl⟩
  | field field =>
    rw [Kind.entries]
    exact .field rfl ⟨_, rfl, field.toJson_form⟩
  | combined parts separator =>
    obtain ⟨written, -, h_separator⟩ := Kind.lookup_separator parts separator
    rw [Kind.entries, Child.listToJson_eq_map] at h_separator ⊢
    refine .combined rfl ⟨_, rfl, _, rfl, List.forall_mem_map.2 h⟩ fun v h_v => ?_
    obtain ⟨s, -, rfl⟩ := Option.map_eq_some_iff.1 (h_separator.symm.trans h_v)
    exact ⟨s, rfl⟩
  | optional child mandatory =>
    rw [Kind.entries]
    refine .optional rfl ⟨_, rfl, h child (List.mem_singleton_self _)⟩ ?_
    rintro v ⟨⟩
    exact mandatory.toJson_form
  | source child =>
    rw [Kind.entries]
    exact .source rfl ⟨_, rfl, h child (List.mem_singleton_self _)⟩

/-- The entries of a constraint. -/
def writtenEntries (id charset : Option String) (kind : Kind) : List (String × Json) :=
  optionalEntry "id" .string id ++ optionalEntry "charset" .string charset ++ kind.entries

section Constraints

variable {id charset : Option String} {kind : Kind}

theorem Constraint.toJson_mk :
    (Constraint.mk id charset kind).toJson = .object (writtenEntries id charset kind) := by
  rw [Constraint.toJson, writtenEntries]

theorem Kind.lookup_entries_eq_none (h : k = "id" ∨ k = "charset") :
    kind.entries.lookup k = none := by
  refine List.lookup_eq_none_iff.2 fun e h_e => ?_
  obtain ⟨h_id, h_charset⟩ := kind.entries_keys.2 e h_e
  rcases h with rfl | rfl
  · simpa using h_id.symm
  · simpa using h_charset.symm

theorem lookup_writtenEntries_id :
    (writtenEntries id charset kind).lookup "id" = id.map .string := by
  rw [writtenEntries, List.append_assoc]
  refine lookup_optionalEntry_append ?_
  rw [lookup_optionalEntry_of_ne (by decide), Kind.lookup_entries_eq_none (.inl rfl)]

theorem lookup_writtenEntries_charset :
    (writtenEntries id charset kind).lookup "charset" = charset.map .string := by
  rw [writtenEntries, List.append_assoc, lookup_optionalEntry_of_ne (by decide)]
  exact lookup_optionalEntry_append (Kind.lookup_entries_eq_none (.inr rfl))

theorem lookup_writtenEntries_of_ne (h_id : k ≠ "id") (h_charset : k ≠ "charset") :
    (writtenEntries id charset kind).lookup k = kind.entries.lookup k := by
  rw [writtenEntries, List.append_assoc, lookup_optionalEntry_of_ne h_id,
    lookup_optionalEntry_of_ne h_charset]

theorem writtenEntries_keys : ((writtenEntries id charset kind).map (·.1)).Nodup := by
  obtain ⟨h_nodup, h_apart⟩ := kind.entries_keys
  -- a kind has neither of the two keys that all constraints may have
  have h_id : "id" ∉ kind.entries.map (·.1) := fun h => by
    obtain ⟨e, h_e, h_eq⟩ := List.mem_map.1 h
    exact (h_apart e h_e).1 h_eq
  have h_charset : "charset" ∉ kind.entries.map (·.1) := fun h => by
    obtain ⟨e, h_e, h_eq⟩ := List.mem_map.1 h
    exact (h_apart e h_e).2 h_eq
  rw [writtenEntries, List.append_assoc]
  cases id <;> cases charset <;> simp_all [optionalEntry]

theorem Constraint.toJson_plain (x : Constraint) : x.toJson.Plain := by
  induction x using Constraint.partInduction with
  | h x ih =>
    obtain ⟨id, charset, kind⟩ := x
    -- references are written without further ado, and embedded constraints by the induction
    have h_children : ∀ c ∈ kind.children, c.toJson.Plain := by
      intro c h_c
      cases c with
      | reference id =>
        rw [Child.toJson]
        exact plain_object (List.nodup_singleton _) (List.forall_mem_singleton.2 (plain_string id))
      | embedded y =>
        rw [Child.toJson]
        exact ih y h_c
    rw [Constraint.toJson_mk]
    refine plain_object writtenEntries_keys ?_
    simp only [writtenEntries, List.forall_mem_append, forall_mem_optionalEntry]
    exact ⟨⟨fun _ _ => plain_string _, fun _ _ => plain_string _⟩, Kind.entries_plain h_children⟩

theorem Constraint.toJson_form (x : Constraint) :
    ConstraintForm IntegerType.Fits (ChildForm IntegerType.Fits) x.toJson := by
  induction x using Constraint.partInduction with
  | h x ih =>
    obtain ⟨id, charset, kind⟩ := x
    -- a reference has the form of one, and an embedded constraint that of its kind
    have h_children : ∀ c ∈ kind.children, ChildForm IntegerType.Fits c.toJson := by
      intro c h_c
      cases c with
      | reference id =>
        rw [Child.toJson]
        exact .reference id
      | embedded y =>
        rw [Child.toJson]
        exact childForm_iff.2 (.inr (ih y h_c))
    rw [Constraint.toJson_mk]
    exact .mk (mayHave_of_lookup lookup_writtenEntries_id fun s => ⟨s, rfl⟩)
      (mayHave_of_lookup lookup_writtenEntries_charset fun s => ⟨s, rfl⟩)
      ((Kind.entries_form h_children).of_lookup fun _ => lookup_writtenEntries_of_ne)

end Constraints

/-! ### Whole configurations -/

/-- Character sets as a document. -/
def charsetsToJson (d : Dict String) : Json := .object (d.map Json.string).entries

/-- The character sets that are written, unless there are none. -/
def writtenCharsets (c : Config) : Option (Dict String) :=
  if c.charsets.isEmpty then none else some c.charsets

theorem writtenCharsets_getD (c : Config) : c.writtenCharsets.getD .empty = c.charsets := by
  rw [writtenCharsets]
  split
  · next h => exact Dict.ext (List.isEmpty_iff.1 h).symm
  · rfl

/-- The entries of a configuration. -/
def writtenFields (c : Config) : List (String × Json) :=
  ("config_version", .string c.version) :: (optionalEntry "seed" word64ToJson c.seed ++
    (optionalEntry "charsets" charsetsToJson c.writtenCharsets ++
      [("constraints", .array (c.constraints.map Constraint.toJson))]))

variable (c : Config)

theorem toJson_eq : c.toJson = .object c.writtenFields := by
  rw [toJson, writtenFields, writtenCharsets]
  cases c.charsets.isEmpty <;> cases c.seed <;> rfl

theorem lookup_version : c.writtenFields.lookup "config_version" = some (.string c.version) := rfl

theorem lookup_seed : c.writtenFields.lookup "seed" = c.seed.map word64ToJson := by
  refine lookup_optionalEntry_append ?_
  rw [lookup_optionalEntry_of_ne (by decide)]
  rfl

theorem lookup_charsets :
    c.writtenFields.lookup "charsets" = c.writtenCharsets.map charsetsToJson := by
  show List.lookup "charsets" (optionalEntry "seed" word64ToJson c.seed ++ _) = _
  rw [lookup_optionalEntry_of_ne (by decide)]
  exact lookup_optionalEntry_append rfl

theorem lookup_constraints : c.writtenFields.lookup "constraints" =
    some (.array (c.constraints.map Constraint.toJson)) := by
  show List.lookup "constraints" (optionalEntry "seed" word64ToJson c.seed ++ _) = _
  rw [lookup_optionalEntry_of_ne (by decide), lookup_optionalEntry_of_ne (by decide)]
  rfl

theorem charsetsToJson_plain (d : Dict String) : (charsetsToJson d).Plain := by
  refine plain_object (d.map Json.string).keys_nodup fun e h_e => ?_
  obtain ⟨e', -, rfl⟩ := List.mem_map.1 h_e
  exact plain_string e'.2

/-- **What is written can be written as text**: no key is repeated, and all numbers are integers of
64 bits. -/
theorem toJson_plain : c.toJson.Plain := by
  have h_constraints : (Json.array (c.constraints.map Constraint.toJson)).Plain :=
    plain_array (List.forall_mem_map.2 fun x _ => x.toJson_plain)
  rw [toJson_eq]
  refine plain_object ?_ ?_
  · rw [writtenFields]
    cases c.seed <;> cases c.writtenCharsets <;> simp [optionalEntry]
  · simp only [writtenFields, List.forall_mem_cons, List.forall_mem_append,
      forall_mem_optionalEntry, List.not_mem_nil, false_imp_iff, implies_true, and_true]
    exact ⟨plain_string _, fun n _ => plain_of_isNumber (isNumber_word64 n),
      fun d _ => charsetsToJson_plain d, h_constraints⟩

/-- **What is written has the form of a configuration**, with numbers that fit. -/
theorem toJson_form : ConfigForm IntegerType.Fits c.toJson := by
  rw [toJson_eq]
  refine .mk ⟨_, lookup_version c, _, rfl⟩ (mayHave_of_lookup (lookup_seed c) isNumber_word64) ?_
    ⟨_, lookup_constraints c, _, rfl, List.forall_mem_map.2 fun x _ => x.toJson_form⟩
  intro v h_v
  rw [lookup_charsets] at h_v
  obtain ⟨d, -, rfl⟩ := Option.map_eq_some_iff.1 h_v
  refine ⟨_, rfl, fun e h_e => ?_⟩
  obtain ⟨e', -, rfl⟩ := List.mem_map.1 h_e
  exact ⟨e'.2, rfl⟩

end Config

end Specimen
