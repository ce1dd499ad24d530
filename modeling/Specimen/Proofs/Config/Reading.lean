import Specimen.Config.Document
import Specimen.Proofs.Json.Record

/-!
# Reading configurations by look-ups

What the readers of `Specimen.Config.Document` make of an object whose keys are distinct, in terms
of what stands under its keys: fields of each kind (`FieldSpec.read?_text` and so on), rules,
kinds of constraints (`read?_constant` and so on), constraints with an id and a character set
(`read?_constraint`), parts (`childWithin_reference`, `childWithin_embedded`) and whole
configurations (`read?_config`).
-/

namespace Specimen.Config

variable {origin : Origin} {es : List (String × Json)}

/-! ### Fields -/

namespace FieldSpec

theorem textRecord_lawful : textRecord.Lawful where
  apart := by
    simp only [textRecord, List.pairwise_pair]
    constructor <;> exact Slot.of_apart (by decide) (fun _ _ _ => rfl) fun _ _ => rfl
  start := by simp [textRecord, Slot.of]

theorem numberRecord_lawful : numberRecord.Lawful where
  apart := by
    simp only [numberRecord, List.pairwise_pair]
    constructor <;> exact Slot.of_apart (by decide) (fun _ _ _ => rfl) fun _ _ => rfl
  start := by simp [numberRecord, Slot.of]

theorem dateRecord_lawful : dateRecord.Lawful where
  apart := by
    simp only [dateRecord, List.pairwise_cons, List.forall_mem_cons, List.not_mem_nil,
      false_imp_iff, implies_true, List.Pairwise.nil, and_true]
    refine ⟨⟨⟨?_, ?_⟩, ?_, ?_⟩, ?_, ?_⟩ <;>
      exact Slot.of_apart (by decide) (fun _ _ _ => rfl) fun _ _ => rfl
  start := by simp [dateRecord, Slot.of]

theorem choiceRecord_lawful : choiceRecord.Lawful where
  apart := List.pairwise_singleton _ _
  start := by simp [choiceRecord, Slot.of]

theorem patternRecord_lawful : patternRecord.Lawful where
  apart := by
    simp only [patternRecord, List.pairwise_pair]
    constructor <;> exact Slot.of_apart (by decide) (fun _ _ _ => rfl) fun _ _ => rfl
  start := by simp [patternRecord, Slot.of]

section Kinds

variable (h_keys : (es.map (·.1)).Nodup)

include h_keys

theorem read?_variant {name : String} (h_kind : es.lookup "kind" = some (.string name))
    (h_name : tagged.variants.contains name = true) : reader.read? origin (.object es) =
      (tagged.variant name (.entries (Tagged.beside "kind" es))).toOption :=
  Tagged.read?_variant (t := tagged) h_keys h_kind h_name

theorem read?_text (h_kind : es.lookup "kind" = some (.string "text")) :
    reader.read? origin (.object es) = (Reader.size.required .fragment es "min_len").bind fun a =>
      (Reader.size.required .fragment es "max_len").map fun b => .text a b := by
  rw [read?_variant h_keys h_kind rfl]
  refine (Record.read?_beside textRecord_lawful rfl h_keys (by simp [textRecord, Slot.of])).trans ?_
  simp only [textRecord, Record.gather_cons, Record.gather_nil, Slot.fill_of, Reader.required_eq]
  rcases Reader.size.optional .fragment es "min_len" with _ | _ | a <;>
    rcases Reader.size.optional .fragment es "max_len" with _ | _ | b <;> rfl

theorem read?_number (h_kind : es.lookup "kind" = some (.string "number")) :
    reader.read? origin (.object es) = (Reader.int64.required .fragment es "min").bind fun a =>
      (Reader.int64.required .fragment es "max").map fun b => .number a b := by
  rw [read?_variant h_keys h_kind rfl]
  refine (Record.read?_beside numberRecord_lawful rfl h_keys
    (by simp [numberRecord, Slot.of])).trans ?_
  simp only [numberRecord, Record.gather_cons, Record.gather_nil, Slot.fill_of, Reader.required_eq]
  rcases Reader.int64.optional .fragment es "min" with _ | _ | a <;>
    rcases Reader.int64.optional .fragment es "max" with _ | _ | b <;> rfl

theorem read?_date (h_kind : es.lookup "kind" = some (.string "date")) :
    reader.read? origin (.object es) = (Reader.string.required .fragment es "min").bind fun a =>
      (Reader.string.required .fragment es "max").bind fun b =>
        ((Reader.option .string).optional .fragment es "format").map fun f =>
          .date a b f.join := by
  rw [read?_variant h_keys h_kind rfl]
  refine (Record.read?_beside dateRecord_lawful rfl h_keys (by simp [dateRecord, Slot.of])).trans ?_
  simp only [dateRecord, Record.gather_cons, Record.gather_nil, Slot.fill_of, Reader.required_eq]
  rcases Reader.string.optional .fragment es "min" with _ | _ | a <;>
    rcases Reader.string.optional .fragment es "max" with _ | _ | b <;>
    rcases (Reader.option .string).optional .fragment es "format" with _ | _ | f <;> rfl

theorem read?_choice (h_kind : es.lookup "kind" = some (.string "choice")) :
    reader.read? origin (.object es) =
      ((Reader.list .string).required .fragment es "values").map .choice := by
  rw [read?_variant h_keys h_kind rfl]
  refine (Record.read?_beside choiceRecord_lawful rfl h_keys
    (by simp [choiceRecord, Slot.of])).trans ?_
  simp only [choiceRecord, Record.gather_cons, Record.gather_nil, Slot.fill_of, Reader.required_eq]
  rcases (Reader.list .string).optional .fragment es "values" with _ | _ | values <;> rfl

theorem read?_pattern (h_kind : es.lookup "kind" = some (.string "pattern")) :
    reader.read? origin (.object es) =
      (Reader.string.required .fragment es "pattern").bind fun expression =>
        ((Reader.option .word32).optional .fragment es "max_repeat").map fun n =>
          .pattern expression n.join := by
  rw [read?_variant h_keys h_kind rfl]
  refine (Record.read?_beside patternRecord_lawful rfl h_keys
    (by simp [patternRecord, Slot.of])).trans ?_
  simp only [patternRecord, Record.gather_cons, Record.gather_nil, Slot.fill_of, Reader.required_eq]
  rcases Reader.string.optional .fragment es "pattern" with _ | _ | expression <;>
    rcases (Reader.option .word32).optional .fragment es "max_repeat" with _ | _ | n <;> rfl

end Kinds

end FieldSpec

/-! ### Rules and references -/

theorem Mandatory.record_lawful : Mandatory.record.Lawful where
  apart := List.pairwise_singleton _ _
  start := by simp [Mandatory.record, Slot.of]

theorem Mandatory.read?_object (h_keys : (es.map (·.1)).Nodup) :
    Mandatory.reader.read? origin (.object es) =
      (Reader.string.required .fragment es "when_present").map .whenPresent := by
  have h_fields : (Mandatory.record.ofEntries .fragment es).toOption = _ :=
    Record.read?_ofEntries Mandatory.record_lawful h_keys fun h => absurd h Bool.false_ne_true
  have h_read : Mandatory.reader.read? origin (.object es) =
      (Mandatory.record.ofEntries .fragment es).toOption := by
    show (Mandatory.ofJson (.object es)).toOption = _
    rw [Mandatory.ofJson]
    cases Mandatory.record.ofEntries .fragment es <;> rfl
  rw [h_read, h_fields]
  simp only [Mandatory.record, Record.gather_cons, Record.gather_nil, Slot.fill_of,
    Reader.required_eq]
  rcases Reader.string.optional .fragment es "when_present" with _ | _ | id <;> rfl

/-- Whatever has another key than `ref` is no reference. -/
theorem referenceRecord_ofEntries_of_mem {e : String × Json} (h_e : e ∈ es) (h : e.1 ≠ "ref") :
    (referenceRecord.ofEntries origin es).toOption = none :=
  Record.ofEntries_unknown rfl h_e (by simpa [referenceRecord, Slot.of] using Ne.symm h)

/-! ### Kinds -/

section Kinds

variable {child : Reader Child} (h_keys : (es.map (·.1)).Nodup)

theorem constantRecord_lawful : constantRecord.Lawful where
  apart := List.pairwise_singleton _ _
  start := by simp [constantRecord, Slot.of]

theorem fieldRecord_lawful : fieldRecord.Lawful where
  apart := List.pairwise_singleton _ _
  start := by simp [fieldRecord, Slot.of]

theorem combinedRecord_lawful (child : Reader Child) : (combinedRecord child).Lawful where
  apart := by
    simp only [combinedRecord, List.pairwise_pair]
    constructor <;> exact Slot.of_apart (by decide) (fun _ _ _ => rfl) fun _ _ => rfl
  start := by simp [combinedRecord, Slot.of]

theorem optionalRecord_lawful (child : Reader Child) : (optionalRecord child).Lawful where
  apart := by
    simp only [optionalRecord, List.pairwise_pair]
    constructor <;> exact Slot.of_apart (by decide) (fun _ _ _ => rfl) fun _ _ => rfl
  start := by simp [optionalRecord, Slot.of]

theorem sourceRecord_lawful (child : Reader Child) : (sourceRecord child).Lawful where
  apart := List.pairwise_singleton _ _
  start := by simp [sourceRecord, Slot.of]

include h_keys

theorem read?_kind {name : String} (h_type : es.lookup "type" = some (.string name))
    (h_name : (kindTagged child).variants.contains name = true) :
    ((kindTagged child).ofEntries origin es).toOption =
      ((kindTagged child).variant name (.entries (Tagged.beside "type" es))).toOption :=
  Tagged.read?_variant (t := kindTagged child) h_keys h_type h_name

theorem read?_constant (h_type : es.lookup "type" = some (.string "constant")) :
    ((kindTagged child).ofEntries origin es).toOption =
      (Reader.string.required .fragment es "value").map .constant := by
  rw [read?_kind h_keys h_type rfl]
  refine (Record.read?_beside constantRecord_lawful rfl h_keys
    (by simp [constantRecord, Slot.of])).trans ?_
  simp only [constantRecord, Record.gather_cons, Record.gather_nil, Slot.fill_of,
    Reader.required_eq]
  rcases Reader.string.optional .fragment es "value" with _ | _ | value <;> rfl

theorem read?_field (h_type : es.lookup "type" = some (.string "field")) :
    ((kindTagged child).ofEntries origin es).toOption =
      (FieldSpec.reader.required .fragment es "field").map .field := by
  rw [read?_kind h_keys h_type rfl]
  refine (Record.read?_beside fieldRecord_lawful rfl h_keys
    (by simp [fieldRecord, Slot.of])).trans ?_
  simp only [fieldRecord, Record.gather_cons, Record.gather_nil, Slot.fill_of, Reader.required_eq]
  rcases FieldSpec.reader.optional .fragment es "field" with _ | _ | field <;> rfl

theorem read?_combined (h_type : es.lookup "type" = some (.string "combined")) :
    ((kindTagged child).ofEntries origin es).toOption =
      ((Reader.list child).required .fragment es "parts").bind fun parts =>
        (Reader.string.optional .fragment es "separator").map fun separator =>
          .combined parts (separator.getD "") := by
  rw [read?_kind h_keys h_type rfl]
  refine (Record.read?_beside (combinedRecord_lawful child) rfl h_keys
    (by simp [combinedRecord, Slot.of])).trans ?_
  simp only [combinedRecord, Record.gather_cons, Record.gather_nil, Slot.fill_of,
    Reader.required_eq]
  rcases (Reader.list child).optional .fragment es "parts" with _ | _ | parts <;>
    rcases Reader.string.optional .fragment es "separator" with _ | _ | separator <;> rfl

theorem read?_optional (h_type : es.lookup "type" = some (.string "optional")) :
    ((kindTagged child).ofEntries origin es).toOption =
      (child.required .fragment es "child").bind fun c =>
        (Mandatory.reader.optional .fragment es "mandatory").map fun rule =>
          .optional c (rule.getD (.fixed false)) := by
  rw [read?_kind h_keys h_type rfl]
  refine (Record.read?_beside (optionalRecord_lawful child) rfl h_keys
    (by simp [optionalRecord, Slot.of])).trans ?_
  simp only [optionalRecord, Record.gather_cons, Record.gather_nil, Slot.fill_of,
    Reader.required_eq]
  rcases child.optional .fragment es "child" with _ | _ | c <;>
    rcases Mandatory.reader.optional .fragment es "mandatory" with _ | _ | rule <;> rfl

theorem read?_source (h_type : es.lookup "type" = some (.string "source")) :
    ((kindTagged child).ofEntries origin es).toOption =
      (child.required .fragment es "child").map .source := by
  rw [read?_kind h_keys h_type rfl]
  refine (Record.read?_beside (sourceRecord_lawful child) rfl h_keys
    (by simp [sourceRecord, Slot.of])).trans ?_
  simp only [sourceRecord, Record.gather_cons, Record.gather_nil, Slot.fill_of, Reader.required_eq]
  rcases child.optional .fragment es "child" with _ | _ | c <;> rfl

end Kinds

/-! ### Constraints -/

/-- The reader of a text that may be null. -/
abbrev textOrNull : Reader (Option String) := .option .string

/-- The entries beside the id and the character set. -/
def kindEntries (es : List (String × Json)) : List (String × Json) :=
  Tagged.beside "charset" (Tagged.beside "id" es)

theorem lookup_kindEntries {key : String} (h_id : key ≠ "id") (h_charset : key ≠ "charset") :
    (kindEntries es).lookup key = es.lookup key := by
  rw [kindEntries, Tagged.lookup_beside h_charset, Tagged.lookup_beside h_id]

theorem nodup_kindEntries (h : (es.map (·.1)).Nodup) : ((kindEntries es).map (·.1)).Nodup :=
  Tagged.nodup_beside (Tagged.nodup_beside h)

/-- What is read under the same key behind another entry. -/
theorem optional_cons_of_ne {α : Type} {r : Reader α} {e : String × Json} {key : String}
    (h : e.1 ≠ key) : r.optional origin (e :: es) key = r.optional origin es key := by
  have h_beq : (key == e.1) = false := by simpa using Ne.symm h
  rw [Reader.optional, Reader.optional, List.lookup_cons, h_beq]

theorem optional_cons_self {α : Type} {r : Reader α} {j : Json} {key : String} :
    r.optional origin ((key, j) :: es) key = (r.read? origin j).map some := by
  rw [Reader.optional, List.lookup_cons]
  simp

theorem optional_of_not_mem {α : Type} {r : Reader α} {key : String}
    (h : key ∉ es.map (·.1)) : r.optional origin es key = some none := by
  rw [Reader.optional, Dict.lookup_eq_none h]

section Entries

variable {s : ConstraintFields} {j : Json}

theorem toOption_addEntry_id (h_free : s.id = none) :
    (ConstraintFields.addEntry origin s ("id", j)).toOption =
      (textOrNull.read? origin j).map fun a => { s with id := some a } := by
  rw [ConstraintFields.addEntry]
  simp only [ConstraintFields.slot?, if_true, Slot.of, h_free, Option.isSome_none,
    Bool.false_eq_true, if_false]
  rw [Reader.read?]
  cases textOrNull.ofJson origin j <;> rfl

theorem toOption_addEntry_charset (h_free : s.charset = none) :
    (ConstraintFields.addEntry origin s ("charset", j)).toOption =
      (textOrNull.read? origin j).map fun b => { s with charset := some b } := by
  rw [ConstraintFields.addEntry]
  simp only [ConstraintFields.slot?, show "charset" ≠ "id" by decide, if_false, if_true, Slot.of,
    h_free, Option.isSome_none, Bool.false_eq_true]
  rw [Reader.read?]
  cases textOrNull.ofJson origin j <;> rfl

/-- Every other entry is set aside. -/
theorem toOption_addEntry_other {key : String} (h_id : key ≠ "id") (h_charset : key ≠ "charset") :
    (ConstraintFields.addEntry origin s (key, j)).toOption =
      some { s with others := s.others ++ [(key, j)] } := by
  rw [ConstraintFields.addEntry]
  simp only [ConstraintFields.slot?, h_id, h_charset, if_false]
  rfl

end Entries

/-- The id and the character set are looked up, and the other entries are set aside. -/
theorem toOption_foldlM_addEntry (h_keys : (es.map (·.1)).Nodup) (s : ConstraintFields)
    (h_id : "id" ∈ es.map (·.1) → s.id = none)
    (h_charset : "charset" ∈ es.map (·.1) → s.charset = none) :
    (es.foldlM (ConstraintFields.addEntry origin) s).toOption =
      (textOrNull.optional origin es "id").bind fun a =>
        (textOrNull.optional origin es "charset").map fun b =>
          ⟨a.or s.id, b.or s.charset, s.others ++ kindEntries es⟩ := by
  -- A duplicate cannot occur (`h_keys`), so each of the two members is set at most once.
  rw [toOption_foldlM]
  induction es generalizing s with
  | nil => simp [Reader.optional, kindEntries, Tagged.beside]
  | cons e es ih =>
    obtain ⟨k, j⟩ := e
    obtain ⟨h_new, h_later⟩ := List.nodup_cons.1 h_keys
    have h_id' : "id" ∈ es.map (·.1) → s.id = none := fun h => h_id (List.mem_cons_of_mem _ h)
    have h_charset' : "charset" ∈ es.map (·.1) → s.charset = none :=
      fun h => h_charset (List.mem_cons_of_mem _ h)
    rw [List.foldlM_cons]
    by_cases h_k : k = "id"
    · subst h_k
      rw [toOption_addEntry_id (h_id List.mem_cons_self), optional_cons_self,
        optional_cons_of_ne (show "id" ≠ "charset" by decide)]
      cases h_read : textOrNull.read? origin j with
      | none => rfl
      | some a =>
        have h_rest := ih h_later { s with id := some a } (fun h => absurd h h_new) h_charset'
        rw [optional_of_not_mem h_new] at h_rest
        simpa [kindEntries, Tagged.beside] using h_rest
    · by_cases h_k' : k = "charset"
      · subst h_k'
        rw [toOption_addEntry_charset (h_charset List.mem_cons_self),
          optional_cons_of_ne (show "charset" ≠ "id" by decide), optional_cons_self]
        cases h_read : textOrNull.read? origin j with
        | none => cases textOrNull.optional origin es "id" <;> rfl
        | some b =>
          have h_rest := ih h_later { s with charset := some b } h_id' (fun h => absurd h h_new)
          rw [optional_of_not_mem h_new] at h_rest
          simpa [kindEntries, Tagged.beside] using h_rest
      · have h_rest := ih h_later { s with others := s.others ++ [(k, j)] } h_id' h_charset'
        rw [toOption_addEntry_other h_k h_k', optional_cons_of_ne h_k, optional_cons_of_ne h_k']
        simpa [kindEntries, Tagged.beside, h_k, h_k'] using h_rest

/-- **Constraints by look-ups.** -/
theorem read?_constraint {child : Reader Child} (h_keys : (es.map (·.1)).Nodup) :
    (constraintOfJson child origin (.object es)).toOption =
      (textOrNull.optional origin es "id").bind fun a =>
        (textOrNull.optional origin es "charset").bind fun b =>
          ((kindTagged child).ofEntries .fragment (kindEntries es)).toOption.map fun kind =>
            .mk a.join b.join kind := by
  rw [constraintOfJson, toOption_bind,
    toOption_foldlM_addEntry h_keys {} (fun _ => rfl) (fun _ => rfl), Option.bind_assoc]
  refine Option.bind_congr fun a _ => ?_
  cases textOrNull.optional origin es "charset" with
  | none => rfl
  | some b =>
    simp only [Option.map_some, Option.bind_some, Option.or_none, List.nil_append,
      ConstraintFields.finish, toOption_bind]
    cases ((kindTagged child).ofEntries .fragment (kindEntries es)).toOption <;> rfl

/-! ### Parts -/

theorem childWithin_reference (fuel : Nat) (id : String) :
    childWithin (fuel + 1) (.object [("ref", .string id)]) = .ok (.reference id) := rfl

/-- What is no reference is read as a constraint. -/
theorem toOption_childWithin (fuel : Nat) {e : String × Json} (h_e : e ∈ es) (h : e.1 ≠ "ref") :
    (childWithin (fuel + 1) (.object es)).toOption =
      (constraintOfJson (.whole fun _ => childWithin fuel) .fragment (.object es)).toOption.map
        .embedded := by
  have h_reference : (referenceRecord.ofEntries .fragment es).toOption = none :=
    referenceRecord_ofEntries_of_mem h_e h
  rw [childWithin, Record.ofJson]
  cases h_ofEntries : referenceRecord.ofEntries .fragment es with
  | ok id =>
    rw [h_ofEntries] at h_reference
    cases h_reference
  | error _ =>
    cases constraintOfJson (.whole fun _ => childWithin fuel) .fragment (.object es) <;> rfl

/-! ### Whole configurations -/

theorem record_lawful : record.Lawful where
  apart := by
    simp only [record, List.pairwise_cons, List.forall_mem_cons, List.not_mem_nil,
      false_imp_iff, implies_true, List.Pairwise.nil, and_true]
    refine ⟨⟨⟨?_, ?_⟩, ⟨?_, ?_⟩, ?_, ?_⟩, ⟨⟨?_, ?_⟩, ?_, ?_⟩, ?_, ?_⟩ <;>
      exact Slot.of_apart (by decide) (fun _ _ _ => rfl) fun _ _ => rfl
  start := by simp [record, Slot.of]

/-- **Configurations by look-ups.** -/
theorem read?_config (h_keys : (es.map (·.1)).Nodup) : (ofJson (.object es)).toOption =
    (Reader.string.required .document es "config_version").bind fun version =>
      ((Reader.option .word64).optional .document es "seed").bind fun seed =>
        ((Reader.dict .string).optional .document es "charsets").bind fun charsets =>
          ((Reader.list Constraint.reader).required .document es "constraints").map
            fun constraints => ⟨version, seed.join, charsets.getD .empty, constraints⟩ := by
  have h_fields : (record.ofEntries .document es).toOption = _ :=
    Record.read?_ofEntries record_lawful h_keys fun h => absurd h Bool.false_ne_true
  refine h_fields.trans ?_
  simp only [record, Record.gather_cons, Record.gather_nil, Slot.fill_of, Reader.required_eq]
  rcases Reader.string.optional .document es "config_version" with _ | _ | version <;>
    rcases (Reader.option .word64).optional .document es "seed" with _ | _ | seed <;>
    rcases (Reader.dict .string).optional .document es "charsets" with _ | _ | charsets <;>
    rcases (Reader.list Constraint.reader).optional .document es "constraints" with
      _ | _ | constraints <;> rfl

end Specimen.Config
