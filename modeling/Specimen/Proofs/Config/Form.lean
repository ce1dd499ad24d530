import Specimen.Config.Model
import Specimen.Proofs.Json.Form

/-!
# The form of configuration documents

`ConfigForm` says which documents have the form of a configuration: which keys have to be there,
and what may stand under them. Numbers are the one thing that can be asked for in two ways, so the
forms have a parameter for what is asked of a number of each integer type:

* `IntegerType.Accepts`: an integer by value, and not a negative one where the type is unsigned;
* `IntegerType.Fits`: an integer that is written as such, and that the type holds.

What fits is accepted (`IntegerType.Fits.accepts`), so that the forms with the second parameter
have the first one as well (`ConfigForm.mono`).
-/

namespace Specimen

namespace Config

open Json

/-! ### Numbers -/

/-- The integer types of the numbers of a configuration. -/
inductive IntegerType where
  | word64
  | int64
  | word32
  deriving DecidableEq, Repr

namespace IntegerType

/-- The least integer of a type. -/
def least : IntegerType → Int
  | word64 | word32 => 0
  | int64 => -0x8000_0000_0000_0000

/-- The greatest integer of a type. -/
def greatest : IntegerType → Int
  | word64 => 0xffff_ffff_ffff_ffff
  | int64 => 0x7fff_ffff_ffff_ffff
  | word32 => 0xffff_ffff

/-- An integer by value, and not a negative one where the type is unsigned. -/
def Accepts : IntegerType → Number → Prop
  | word64, n | word32, n => n.IsNatural
  | int64, n => n.isIntegral = true

/-- An integer that is written as such, and that the type holds. -/
def Fits (t : IntegerType) (n : Number) : Prop :=
  ∃ i, n = .int i ∧ t.least ≤ i ∧ i ≤ t.greatest

theorem Fits.accepts {t : IntegerType} {n : Number} (h : t.Fits n) : t.Accepts n := by
  obtain ⟨i, rfl, h_least, -⟩ := h
  cases t with
  | word64 | word32 => exact Number.isNatural_int_iff.2 h_least
  | int64 => rfl

end IntegerType

/-! ### Forms -/

section Forms

variable (A : IntegerType → Number → Prop) (Part : Json → Prop)

/-- The form of fields. -/
inductive FieldForm : Json → Prop where
  | text {es : List (String × Json)} (kind : es.lookup "kind" = some (.string "text"))
      (least : Has es "min_len" (IsNumber (A .word64)))
      (greatest : Has es "max_len" (IsNumber (A .word64))) : FieldForm (.object es)
  | number {es : List (String × Json)} (kind : es.lookup "kind" = some (.string "number"))
      (least : Has es "min" (IsNumber (A .int64)))
      (greatest : Has es "max" (IsNumber (A .int64))) : FieldForm (.object es)
  | date {es : List (String × Json)} (kind : es.lookup "kind" = some (.string "date"))
      (least : Has es "min" IsText) (greatest : Has es "max" IsText)
      (format : MayHave es "format" (OrNull IsText)) : FieldForm (.object es)
  | choice {es : List (String × Json)} (kind : es.lookup "kind" = some (.string "choice"))
      (values : Has es "values" (IsListOf IsText)) : FieldForm (.object es)
  | pattern {es : List (String × Json)} (kind : es.lookup "kind" = some (.string "pattern"))
      (expression : Has es "pattern" IsText)
      (maxRepeat : MayHave es "max_repeat" (OrNull (IsNumber (A .word32)))) :
      FieldForm (.object es)

/-- The form of rules. -/
inductive MandatoryForm : Json → Prop where
  | fixed (always : Bool) : MandatoryForm (.bool always)
  | whenPresent {es : List (String × Json)} (id : Has es "when_present" IsText) :
      MandatoryForm (.object es)

/-- The form of the entries of a kind, given that of parts. -/
inductive KindForm (es : List (String × Json)) : Prop where
  | constant (type : es.lookup "type" = some (.string "constant"))
      (value : Has es "value" IsText)
  | field (type : es.lookup "type" = some (.string "field"))
      (field : Has es "field" (FieldForm A))
  | combined (type : es.lookup "type" = some (.string "combined"))
      (parts : Has es "parts" (IsListOf Part)) (separator : MayHave es "separator" IsText)
  | optional (type : es.lookup "type" = some (.string "optional"))
      (child : Has es "child" Part) (mandatory : MayHave es "mandatory" MandatoryForm)
  | source (type : es.lookup "type" = some (.string "source")) (child : Has es "child" Part)

/-- The form of constraints, given that of parts. -/
inductive ConstraintForm : Json → Prop where
  | mk {es : List (String × Json)} (id : MayHave es "id" (OrNull IsText))
      (charset : MayHave es "charset" (OrNull IsText)) (kind : KindForm A Part es) :
      ConstraintForm (.object es)

/-- The form of parts: references, and constraints whose parts are of this form. -/
inductive ChildForm : Json → Prop where
  | reference (id : String) : ChildForm (.object [("ref", .string id)])
  | embedded {j : Json} {Part : Json → Prop} (parts : ∀ x, Part x → ChildForm x)
      (constraint : ConstraintForm A Part j) : ChildForm j

/-- The form of configurations. -/
inductive ConfigForm : Json → Prop where
  | mk {es : List (String × Json)} (version : Has es "config_version" IsText)
      (seed : MayHave es "seed" (OrNull (IsNumber (A .word64))))
      (charsets : MayHave es "charsets" (IsMapOf IsText))
      (constraints : Has es "constraints" (IsListOf (ConstraintForm A (ChildForm A)))) :
      ConfigForm (.object es)

end Forms

/-! ### Forms that ask for less -/

section Mono

variable {A B : IntegerType → Number → Prop} {Part Part' : Json → Prop} {j : Json}
  {es : List (String × Json)}

theorem FieldForm.mono (h : ∀ t n, A t n → B t n) (h_j : FieldForm A j) : FieldForm B j := by
  cases h_j with
  | text kind least greatest =>
    exact .text kind (least.imp fun _ h_v => h_v.imp (h _)) (greatest.imp fun _ h_v => h_v.imp (h _))
  | number kind least greatest =>
    exact .number kind (least.imp fun _ h_v => h_v.imp (h _))
      (greatest.imp fun _ h_v => h_v.imp (h _))
  | date kind least greatest format => exact .date kind least greatest format
  | choice kind values => exact .choice kind values
  | pattern kind expression maxRepeat =>
    exact .pattern kind expression (maxRepeat.imp fun _ h_v => h_v.imp fun h_v => h_v.imp (h _))

theorem KindForm.mono (h : ∀ t n, A t n → B t n) (h_part : ∀ x, Part x → Part' x)
    (h_es : KindForm A Part es) : KindForm B Part' es := by
  cases h_es with
  | constant type value => exact .constant type value
  | field type field => exact .field type (field.imp fun _ h_v => h_v.mono h)
  | combined type parts separator =>
    exact .combined type (parts.imp fun _ h_v => h_v.imp h_part) separator
  | optional type child mandatory => exact .optional type (child.imp h_part) mandatory
  | source type child => exact .source type (child.imp h_part)

theorem ConstraintForm.mono (h : ∀ t n, A t n → B t n) (h_part : ∀ x, Part x → Part' x)
    (h_j : ConstraintForm A Part j) : ConstraintForm B Part' j := by
  obtain ⟨id, charset, kind⟩ := h_j
  exact ⟨id, charset, kind.mono h h_part⟩

theorem ChildForm.mono (h : ∀ t n, A t n → B t n) (h_j : ChildForm A j) : ChildForm B j := by
  induction h_j with
  | reference id => exact .reference id
  | embedded parts constraint ih => exact .embedded ih (constraint.mono h fun _ => id)

theorem ConfigForm.mono (h : ∀ t n, A t n → B t n) (h_j : ConfigForm A j) : ConfigForm B j := by
  obtain ⟨version, seed, charsets, constraints⟩ := h_j
  exact ⟨version, seed.imp fun _ h_v => h_v.imp fun h_v => h_v.imp (h _), charsets,
    constraints.imp fun _ h_v => h_v.imp fun _ h_x => h_x.mono h fun _ => .mono h⟩

theorem childForm_iff :
    ChildForm A j ↔ (∃ id, j = .object [("ref", .string id)]) ∨ ConstraintForm A (ChildForm A) j := by
  constructor
  · intro h
    cases h with
    | reference id => exact .inl ⟨id, rfl⟩
    | embedded parts constraint => exact .inr (constraint.mono (fun _ _ => id) parts)
  · rintro (⟨id, rfl⟩ | h)
    · exact .reference id
    · exact .embedded (fun _ => id) h

end Mono

/-! ### Forms and the order of entries -/

section Canonical

variable {A : IntegerType → Number → Prop} {Part Part' : Json → Prop} {j : Json}
  {es : List (String × Json)}

/-- The entries of a canonical form. -/
def sorted (es : List (String × Json)) : List (String × Json) :=
  (Dict.ofList (es.map fun e => (e.1, e.2.canonical))).entries

section Lookup

variable (h_keys : (object es).KeysDistinct) {key : String} {P Q : Json → Prop}

include h_keys

theorem lookup_sorted : (sorted es).lookup key = (es.lookup key).map canonical :=
  lookup_canonical (keysDistinct_object.1 h_keys).1 key

theorem has_sorted (h : Has es key P) (h_imp : ∀ v, v.KeysDistinct → P v → Q v.canonical) :
    Has (sorted es) key Q := by
  obtain ⟨v, h_v, h_P⟩ := h
  refine ⟨v.canonical, ?_, h_imp v (h_keys.of_lookup h_v) h_P⟩
  rw [lookup_sorted h_keys, h_v, Option.map_some]

theorem mayHave_sorted (h : MayHave es key P)
    (h_imp : ∀ v, v.KeysDistinct → P v → Q v.canonical) : MayHave (sorted es) key Q := by
  intro w h_w
  rw [lookup_sorted h_keys] at h_w
  obtain ⟨v, h_v, rfl⟩ := Option.map_eq_some_iff.1 h_w
  exact h_imp v (h_keys.of_lookup h_v) (h v h_v)

theorem tag_sorted {tag : String} (h : es.lookup key = some (.string tag)) :
    (sorted es).lookup key = some (.string tag) := by
  rw [lookup_sorted h_keys, h, Option.map_some, canonical_eq_string_iff.2 rfl]

end Lookup

theorem isText_canonical (h : IsText j) : IsText j.canonical := by
  obtain ⟨s, rfl⟩ := h
  exact ⟨s, canonical_eq_string_iff.2 rfl⟩

theorem isNumber_canonical {B : Number → Prop} (h : IsNumber B j) : IsNumber B j.canonical := by
  obtain ⟨n, rfl, h_n⟩ := h
  exact ⟨n, canonical_eq_number_iff.2 rfl, h_n⟩

theorem orNull_canonical {P : Json → Prop} (h : OrNull P j) (h_P : P j → P j.canonical) :
    OrNull P j.canonical := by
  rcases h with rfl | h
  · exact .inl (by simp only [canonical])
  · exact .inr (h_P h)

theorem isListOf_canonical {P Q : Json → Prop} (h : IsListOf P j) (h_keys : j.KeysDistinct)
    (h_imp : ∀ x, x.KeysDistinct → P x → Q x.canonical) : IsListOf Q j.canonical := by
  obtain ⟨items, rfl, h_items⟩ := h
  rw [canonical_array]
  exact ⟨_, rfl, List.forall_mem_map.2 fun x h_x =>
    h_imp x (keysDistinct_array.1 h_keys x h_x) (h_items x h_x)⟩

theorem isMapOf_canonical {P : Json → Prop} (h : IsMapOf P j) (h_P : ∀ v, P v → P v.canonical) :
    IsMapOf P j.canonical := by
  obtain ⟨es, rfl, h_es⟩ := h
  rw [canonical_object]
  refine ⟨_, rfl, fun e h_e => ?_⟩
  obtain ⟨e', h_e', rfl⟩ := List.mem_map.1 (Dict.mem_of_mem_ofList h_e)
  exact h_P _ (h_es e' h_e')

theorem FieldForm.canonical (h : FieldForm A j) (h_keys : j.KeysDistinct) :
    FieldForm A j.canonical := by
  cases h with
  | text kind least greatest =>
    rw [canonical_object]
    exact .text (tag_sorted h_keys kind) (has_sorted h_keys least fun _ _ => isNumber_canonical)
      (has_sorted h_keys greatest fun _ _ => isNumber_canonical)
  | number kind least greatest =>
    rw [canonical_object]
    exact .number (tag_sorted h_keys kind) (has_sorted h_keys least fun _ _ => isNumber_canonical)
      (has_sorted h_keys greatest fun _ _ => isNumber_canonical)
  | date kind least greatest format =>
    rw [canonical_object]
    exact .date (tag_sorted h_keys kind) (has_sorted h_keys least fun _ _ => isText_canonical)
      (has_sorted h_keys greatest fun _ _ => isText_canonical)
      (mayHave_sorted h_keys format fun _ _ h_v => orNull_canonical h_v isText_canonical)
  | choice kind values =>
    rw [canonical_object]
    exact .choice (tag_sorted h_keys kind) (has_sorted h_keys values fun _ h_distinct h_v =>
      isListOf_canonical h_v h_distinct fun _ _ => isText_canonical)
  | pattern kind expression maxRepeat =>
    rw [canonical_object]
    exact .pattern (tag_sorted h_keys kind)
      (has_sorted h_keys expression fun _ _ => isText_canonical)
      (mayHave_sorted h_keys maxRepeat fun _ _ h_v => orNull_canonical h_v isNumber_canonical)

theorem MandatoryForm.canonical (h : MandatoryForm j) (h_keys : j.KeysDistinct) :
    MandatoryForm j.canonical := by
  cases h with
  | fixed always =>
    rw [canonical_eq_bool_iff.2 rfl]
    exact .fixed always
  | whenPresent id =>
    rw [canonical_object]
    exact .whenPresent (has_sorted h_keys id fun _ _ => isText_canonical)

theorem ConstraintForm.canonical (h : ConstraintForm A Part j) (h_keys : j.KeysDistinct)
    (h_part : ∀ x, x.KeysDistinct → Part x → Part' x.canonical) :
    ConstraintForm A Part' j.canonical := by
  obtain ⟨id, charset, kind⟩ := h
  rw [canonical_object]
  refine .mk (mayHave_sorted h_keys id fun _ _ h_v => orNull_canonical h_v isText_canonical)
    (mayHave_sorted h_keys charset fun _ _ h_v => orNull_canonical h_v isText_canonical) ?_
  cases kind with
  | constant type value =>
    exact .constant (tag_sorted h_keys type) (has_sorted h_keys value fun _ _ => isText_canonical)
  | field type field =>
    exact .field (tag_sorted h_keys type)
      (has_sorted h_keys field fun _ h_distinct h_v => h_v.canonical h_distinct)
  | combined type parts separator =>
    exact .combined (tag_sorted h_keys type) (has_sorted h_keys parts fun _ h_distinct h_v =>
      isListOf_canonical h_v h_distinct h_part)
      (mayHave_sorted h_keys separator fun _ _ => isText_canonical)
  | optional type child mandatory =>
    exact .optional (tag_sorted h_keys type) (has_sorted h_keys child h_part)
      (mayHave_sorted h_keys mandatory fun _ h_distinct h_v => h_v.canonical h_distinct)
  | source type child =>
    exact .source (tag_sorted h_keys type) (has_sorted h_keys child h_part)

theorem ChildForm.canonical (h : ChildForm A j) (h_keys : j.KeysDistinct) :
    ChildForm A j.canonical := by
  induction h with
  | reference id => exact .reference id
  | embedded parts constraint ih =>
    exact .embedded (fun _ h_x => h_x) (constraint.canonical h_keys fun x h_x h_part => ih x h_part h_x)

theorem ConfigForm.canonical (h : ConfigForm A j) (h_keys : j.KeysDistinct) :
    ConfigForm A j.canonical := by
  obtain ⟨version, seed, charsets, constraints⟩ := h
  rw [canonical_object]
  refine .mk (has_sorted h_keys version fun _ _ => isText_canonical)
    (mayHave_sorted h_keys seed fun _ _ h_v => orNull_canonical h_v isNumber_canonical)
    (mayHave_sorted h_keys charsets fun _ _ h_v => isMapOf_canonical h_v fun _ => isText_canonical)
    (has_sorted h_keys constraints fun _ h_distinct h_v => isListOf_canonical h_v h_distinct
      fun _ h_distinct h_x => h_x.canonical h_distinct fun _ h_distinct h_y =>
        h_y.canonical h_distinct)

end Canonical

end Config

end Specimen
