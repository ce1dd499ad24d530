import Specimen.Proofs.Config.Written
import Specimen.Proofs.Json.Arrangement

/-!
# Reading what has been written

Whatever is written for a configuration is read back as that configuration, whatever the order of
the entries (`ofJson_of_arranges`). Parts are read with fuel: as far as it goes, a part is restored
if its own parts are (`constraint_restored`), and that carries the induction
(`childWithin_restores`).
-/

namespace Specimen.Config

open Json Reader

variable {origin : Origin} {n : Nat} {j : Json} {es : List (String × Json)}

/-! ### Numbers -/

theorem restores_string : Reader.string.Restores origin .string n := restores_text

theorem restores_unsigned {expected : String} : ((integer expected 0 0xffff_ffff_ffff_ffff).map
    fun i => UInt64.ofNat i.toNat).Restores origin word64ToJson n := by
  refine restores_integer (fun n => Int.natCast_nonneg _) (fun n => ?_) fun n => ?_
  · have h_lt := n.toNat_lt
    omega
  · rw [Int.toNat_natCast, UInt64.ofNat_toNat]

theorem restores_size : Reader.size.Restores origin word64ToJson n := restores_unsigned

theorem restores_word64 : Reader.word64.Restores origin word64ToJson n := restores_unsigned

theorem restores_word32 : Reader.word32.Restores origin (fun n : UInt32 => .nat n.toNat) n := by
  refine restores_integer (fun n => Int.natCast_nonneg _) (fun n => ?_) fun n => ?_
  · have h_lt := n.toNat_lt
    omega
  · rw [Int.toNat_natCast, UInt32.ofNat_toNat]

theorem restores_int64 : Reader.int64.Restores origin (fun n : Int64 => .int n.toInt) n :=
  restores_integer (fun n => n.le_toInt) (fun n => Int.le_of_lt_add_one n.toInt_lt)
    fun n => Int64.ofInt_toInt n

/-! ### Fields and rules -/

theorem FieldSpec.restores : FieldSpec.reader.Restores origin FieldSpec.toJson n := by
  intro spec j h_depth h
  have h_depth := Nat.le_of_lt h_depth
  cases spec with
  | text least greatest =>
    obtain ⟨es, rfl, h_keys, h_carries⟩ := h.object h_depth
    rw [read?_text h_keys (h_carries "kind").eq_string,
      restores_size.required (h_carries "min_len"), restores_size.required (h_carries "max_len")]
    rfl
  | number least greatest =>
    obtain ⟨es, rfl, h_keys, h_carries⟩ := h.object h_depth
    rw [read?_number h_keys (h_carries "kind").eq_string,
      restores_int64.required (h_carries "min"), restores_int64.required (h_carries "max")]
    rfl
  | date least greatest format =>
    obtain ⟨es, rfl, h_keys, h_carries⟩ := h.object h_depth
    -- the format stands there if there is one
    have h_format : Carries n es "format" (format.map .string) :=
      @lookup_optionalEntry _ "format" Json.string format ▸ h_carries "format"
    rw [read?_date h_keys (h_carries "kind").eq_string,
      restores_string.required (h_carries "min"), restores_string.required (h_carries "max"),
      restores_string.orNull (fun _ => nofun) h_format]
    cases format <;> rfl
  | choice values =>
    obtain ⟨es, rfl, h_keys, h_carries⟩ := h.object h_depth
    rw [read?_choice h_keys (h_carries "kind").eq_string,
      restores_string.list.required (h_carries "values")]
    rfl
  | pattern expression maxRepeat =>
    obtain ⟨es, rfl, h_keys, h_carries⟩ := h.object h_depth
    have h_maxRepeat : Carries n es "max_repeat" (maxRepeat.map fun n : UInt32 => .nat n.toNat) :=
      @lookup_optionalEntry _ "max_repeat" _ maxRepeat ▸ h_carries "max_repeat"
    rw [read?_pattern h_keys (h_carries "kind").eq_string,
      restores_string.required (h_carries "pattern"),
      restores_word32.orNull (fun _ => nofun) h_maxRepeat]
    cases maxRepeat <;> rfl

theorem Mandatory.restores : Mandatory.reader.Restores origin Mandatory.toJson n := by
  intro rule j h_depth h
  cases rule with
  | fixed always =>
    rw [h.eq_bool]
    rfl
  | whenPresent id =>
    obtain ⟨es, rfl, h_keys, h_carries⟩ := h.object (Nat.le_of_lt h_depth)
    rw [Mandatory.read?_object h_keys, restores_string.required (h_carries "when_present")]
    rfl

/-! ### Constraints -/

theorem carries_kindEntries {k : String} {model : Option Json} (h_id : k ≠ "id")
    (h_charset : k ≠ "charset") (h : Carries n es k model) : Carries n (kindEntries es) k model := by
  rwa [Carries, lookup_kindEntries h_id h_charset]

section Parts

variable {child : Reader Child} (h_child : child.Restores .fragment Child.toJson n)

include h_child

/-- A kind is restored from entries that carry what has been written, if parts are. -/
theorem kind_restored {kind : Kind} (h_keys : (es.map (·.1)).Nodup)
    (h_carries : ∀ k, k ≠ "id" → k ≠ "charset" → Carries n es k (kind.entries.lookup k)) :
    ((kindTagged child).ofEntries origin es).toOption = some kind := by
  -- the tag is a text, which is the same in every arrangement, and says which record is read
  have h_type := h_carries "type" (by decide) (by decide)
  cases kind with
  | constant value =>
    rw [Kind.entries] at h_carries h_type
    rw [read?_constant h_keys h_type.eq_string,
      restores_string.required (h_carries "value" (by decide) (by decide))]
    rfl
  | field field =>
    rw [Kind.entries] at h_carries h_type
    rw [read?_field h_keys h_type.eq_string,
      FieldSpec.restores.required (h_carries "field" (by decide) (by decide))]
    rfl
  | combined parts separator =>
    -- a separator that has been left out is read as the empty one
    obtain ⟨written, h_written, h_lookup⟩ := Kind.lookup_separator parts separator
    have h_separator := h_carries "separator" (by decide) (by decide)
    rw [h_lookup] at h_separator
    rw [Kind.entries, Child.listToJson_eq_map] at h_carries h_type
    rw [read?_combined h_keys h_type.eq_string,
      h_child.list.required (h_carries "parts" (by decide) (by decide)),
      restores_string.optional h_separator, ← h_written]
    rfl
  | optional c mandatory =>
    rw [Kind.entries] at h_carries h_type
    have h_rule : Carries n es "mandatory" ((some mandatory).map Mandatory.toJson) :=
      h_carries "mandatory" (by decide) (by decide)
    rw [read?_optional h_keys h_type.eq_string,
      h_child.required (h_carries "child" (by decide) (by decide)),
      Mandatory.restores.optional h_rule]
    rfl
  | source c =>
    rw [Kind.entries] at h_carries h_type
    rw [read?_source h_keys h_type.eq_string,
      h_child.required (h_carries "child" (by decide) (by decide))]
    rfl

/-- A constraint is restored if its parts are. -/
theorem constraint_restored {x : Constraint} (h_depth : j.depth ≤ n) (h : j.Arranges x.toJson) :
    (constraintOfJson child origin j).toOption = some x := by
  obtain ⟨id, charset, kind⟩ := x
  rw [Constraint.toJson_mk] at h
  obtain ⟨es, rfl, h_keys, h_carries⟩ := h.object h_depth
  have h_id : Carries n es "id" (id.map .string) :=
    lookup_writtenEntries_id ▸ h_carries "id"
  have h_charset : Carries n es "charset" (charset.map .string) :=
    lookup_writtenEntries_charset ▸ h_carries "charset"
  -- beside the id and the character set stand the entries of the kind
  have h_kind : ((kindTagged child).ofEntries .fragment (kindEntries es)).toOption = some kind := by
    refine kind_restored h_child (nodup_kindEntries h_keys) fun k h_k h_k' => ?_
    have h_carries := h_carries k
    rw [lookup_writtenEntries_of_ne h_k h_k'] at h_carries
    exact carries_kindEntries h_k h_k' h_carries
  rw [read?_constraint h_keys, restores_string.orNull (fun _ => nofun) h_id,
    restores_string.orNull (fun _ => nofun) h_charset, h_kind]
  cases id <;> cases charset <;> rfl

end Parts

/-- A constraint has another key than a reference. -/
theorem exists_type_of_arranges {x : Constraint} {es : List (String × Json)}
    (h : (Json.object es).Arranges x.toJson) : ∃ e ∈ es, e.1 ≠ "ref" := by
  obtain ⟨id, charset, kind⟩ := x
  rw [Constraint.toJson_mk] at h
  obtain ⟨_, ⟨⟩, -, h_carries⟩ := h.object (Nat.le_refl _)
  have h_type := h_carries "type"
  rw [lookup_writtenEntries_of_ne (by decide) (by decide)] at h_type
  obtain ⟨name, h_name⟩ : ∃ name, kind.entries.lookup "type" = some (.string name) := by
    cases kind <;> exact ⟨_, by rw [Kind.entries]; rfl⟩
  rw [h_name] at h_type
  exact ⟨_, Dict.mem_of_lookup h_type.eq_string, show "type" ≠ "ref" by decide⟩

/-- Only a reference arranges a reference. -/
theorem eq_reference_of_arranges {id : String}
    (h : j.Arranges (.object [("ref", .string id)])) : j = .object [("ref", .string id)] := by
  obtain ⟨es, rfl, h_keys, h_carries⟩ := h.object (Nat.le_refl _)
  have h_all : ∀ e ∈ es, e = ("ref", .string id) := by
    rintro ⟨k, v⟩ h_e
    have h_v : es.lookup k = some v := Dict.lookup_of_mem h_keys h_e
    have h_k := h_carries k
    by_cases h_ref : k = "ref"
    · subst h_ref
      have h_string : es.lookup "ref" = some (.string id) := h_k.eq_string
      rw [Option.some.inj (h_v.symm.trans h_string)]
    · have h_none : List.lookup k [("ref", Json.string id)] = none :=
        List.lookup_eq_none_iff.2 (List.forall_mem_singleton.2 (by simpa using h_ref))
      rw [h_none, carries_none_iff, h_v] at h_k
      cases h_k
  have h_ref : es.lookup "ref" = some (.string id) := (h_carries "ref").eq_string
  -- the key stands there once
  rcases es with _ | ⟨e, _ | ⟨e', es⟩⟩
  · cases h_ref
  · rw [h_all e List.mem_cons_self]
  · have h_same : e.1 = e'.1 := by
      rw [h_all e List.mem_cons_self, h_all e' (List.mem_cons_of_mem _ List.mem_cons_self)]
    exact absurd (List.mem_cons.2 (.inl h_same)) (List.nodup_cons.1 h_keys).1

/-- **Parts** are restored as far as the fuel goes. -/
theorem childWithin_restores (fuel : Nat) :
    (Reader.whole fun _ => childWithin fuel).Restores origin Child.toJson fuel := by
  induction fuel generalizing origin with
  | zero => exact fun _ _ h_depth => absurd h_depth (Nat.not_lt_zero _)
  | succ fuel ih =>
    intro c j h_depth h
    show (childWithin (fuel + 1) j).toOption = some c
    cases c with
    | reference id =>
      rw [Child.toJson] at h
      rw [eq_reference_of_arranges h, childWithin_reference]
      rfl
    | embedded x =>
      rw [Child.toJson] at h
      obtain ⟨es, rfl⟩ : ∃ es, j = .object es := by
        obtain ⟨id, charset, kind⟩ := x
        rw [Constraint.toJson_mk] at h
        exact exists_object_of_canonical_eq h.same
      -- a constraint has a type, and so is not taken for a reference
      obtain ⟨e, h_e, h_ne⟩ := exists_type_of_arranges h
      rw [toOption_childWithin fuel h_e h_ne,
        constraint_restored ih (Nat.le_of_lt_succ h_depth) h]
      rfl

theorem Child.restores : Child.reader.Restores origin Child.toJson n := by
  intro c j _ h
  have h_part : (Reader.whole fun _ => childWithin (j.depth + 1)).Restores origin Child.toJson _ :=
    childWithin_restores (j.depth + 1)
  exact h_part c j (Nat.lt_succ_self _) h

theorem Constraint.restores : Constraint.reader.Restores origin Constraint.toJson n :=
  fun _ _ h_depth h => constraint_restored Child.restores (Nat.le_of_lt h_depth) h

/-! ### Whole configurations -/

/-- **What has been written is read back**, whatever the order of the entries. -/
theorem ofJson_of_arranges {c : Config} (h : j.Arranges c.toJson) : ofJson j = .ok c := by
  rw [toJson_eq] at h
  obtain ⟨es, rfl, h_keys, h_carries⟩ := h.object (Nat.le_refl _)
  have h_version := h_carries "config_version"
  have h_seed := h_carries "seed"
  have h_charsets := h_carries "charsets"
  have h_constraints := h_carries "constraints"
  rw [lookup_version] at h_version
  rw [lookup_seed] at h_seed
  rw [lookup_charsets] at h_charsets
  rw [lookup_constraints] at h_constraints
  refine toOption_eq_some_iff.1 ?_
  rw [read?_config h_keys, restores_string.required h_version,
    restores_word64.orNull (fun _ => nofun) h_seed, restores_string.dict.optional h_charsets,
    Constraint.restores.list.required h_constraints]
  have h_join : (c.seed.map some).join = c.seed := by cases c.seed <;> rfl
  simp only [Option.bind_some, Option.map_some, writtenCharsets_getD, h_join]

end Specimen.Config
