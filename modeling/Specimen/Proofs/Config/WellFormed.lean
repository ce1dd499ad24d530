import Specimen.Config.Check
import Specimen.Proofs.Config.Cycles

/-!
# Well-formed configurations

What a configuration has to be like is said here without going through its text: by conditions
on the constraints at all places and on the ids that they declare and name. The check reports no
error exactly when the conditions hold (`check_isOk_iff_wellFormed`).

* `FieldSpec.IsFit`, `Kind.IsFit`, `IsIdText` and `Mention.IsSound` are the conditions on fields,
  kinds, ids and mentions; each has a lemma that compares it with the issues.
* `mentionIssues_eq_nil_iff` is the invariant of the walk through the mentions.
-/

namespace Specimen.Config

/-! ### Ids -/

/-- A character that an id may begin with: a letter, a digit or an underscore. -/
def IsIdStart (a : Char) : Prop :=
  ('A' ≤ a ∧ a ≤ 'Z') ∨ ('a' ≤ a ∧ a ≤ 'z') ∨ ('0' ≤ a ∧ a ≤ '9') ∨ a = '_'

/-- A character that an id may go on with. -/
def IsIdRest (a : Char) : Prop := IsIdStart a ∨ a = '.' ∨ a = '-'

/-- A text that may be an id. -/
def IsIdText (id : String) : Prop :=
  ∃ a rest, id.toList = a :: rest ∧ IsIdStart a ∧ ∀ b ∈ rest, IsIdRest b

theorem isIdCharacter_first_iff {a : Char} : isIdCharacter true a = true ↔ IsIdStart a := by
  have h_letter : a.isAlphanum = (decide ('A'.val ≤ a.val ∧ a.val ≤ 'Z'.val) ||
      decide ('a'.val ≤ a.val) && decide (a.val ≤ 'z'.val) ||
        decide ('0'.val ≤ a.val) && decide (a.val ≤ '9'.val)) := rfl
  simp only [isIdCharacter, h_letter, Bool.not_true, Bool.false_and, Bool.or_false, Bool.or_eq_true,
    decide_eq_true_eq, Bool.and_eq_true, IsIdStart, Char.le_def]
  tauto

theorem isIdCharacter_rest_iff {a : Char} : isIdCharacter false a = true ↔ IsIdRest a := by
  rw [IsIdRest, ← isIdCharacter_first_iff]
  simp only [isIdCharacter, Bool.not_true, Bool.false_and, Bool.or_false, Bool.or_eq_true,
    decide_eq_true_eq, Bool.not_false, Bool.true_and]

/-- The check of ids accepts exactly the texts that may be ids. -/
theorem isValidId_iff {id : String} : isValidId id = true ↔ IsIdText id := by
  rw [isValidId, IsIdText]
  cases id.toList with
  | nil => simp
  | cons a rest =>
    rw [Bool.and_eq_true, isIdCharacter_first_iff, List.all_eq_true]
    constructor
    · rintro ⟨h_start, h_rest⟩
      exact ⟨a, rest, rfl, h_start, fun b h_b => isIdCharacter_rest_iff.1 (h_rest b h_b)⟩
    · rintro ⟨b, rest', h_eq, h_start, h_rest⟩
      obtain ⟨rfl, rfl⟩ := List.cons.inj h_eq
      exact ⟨h_start, fun b h_b => isIdCharacter_rest_iff.2 (h_rest b h_b)⟩

theorem idIssues_eq_nil_iff {path id : String} {earlier : Option String} :
    idIssues path id earlier = [] ↔ IsIdText id ∧ earlier = none := by
  rw [← isValidId_iff]
  cases earlier <;> simp [idIssues]

/-! ### Character sets -/

/-- A named character set is built in or declared. -/
def IsKnownCharset (declared : Dict String) (charset : String) : Prop :=
  CharacterSets.isBuiltin charset = true ∨ declared.contains charset = true

theorem charsetIssues_eq_nil_iff {declared : Dict String} {path : String}
    {charset : Option String} : charsetIssues declared path charset = [] ↔
      ∀ id, charset = some id → IsKnownCharset declared id := by
  cases charset with
  | none => simp [charsetIssues]
  | some id => simp [charsetIssues, IsKnownCharset, or_iff_not_imp_left]

theorem ofString?_isOk_iff {id chars : String} :
    (∃ set, CharacterSet.ofString? id chars = .ok set) ↔ chars ≠ "" := by
  have h_dups : chars.toList.eraseDups = [] ↔ chars = "" := by
    rw [← String.toList_eq_nil_iff]
    cases chars.toList with
    | nil => simp
    | cons a rest => simp [List.eraseDups_cons]
  rw [CharacterSet.ofString?]
  split
  · next h => exact iff_of_true ⟨_, rfl⟩ fun h_eq => h (h_dups.2 h_eq)
  · next h =>
    refine iff_of_false (by simp) fun h_ne => h fun h_eq => h_ne (h_dups.1 h_eq)

theorem declarationIssues_eq_nil_iff {declared : Dict String} : declarationIssues declared = [] ↔
    ∀ id chars, declared.get? id = some chars → chars ≠ "" := by
  rw [declarationIssues, List.filterMap_eq_nil_iff]
  constructor
  · intro h id chars h_get
    have h_entry := h (id, chars) (Dict.mem_entries_iff.2 h_get)
    cases h_set : CharacterSet.ofString? id chars with
    | ok set => exact ofString?_isOk_iff.1 ⟨set, h_set⟩
    | error fault => rw [h_set] at h_entry; cases h_entry
  · rintro h ⟨id, chars⟩ h_mem
    obtain ⟨set, h_set⟩ := ofString?_isOk_iff.2 (h id chars (Dict.mem_entries_iff.1 h_mem))
    rw [h_set]

/-! ### Fields and kinds -/

/-- A field has values: its range is not empty, and its texts can be read. -/
def FieldSpec.IsFit : FieldSpec → Prop
  | .text low high => low ≤ high
  | .number low high => low ≤ high
  | .date low high format =>
    (∃ first last, Date.parse low = .ok first ∧ Date.parse high = .ok last ∧
      first.number ≤ last.number) ∧
      ∀ written, format = some written → ∃ f, DateFormat.parse written = some f
  | .choice values => values ≠ []
  | .pattern expression _ => ∃ form, Regex.Form.parse expression = .ok form

theorem formatIssues_eq_nil_iff (path : String) {format : Option String} :
    formatIssues path format = [] ↔
      ∀ written, format = some written → ∃ f, DateFormat.parse written = some f := by
  cases format with
  | none => simp [formatIssues]
  | some written => cases h : DateFormat.parse written <;> simp [formatIssues, h]

/-- **Fields.** A field has no issues exactly when it is fit. -/
theorem fieldIssues_eq_nil_iff {path : String} {spec : FieldSpec} :
    fieldIssues path spec = [] ↔ spec.IsFit := by
  cases spec with
  | text low high => simp [fieldIssues, FieldSpec.IsFit, UInt64.le_iff_toNat_le]
  | number low high => simp [fieldIssues, FieldSpec.IsFit, Int64.le_iff_toInt_le]
  | date low high format =>
    rw [fieldIssues, FieldSpec.IsFit, ← formatIssues_eq_nil_iff path]
    cases h_low : Date.parse low <;> cases h_high : Date.parse high <;>
      simp [checkedDate, h_low, h_high]
  | choice values => cases values <;> simp [fieldIssues, FieldSpec.IsFit]
  | pattern expression _ =>
    cases h : Regex.Form.parse expression <;> simp [fieldIssues, FieldSpec.IsFit, h]

/-- What generates the values of a constraint has something to generate them from. -/
def Kind.IsFit : Kind → Prop
  | .field spec => spec.IsFit
  | .combined parts _ => parts ≠ []
  | _ => True

theorem Kind.issues_eq_nil_iff {path : String} {k : Kind} : k.issues path = [] ↔ k.IsFit := by
  cases k with
  | field spec => rw [Kind.issues, Kind.IsFit, fieldIssues_eq_nil_iff]
  | combined parts _ => cases parts <;> simp [Kind.issues, Kind.IsFit]
  | constant _ | optional _ _ | source _ => simp [Kind.issues, Kind.IsFit]

/-! ### Mentions -/

/-- What is mentioned is right as far as it can be seen without the rest of the text. -/
def Mention.IsSound (charsets : Dict String) : Mention → Prop
  | .unnamed .. => False
  | .constraint _ _ id charset kind =>
    (∀ own, id = some own → IsIdText own) ∧
      (∀ named, charset = some named → IsKnownCharset charsets named) ∧ kind.IsFit
  | .reference .. => True

/-- **The walk through the mentions.** No issue is found on the way exactly when all mentions
are right and no id is declared that was declared before. -/
theorem mentionIssues_eq_nil_iff (charsets : Dict String) (ms : List Mention)
    (seen : Dict String) : mentionIssues charsets seen ms = [] ↔
      (∀ m ∈ ms, m.IsSound charsets) ∧ (ms.filterMap Mention.declaredId?).Nodup ∧
        ∀ id ∈ ms.filterMap Mention.declaredId?, seen.get? id = none := by
  induction ms generalizing seen with
  | nil => simp [mentionIssues]
  | cons m ms ih =>
    rw [List.forall_mem_cons]
    match m with
    | .unnamed _ _ => simp [mentionIssues, Mention.IsSound]
    | .reference path owner id =>
      rw [mentionIssues, ih, List.filterMap_cons_none rfl]
      exact and_congr_left fun _ => (and_iff_right trivial).symm
    | .constraint path owner none charset kind =>
      rw [mentionIssues, List.append_eq_nil_iff, List.append_eq_nil_iff, ih,
        charsetIssues_eq_nil_iff, Kind.issues_eq_nil_iff, List.filterMap_cons_none rfl]
      simp only [Mention.IsSound, reduceCtorEq, false_implies, implies_true, true_and, and_assoc]
    | .constraint path owner (some id) charset kind =>
      have h_own : (Mention.constraint path owner (some id) charset kind).declaredId? = some id :=
        rfl
      rw [mentionIssues, List.append_eq_nil_iff, List.append_eq_nil_iff, List.append_eq_nil_iff, ih,
        idIssues_eq_nil_iff, charsetIssues_eq_nil_iff, Kind.issues_eq_nil_iff,
        List.filterMap_cons_some h_own, List.nodup_cons, List.forall_mem_cons]
      simp only [Mention.IsSound, Option.some.injEq, forall_eq']
      -- if the id is new, it counts as seen from here on
      have h_seen : seen.get? id = none →
          ((∀ id' ∈ ms.filterMap Mention.declaredId?,
              (if (seen.get? id).isSome then seen else seen.insert id path).get? id' = none) ↔
            id ∉ ms.filterMap Mention.declaredId? ∧
              ∀ id' ∈ ms.filterMap Mention.declaredId?, seen.get? id' = none) := by
        intro h_new
        rw [h_new, if_neg (by simp)]
        constructor
        · intro h
          refine ⟨fun h_mem => by simpa using h id h_mem, fun id' h_id' => ?_⟩
          have h_get := h id' h_id'
          rw [Dict.get?_insert] at h_get
          split at h_get
          · cases h_get
          · exact h_get
        · rintro ⟨h_not, h⟩ id' h_id'
          rw [Dict.get?_insert, if_neg (ne_of_mem_of_not_mem h_id' h_not)]
          exact h id' h_id'
      constructor
      · rintro ⟨⟨⟨h_id, h_new⟩, h_charset, h_kind⟩, h_sound, h_nodup, h_rest⟩
        obtain ⟨h_not, h_unseen⟩ := (h_seen h_new).1 h_rest
        exact ⟨⟨⟨h_id, h_charset, h_kind⟩, h_sound⟩, ⟨h_not, h_nodup⟩, h_new, h_unseen⟩
      · rintro ⟨⟨⟨h_id, h_charset, h_kind⟩, h_sound⟩, ⟨h_not, h_nodup⟩, h_new, h_unseen⟩
        exact ⟨⟨⟨h_id, h_new⟩, h_charset, h_kind⟩, h_sound, h_nodup,
          (h_seen h_new).2 ⟨h_not, h_unseen⟩⟩

theorem referenceIssues_eq_nil_iff {declared : Dict String} {ms : List Mention} :
    referenceIssues declared ms = [] ↔
      ∀ id, (∃ path owner, .reference path owner id ∈ ms) → declared.contains id = true := by
  rw [referenceIssues, List.filterMap_eq_nil_iff]
  constructor
  · rintro h id ⟨path, owner, h_m⟩
    have h_entry := h (id, path) (List.mem_filterMap.2 ⟨_, h_m, rfl⟩)
    by_contra h_not
    simp [h_not] at h_entry
  · rintro h ⟨id, path⟩ h_mem
    obtain ⟨_ | _ | ⟨path', owner, id'⟩, h_m, h_eq⟩ := List.mem_filterMap.1 h_mem
    · cases h_eq
    · cases h_eq
    · obtain ⟨rfl, rfl⟩ := Prod.mk.inj (Option.some.inj h_eq)
      simp [h id' ⟨path', owner, h_m⟩]

theorem cycleIssues_eq_nil_iff {d : Dependencies} : cycleIssues d = [] ↔ d.IsAcyclic := by
  rw [← Dependencies.outcome_isOrder_iff, cycleIssues]
  cases d.outcome <;> simp

/-! ### Configurations -/

/-- A configuration that can be used. -/
structure WellFormed (c : Config) : Prop where
  version : c.version = supportedVersion
  charsets : ∀ id chars, c.charsets.get? id = some chars → chars ≠ ""
  top_ids : ∀ x ∈ c.constraints, x.id ≠ none
  valid_ids : ∀ p id, c.Declares p id → IsIdText id
  unique_ids : ∀ p q id, c.Declares p id → c.Declares q id → p = q
  named_ids : ∀ p x id, c.at? p = some x → id ∈ x.named → ∃ q, c.Declares q id
  known_charsets : ∀ p x charset, c.at? p = some x → x.charset = some charset →
    IsKnownCharset c.charsets charset
  kinds : ∀ p x, c.at? p = some x → x.kind.IsFit
  acyclic : ∀ p, ¬ Relation.TransGen c.Leads p p

variable {c : Config}

/-- All mentions are right exactly when the constraints of the top level have ids and what
stands at each place is right. -/
theorem mentions_sound_iff : (∀ m ∈ c.mentions, m.IsSound c.charsets) ↔
    (∀ x ∈ c.constraints, x.id ≠ none) ∧ ∀ p x, c.at? p = some x →
      (∀ id, x.id = some id → IsIdText id) ∧
        (∀ charset, x.charset = some charset → IsKnownCharset c.charsets charset) ∧
          x.kind.IsFit := by
  constructor
  · intro h
    refine ⟨fun x h_x h_id => ?_, fun p x h_x => ?_⟩
    · obtain ⟨path, kindName, h_m⟩ := unnamed_mem_mentions.2 ⟨x, h_x, h_id⟩
      exact h _ h_m
    · obtain ⟨owner, h_stands⟩ := at?_iff_stands.1 h_x
      obtain ⟨path, h_path⟩ := h_stands.mentions
      exact h _ (h_path _ (Constraint.mem_mentions.2 (.inl rfl)))
  · rintro ⟨h_top, h⟩ m h_m
    obtain ⟨x, h_x, -, h_id, -⟩ | ⟨p, owner, x, path, h_x, rfl | ⟨id, -, rfl⟩⟩ :=
      mem_mentions_cases h_m
    · exact absurd h_id (h_top x h_x)
    · exact h p x h_x.at?
    · exact trivial

/-- What is referred to in the mentions is what the constraints name. -/
theorem references_declared_iff : referenceIssues c.declarations c.mentions = [] ↔
    ∀ p x id, c.at? p = some x → id ∈ x.named → ∃ q, c.Declares q id := by
  rw [referenceIssues_eq_nil_iff]
  constructor
  · intro h p x id h_x h_id
    obtain ⟨owner, h_stands⟩ := at?_iff_stands.1 h_x
    obtain ⟨path, h_m⟩ := reference_mem_mentions.2 ⟨p, owner, x, h_stands, rfl, h_id⟩
    exact mem_ids.1 (contains_declarations.1 (h id ⟨path, _, h_m⟩))
  · rintro h id ⟨path, owner, h_m⟩
    obtain ⟨p, owner', x, h_x, -, h_id⟩ := reference_mem_mentions.1 ⟨path, h_m⟩
    exact contains_declarations.2 (mem_ids.2 (h p x id h_x.at? h_id))

/-- What the check looks at: the version, the sets of characters, the mentions one by one, their
ids together, what they refer to, and the dependencies. -/
theorem check_isOk_iff : c.check.isOk = true ↔ c.version = supportedVersion ∧
    (∀ id chars, c.charsets.get? id = some chars → chars ≠ "") ∧
    (∀ m ∈ c.mentions, m.IsSound c.charsets) ∧ c.ids.Nodup ∧
    referenceIssues c.declarations c.mentions = [] ∧ c.dependencies.IsAcyclic := by
  have h_version : versionIssues c.version = [] ↔ c.version = supportedVersion := by
    simp [versionIssues]
  rw [Report.isOk, List.isEmpty_iff, check]
  simp only [List.append_eq_nil_iff, h_version, declarationIssues_eq_nil_iff,
    mentionIssues_eq_nil_iff, declaredIds_mentions, cycleIssues_eq_nil_iff, Dict.get?_empty,
    implies_true, and_true, and_assoc]

/-- What passes the check is well formed. -/
theorem wellFormed_of_isOk (h : c.check.isOk = true) : c.WellFormed := by
  obtain ⟨h_version, h_charsets, h_sound, h_nodup, h_references, h_acyclic⟩ := check_isOk_iff.1 h
  obtain ⟨h_top, h_places⟩ := mentions_sound_iff.1 h_sound
  have h_named := references_declared_iff.1 h_references
  exact {
    version := h_version
    charsets := h_charsets
    top_ids := h_top
    valid_ids := fun p id ⟨x, h_x, h_id⟩ => (h_places p x h_x).1 id h_id
    unique_ids := ids_nodup_iff.1 h_nodup
    named_ids := h_named
    known_charsets := fun p x charset h_x => (h_places p x h_x).2.1 charset
    kinds := fun p x h_x => (h_places p x h_x).2.2
    acyclic := (dependencies_isAcyclic_iff
      (fun x h_x => Option.isSome_iff_ne_none.2 (h_top x h_x)) h_nodup
      fun p x id h_x h_id => mem_ids.2 (h_named p x id h_x h_id)).1 h_acyclic }

/-- **The check is exact.** It reports no error exactly when the configuration is well formed. -/
theorem check_isOk_iff_wellFormed (c : Config) : c.check.isOk = true ↔ c.WellFormed := by
  constructor
  · exact wellFormed_of_isOk
  · intro h
    have h_nodup := ids_nodup_iff.2 h.unique_ids
    refine check_isOk_iff.2 ⟨h.version, h.charsets,
      mentions_sound_iff.2 ⟨h.top_ids, fun p x h_x => ?_⟩, h_nodup,
      references_declared_iff.2 h.named_ids, ?_⟩
    · exact ⟨fun id h_id => h.valid_ids p id ⟨x, h_x, h_id⟩,
        fun charset => h.known_charsets p x charset h_x, h.kinds p x h_x⟩
    · exact (dependencies_isAcyclic_iff
        (fun x h_x => Option.isSome_iff_ne_none.2 (h.top_ids x h_x)) h_nodup
        fun p x id h_x h_id => mem_ids.2 (h.named_ids p x id h_x h_id)).2 h.acyclic

end Specimen.Config
