import Specimen.Proofs.Config.Mentions
import Specimen.Proofs.Config.Written
import Specimen.Proofs.Json.Locating

/-!
# What the paths of issues lead to

The path of an issue is put together as the survey goes down into the constraints, and it is meant
to be read as a pointer into the configuration as it is written. What carries the argument is that
all mentions stand where they say (`mentions_located`): by the induction over parts, since one step
of the survey is one step, or two, of a pointer.

* `check_located`: the paths of all issues of the check lead to what they are about, only those of
  unusable character sets need not. Their ids become a step as they are, and that leads to the set
  exactly if the id has neither a slash nor a tilde.
* `slashedSet_not_located`: a set whose id has a slash, which leads nowhere.
-/

namespace Specimen.Config

open Json

variable {c : Config} {j : Json} {path : String}

/-! ### Mentions -/

/-- A mention stands in a document at its path. -/
def Mention.Located (j : Json) : Mention → Prop
  | .unnamed path _ => ∃ part, j.Leads path part
  | .constraint path _ id charset kind => j.Leads path (Constraint.mk id charset kind).toJson
  | .reference path _ id => j.Leads path (.object [("ref", .string id)]) ∨
      j.Leads path (.object [("when_present", .string id)])

section Constraints

variable {id charset : Option String} {kind : Kind} {step : String} {v : Json}

/-- The entries of its kind stand among those of a constraint. -/
theorem leads_kindEntry (key : String) (h : j.Leads path (Constraint.mk id charset kind).toJson)
    (h_v : kind.entries.lookup key = some v) (h_step : Pointer.text [key] = step) :
    j.Leads (path ++ step) v := by
  rw [Constraint.toJson_mk] at h
  refine h.entry key ?_ h_step
  rw [lookup_writtenEntries_of_ne ?_ ?_, h_v]
  · rintro rfl
    rw [Kind.lookup_entries_eq_none (.inl rfl)] at h_v
    cases h_v
  · rintro rfl
    rw [Kind.lookup_entries_eq_none (.inr rfl)] at h_v
    cases h_v

theorem leads_id {id : String}
    (h : j.Leads path (Constraint.mk (some id) charset kind).toJson) :
    j.Leads (path ++ "/id") (.string id) := by
  rw [Constraint.toJson_mk] at h
  exact h.entry "id" lookup_writtenEntries_id (by decide)

theorem leads_charset {charset : String}
    (h : j.Leads path (Constraint.mk id (some charset) kind).toJson) :
    j.Leads (path ++ "/charset") (.string charset) := by
  rw [Constraint.toJson_mk] at h
  exact h.entry "charset" lookup_writtenEntries_charset (by decide)

/-- A part stands where the survey looks for it. -/
theorem leads_part {child : Child} {i : Nat}
    (h : j.Leads path (Constraint.mk id charset kind).toJson)
    (h_i : kind.children[i]? = some child) : j.Leads (kind.partPath path i) child.toJson := by
  -- a single part stands at position zero
  have h_single : ∀ only : Child, [only][i]? = some child → only = child := by
    intro only h_only
    exact (List.mem_singleton.1 (List.mem_of_getElem? h_only)).symm
  cases kind with
  | constant _ | field _ => simp [Kind.children] at h_i
  | combined parts separator =>
    have h_parts : j.Leads (path ++ "/parts") (.array (parts.map Child.toJson)) :=
      leads_kindEntry "parts" h (by rw [Kind.entries, Child.listToJson_eq_map]; rfl) (by decide)
    have h_child : (parts.map Child.toJson)[i]? = some child.toJson := by
      rw [List.getElem?_map]
      exact congrArg _ h_i
    have h_text : "/parts/" = "/parts" ++ "/" := by decide
    rw [Kind.partPath, h_text, String.append_assoc, String.append_assoc, ← String.append_assoc]
    exact h_parts.item h_child
  | optional only rule =>
    obtain rfl := h_single only h_i
    exact leads_kindEntry "child" h (by rw [Kind.entries]; rfl) (by decide)
  | source only =>
    obtain rfl := h_single only h_i
    exact leads_kindEntry "child" h (by rw [Kind.entries]; rfl) (by decide)

/-- The id of a rule stands under its key. -/
theorem leads_rule {named : String} (h : j.Leads path (Constraint.mk id charset kind).toJson)
    (h_rule : kind.ruleId? = some named) :
    j.Leads (path ++ "/mandatory") (.object [("when_present", .string named)]) := by
  obtain ⟨child, rfl⟩ : ∃ child, kind = .optional child (.whenPresent named) := by
    unfold Kind.ruleId? at h_rule
    split at h_rule
    · cases h_rule
      exact ⟨_, rfl⟩
    · cases h_rule
  exact leads_kindEntry "mandatory" h (by rw [Kind.entries]; rfl) (by decide)

end Constraints

/-- **Mentions stand where they say**, from a constraint down. -/
theorem Constraint.mentions_located (x : Constraint) :
    ∀ {path : String} {owner : Option String}, j.Leads path x.toJson →
      ∀ m ∈ x.mentions path owner, m.Located j := by
  induction x using Constraint.partInduction with
  | h x ih =>
    intro path owner h m h_m
    obtain ⟨id, charset, kind⟩ := x
    rcases Constraint.mem_mentions.1 h_m with
      rfl | ⟨named, h_named, rfl⟩ | ⟨i, child, h_i, h_part⟩
    · exact h
    · exact .inr (leads_rule h h_named)
    · have h_child := leads_part h h_i
      cases child with
      | reference id =>
        rw [Child.mentions, List.mem_singleton] at h_part
        subst h_part
        exact .inl (by rwa [Child.toJson] at h_child)
      | embedded y =>
        rw [Child.mentions] at h_part
        rw [Child.toJson] at h_child
        exact ih y (List.mem_of_getElem? h_i) h_child m h_part

theorem leads_constraints (c : Config) :
    c.toJson.Leads "/constraints" (.array (c.constraints.map Constraint.toJson)) := by
  have h_whole := leads_whole c.toJson
  rw [toJson_eq] at h_whole ⊢
  rw [← @String.empty_append "/constraints"]
  exact h_whole.entry "constraints" (lookup_constraints c) (by decide)

/-- **Mentions stand where they say**, in a whole configuration. -/
theorem mentions_located (c : Config) : ∀ m ∈ c.mentions, m.Located c.toJson := by
  intro m h_m
  obtain ⟨i, x, h_x, h⟩ := (mem_topMentions c.constraints 0).1 h_m
  rw [Nat.zero_add] at h
  have h_item : (c.constraints.map Constraint.toJson)[i]? = some x.toJson := by
    rw [List.getElem?_map, h_x]
    rfl
  have h_text : "/constraints/" = "/constraints" ++ "/" := by decide
  have h_top := (leads_constraints c).item h_item
  rw [← String.append_assoc, ← h_text] at h_top
  rcases h with ⟨-, rfl⟩ | h
  · exact ⟨_, h_top⟩
  · exact x.mentions_located h_top m h

/-! ### Unusable character sets -/

/-- The path of the issue of a character set is the text of the pointer to the set exactly when the
id needs no escape. -/
theorem parse_charset_iff {id : String} : Pointer.parse ("/charsets/" ++ id) =
    some ["charsets", id] ↔ Pointer.Unescaped id := by
  have h_text : "/charsets/" = Pointer.text ["charsets"] ++ "/" := by decide
  have h_split : Pointer.text ["charsets", id] = Pointer.text ["charsets"] ++ Pointer.text [id] :=
    Pointer.text_append ["charsets"] [id]
  rw [Pointer.parse_eq_some_iff, h_text, h_split, String.append_assoc, String.append_right_inj,
    Pointer.text_eq_iff_unescaped]

theorem at?_charsets (c : Config) (p : Pointer) : c.toJson.at? ("charsets" :: p) =
    (c.writtenCharsets.map charsetsToJson).bind (·.at? p) := by
  rw [toJson_eq, Json.at?, lookup_charsets]

theorem at?_charset (d : Dict String) (id : String) (p : Pointer) :
    (charsetsToJson d).at? (id :: p) = ((d.get? id).map Json.string).bind (·.at? p) := by
  rw [charsetsToJson, Json.at?, ← Dict.get?, Dict.get?_map]

/-- A path without an escape leads to the characters of the set. -/
theorem leads_charset_of_unescaped {id chars : String} (h : c.charsets.get? id = some chars)
    (h_id : Pointer.Unescaped id) : c.toJson.Leads ("/charsets/" ++ id) (.string chars) := by
  have h_written : c.writtenCharsets = some c.charsets := by
    rw [writtenCharsets, if_neg]
    intro h_empty
    rw [Dict.get?, List.isEmpty_iff.1 h_empty] at h
    cases h
  show (Pointer.parse ("/charsets/" ++ id)).bind c.toJson.at? = _
  rw [parse_charset_iff.2 h_id, Option.bind_some, at?_charsets, h_written,
    Option.map_some, Option.bind_some, at?_charset, h]
  rfl

/-- A path with one more slash leads nowhere, since there are only texts below the sets. -/
theorem find?_charset_of_slash {id : String} (h : '/' ∈ id.toList) :
    c.toJson.find? ("/charsets/" ++ id) = none := by
  have h_prefix : "/charsets/".toList = ['/', 'c', 'h', 'a', 'r', 's', 'e', 't', 's', '/'] := by
    decide
  have h_parse : Pointer.parse ("/charsets/" ++ id) =
      (Pointer.readStep [] id.toList).map ("charsets" :: ·) := by
    rw [Pointer.parse, String.toList_append, h_prefix]
    rfl
  rw [find?, h_parse]
  cases h_read : Pointer.readStep [] id.toList with
  | none => rfl
  | some q =>
    have h_length := Pointer.length_of_readStep h_read
    have h_count := List.count_pos_iff.2 h
    obtain _ | ⟨k, _ | ⟨l, rest⟩⟩ := q
    · rw [List.length_nil] at h_length
      omega
    · rw [List.length_singleton] at h_length
      omega
    · rw [Option.map_some, Option.bind_some, at?_charsets]
      cases c.writtenCharsets with
      | none => rfl
      | some d =>
        rw [Option.map_some, Option.bind_some, at?_charset]
        cases d.get? k <;> rfl

/-! ### Issues -/

/-- The codes of issues whose message quotes what stands at the path. -/
def quotingCodes : List String :=
  ["invalid_id", "duplicate_id", "unknown_charset", "unknown_reference", "invalid_charset"]

/-- The path of an issue leads to what the issue is about. -/
inductive Issue.Located (c : Config) : Issue → Prop
  | invalidId {path id : String} (h : c.toJson.find? path = some (.string id)) :
    Located c (.plain "invalid_id" path ("id '" ++ id ++ "' contains unsupported characters"))
  /-- Both declarations have the id. -/
  | duplicateId {path first id : String} (h : c.toJson.find? path = some (.string id))
      (h_first : c.toJson.find? (first ++ "/id") = some (.string id)) :
    Located c (.plain "duplicate_id" path ("id '" ++ id ++ "' is already declared at " ++ first))
  | unknownCharset {path charset hint : String}
      (h : c.toJson.find? path = some (.string charset)) :
    Located c ⟨"unknown_charset", path, "character set '" ++ charset ++ "' is not defined",
      some hint⟩
  | unknownReference {path id hint : String}
      (h : c.toJson.find? path = some (.object [("ref", .string id)]) ∨
        c.toJson.find? path = some (.object [("when_present", .string id)])) :
    Located c ⟨"unknown_reference", path, "reference to undeclared id '" ++ id ++ "'", some hint⟩
  /-- The id of the set is put into the path as it is. -/
  | invalidCharset {id chars : String} (h_get : c.charsets.get? id = some chars)
      (h_parse : Pointer.parse ("/charsets/" ++ id) = some ["charsets", id] ↔
        '~' ∉ id.toList ∧ '/' ∉ id.toList)
      (h : '~' ∉ id.toList ∧ '/' ∉ id.toList →
        c.toJson.find? ("/charsets/" ++ id) = some (.string chars))
      (h_slash : '/' ∈ id.toList → c.toJson.find? ("/charsets/" ++ id) = none) :
    Located c (.plain "invalid_charset" ("/charsets/" ++ id)
      ("invalid character set '" ++ id ++ "': must contain at least one character"))
  /-- Other issues are about a part as a whole. -/
  | other {code path message : String} {hint : Option String} {part : Json}
      (h_code : code ∉ quotingCodes) (h : c.toJson.find? path = some part) :
    Located c ⟨code, path, message, hint⟩

/-- All of some issues lead to what they are about. -/
abbrev AllLocated (c : Config) (is : List Issue) : Prop := ∀ i ∈ is, i.Located c

theorem AllLocated.nil : AllLocated c [] := fun _ h_i => absurd h_i List.not_mem_nil

theorem AllLocated.singleton {i : Issue} (h : i.Located c) : AllLocated c [i] :=
  List.forall_mem_singleton.2 h

theorem AllLocated.append {is js : List Issue} (h : AllLocated c is) (h' : AllLocated c js) :
    AllLocated c (is ++ js) := List.forall_mem_append.2 ⟨h, h'⟩

theorem versionIssues_located (c : Config) : AllLocated c (versionIssues c.version) := by
  have h : c.toJson.Leads "/config_version" (.string c.version) := by
    have h_whole := leads_whole c.toJson
    rw [toJson_eq] at h_whole ⊢
    rw [← @String.empty_append "/config_version"]
    exact h_whole.entry "config_version" (lookup_version c) (by decide)
  unfold versionIssues
  split
  · exact .nil
  · exact .singleton (.other (by decide) h)

theorem declarationIssues_located (c : Config) : AllLocated c (declarationIssues c.charsets) := by
  intro i h_i
  obtain ⟨⟨id, chars⟩, h_e, h_i⟩ := List.mem_filterMap.1 h_i
  split at h_i
  · cases h_i
  · next fault h_fault =>
    have h_get := Dict.mem_entries_iff.1 h_e
    obtain rfl : fault = .noCharacter id := by
      unfold CharacterSet.ofString? at h_fault
      split at h_fault
      · cases h_fault
      · exact (Except.error.inj h_fault).symm
    obtain rfl := Option.some.inj h_i
    exact .invalidCharset h_get parse_charset_iff (leads_charset_of_unescaped h_get)
      find?_charset_of_slash

theorem charsetIssues_located {declared : Dict String} {charset : Option String}
    (h : ∀ s ∈ charset, c.toJson.Leads (path ++ "/charset") (.string s)) :
    AllLocated c (charsetIssues declared path charset) := by
  unfold charsetIssues
  split
  · exact .nil
  · split
    · exact .nil
    · exact .singleton (.unknownCharset (h _ rfl))

theorem idIssues_located {id : String} {earlier : Option String}
    (h : c.toJson.Leads (path ++ "/id") (.string id))
    (h_earlier : ∀ first ∈ earlier, c.toJson.Leads (first ++ "/id") (.string id)) :
    AllLocated c (idIssues path id earlier) := by
  refine .append ?_ ?_
  · split
    · exact .nil
    · exact .singleton (.invalidId h)
  · split
    · exact .singleton (.duplicateId h (h_earlier _ rfl))
    · exact .nil

theorem referenceIssues_located (c : Config) :
    AllLocated c (referenceIssues c.declarations c.mentions) := by
  intro i h_i
  obtain ⟨⟨id, path⟩, h_mem, h_i⟩ := List.mem_filterMap.1 h_i
  obtain ⟨m, h_m, h_referred⟩ := List.mem_filterMap.1 h_mem
  obtain ⟨owner, rfl⟩ : ∃ owner, m = .reference path owner id := by
    cases m <;> simp_all [Mention.referred?]
  dsimp only at h_i
  split at h_i
  · cases h_i
  · obtain rfl := Option.some.inj h_i
    exact .unknownReference (mentions_located c _ h_m)

theorem cycleIssues_located (c : Config) : AllLocated c (cycleIssues c.dependencies) := by
  unfold cycleIssues
  split
  · exact .nil
  · exact .singleton (.other (by decide) (leads_constraints c))

/-! ### Fields -/

theorem fieldIssue_located {part : Json} {message : String} (h : c.toJson.Leads path part) :
    (fieldIssue path message).Located c :=
  .other (by decide) h

theorem checkedDate_located {part : Json} {text : String} (h : c.toJson.Leads path part) :
    AllLocated c (checkedDate path text).2 := by
  unfold checkedDate
  split
  · exact .nil
  · exact .singleton (fieldIssue_located h)

theorem formatIssues_located {format : Option String}
    (h : ∀ s ∈ format, c.toJson.Leads (path ++ "/format") (.string s)) :
    AllLocated c (formatIssues path format) := by
  unfold formatIssues
  split
  · exact .nil
  · split
    · exact .nil
    · exact .singleton (fieldIssue_located (h _ rfl))

theorem fieldIssues_located {spec : FieldSpec} (h : c.toJson.Leads path spec.toJson) :
    AllLocated c (fieldIssues path spec) := by
  cases spec with
  | text low high | number low high =>
    rw [fieldIssues]
    split
    · exact .nil
    · exact .singleton (fieldIssue_located h)
  | date low high format =>
    rw [fieldIssues]
    have h_low : c.toJson.Leads (path ++ "/min") (.string low) := h.entry "min" rfl (by decide)
    have h_high : c.toJson.Leads (path ++ "/max") (.string high) := h.entry "max" rfl (by decide)
    refine (((checkedDate_located h_low).append (checkedDate_located h_high)).append ?_).append
      (formatIssues_located fun s h_s => ?_)
    · -- the order of the days is looked at only if both can be read
      split
      · split
        · exact .nil
        · exact .singleton (fieldIssue_located h)
      · exact .nil
    · rw [Option.mem_def.1 h_s] at h
      exact h.entry "format" rfl (by decide)
  | choice values =>
    rw [fieldIssues]
    split
    · exact .singleton (fieldIssue_located (h.entry "values" rfl (by decide)))
    · exact .nil
  | pattern expression maxRepeat =>
    rw [fieldIssues]
    split
    · exact .nil
    · exact .singleton (fieldIssue_located (h.entry "pattern" rfl (by decide)))

/-! ### The whole check -/

theorem kindIssues_located {id charset : Option String} {kind : Kind}
    (h : c.toJson.Leads path (Constraint.mk id charset kind).toJson) :
    AllLocated c (kind.issues path) := by
  unfold Kind.issues
  split
  · exact fieldIssues_located (leads_kindEntry "field" h (by rw [Kind.entries]; rfl) (by decide))
  · have h_parts : c.toJson.Leads (path ++ "/parts") (.array (Child.listToJson [])) :=
      leads_kindEntry "parts" h (by rw [Kind.entries]; rfl) (by decide)
    exact .singleton (.other (by decide) h_parts)
  · exact .nil

/-- Issues of mentions lead to what they are about, if the mentions stand where they say and so do
the declarations before them. -/
theorem mentionIssues_located {charsets : Dict String} {ms : List Mention} {seen : Dict String}
    (h : ∀ m ∈ ms, m.Located c.toJson)
    (h_seen : ∀ id first, seen.get? id = some first →
      c.toJson.Leads (first ++ "/id") (.string id)) :
    AllLocated c (mentionIssues charsets seen ms) := by
  induction ms generalizing seen with
  | nil => exact .nil
  | cons m ms ih =>
    obtain ⟨h_m, h_ms⟩ := List.forall_mem_cons.1 h
    cases m with
    | unnamed path kindName =>
      obtain ⟨part, h_part⟩ := h_m
      exact List.forall_mem_cons.2 ⟨.other (by decide) h_part, ih h_ms h_seen⟩
    | reference path owner id => exact ih h_ms h_seen
    | constraint path owner id charset kind =>
      have h_charset : AllLocated c (charsetIssues charsets path charset) :=
        charsetIssues_located fun s h_s => leads_charset (Option.mem_def.1 h_s ▸ h_m)
      have h_own := h_charset.append (kindIssues_located h_m)
      cases id with
      | none => exact h_own.append (ih h_ms h_seen)
      | some id =>
        have h_id := leads_id h_m
        have h_ids := idIssues_located h_id fun first => h_seen id first
        refine (h_ids.append h_own).append (ih h_ms ?_)
        -- a first declaration is added to those before, and another one leaves them as they are
        split
        · exact h_seen
        · intro id' first h_first
          rw [Dict.get?_insert] at h_first
          split at h_first
          · next h_eq =>
            obtain rfl := Option.some.inj h_first
            exact h_eq ▸ h_id
          · exact h_seen id' first h_first

/-- **Issues point at what they are about.** The path of each issue of the check is read as a
pointer into the configuration as it is written, and leads to the id, the character set, the
reference or the rule that the message quotes, or else to the part that is not in order. The path
of an unusable character set does so if and only if its id needs no escape. -/
theorem check_located (c : Config) {i : Issue} (h_i : i ∈ c.check.errors ++ c.check.warnings) :
    i.Located c := by
  rcases List.mem_append.1 h_i with h_error | h_warning
  · rw [check, List.mem_append, List.mem_append, List.mem_append, List.mem_append] at h_error
    rcases h_error with (((h | h) | h) | h) | h
    · exact versionIssues_located c i h
    · exact declarationIssues_located c i h
    · refine mentionIssues_located (mentions_located c) (fun _ _ h_first => ?_) i h
      rw [Dict.get?_empty] at h_first
      cases h_first
    · exact referenceIssues_located c i h
    · exact cycleIssues_located c i h
  · rw [check] at h_warning
    split at h_warning
    · rw [List.mem_singleton.1 h_warning]
      exact .other (by decide) (leads_constraints c)
    · exact absurd h_warning List.not_mem_nil

/-- A part of a part that refers to an id which is not declared. -/
def danglingCopy : Config where
  version := supportedVersion
  seed := none
  charsets := .empty
  constraints := [.mk (some "pair") none (.combined [.embedded (.mk none none (.constant "x")),
    .embedded (.mk none none (.optional (.reference "gone") (.fixed false)))] "-")]

theorem check_located_danglingCopy :
    ⟨"unknown_reference", "/constraints/0/parts/1/child", "reference to undeclared id 'gone'",
      some "declare the referenced constraint with that id"⟩ ∈
        danglingCopy.check.errors ++ danglingCopy.check.warnings ∧
    Issue.Located danglingCopy
      ⟨"unknown_reference", "/constraints/0/parts/1/child", "reference to undeclared id 'gone'",
        some "declare the referenced constraint with that id"⟩ := by
  have h_reported : ⟨"unknown_reference", "/constraints/0/parts/1/child",
      "reference to undeclared id 'gone'",
      some "declare the referenced constraint with that id"⟩ ∈
        danglingCopy.check.errors ++ danglingCopy.check.warnings := by decide +kernel
  exact ⟨h_reported, check_located danglingCopy h_reported⟩

/-- A set without characters whose id has a slash. -/
def slashedSet : Config where
  version := supportedVersion
  seed := none
  charsets := ⟨[("a/b", "")], by decide⟩
  constraints := [.mk (some "a") none (.constant "x")]

/-- **A path that leads nowhere**: the slash of the id is taken for the end of a step. -/
theorem slashedSet_not_located : ∃ i ∈ slashedSet.check.errors,
    i.code = "invalid_charset" ∧ slashedSet.toJson.find? i.path = none := by
  have h_reported : Issue.plain "invalid_charset" "/charsets/a/b"
      "invalid character set 'a/b': must contain at least one character" ∈
        slashedSet.check.errors := by decide +kernel
  have h_slash : '/' ∈ "a/b".toList := by decide
  exact ⟨_, h_reported, rfl, find?_charset_of_slash h_slash⟩

end Specimen.Config
