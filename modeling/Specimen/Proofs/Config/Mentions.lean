import Specimen.Config.Check
import Specimen.Proofs.Config.Place
import Specimen.Proofs.Dependencies.Order

/-!
# Mentions and places

A survey lists what a configuration mentions as it walks through the text. Here its list is
described by places: which constraints it lists with which owners, which ids it lists as
referred to, and which as declared.

* `constraint_mem_mentions`, `reference_mem_mentions`, `unnamed_mem_mentions` describe the three
  kinds of mentions.
* `declaredIds_mentions`: the declared ids are listed in the order of the text, as often as they
  are declared.
* `needs_dependencies`: how the ids depend on each other.
* `dependencies_isAcyclic_iff`: when every id is declared once, no id depends on itself exactly
  when no place leads to itself.
-/

namespace Specimen.Config

/-! ### Mentions of one constraint -/

/-- The path of a part. -/
def Kind.partPath (path : String) (i : Nat) : Kind → String
  | .combined .. => path ++ "/parts/" ++ toString i
  | _ => path ++ "/child"

/-- A constraint with an id has itself for owner of its parts, and any other its own owner. -/
abbrev Constraint.owns (x : Constraint) (owner : Option String) : Option String := x.id.or owner

theorem Child.mem_listMentions {path : String} {owner : Option String} {m : Mention} :
    ∀ (cs : List Child) (n : Nat), m ∈ Child.listMentions path owner n cs ↔
      ∃ (i : Nat) (c : Child), cs[i]? = some c ∧
        m ∈ c.mentions (path ++ "/parts/" ++ toString (n + i)) owner
  | [], n => by simp [Child.listMentions]
  | c :: cs, n => by
    rw [Child.listMentions, List.mem_append, Child.mem_listMentions cs (n + 1)]
    constructor
    · rintro (h | ⟨i, d, h_d, h⟩)
      · exact ⟨0, c, rfl, h⟩
      · exact ⟨i + 1, d, h_d, by rwa [Nat.add_right_comm, Nat.add_assoc] at h⟩
    · rintro ⟨_ | i, d, h_d, h⟩
      · obtain rfl : c = d := by simpa using h_d
        exact .inl h
      · exact .inr ⟨i, d, h_d, by rwa [Nat.add_right_comm, Nat.add_assoc]⟩

/-- **Mentions of a constraint**: itself, the id of its rule, and the mentions of its parts. -/
theorem Constraint.mem_mentions {x : Constraint} {path : String} {owner : Option String}
    {m : Mention} : m ∈ x.mentions path owner ↔
      m = .constraint path owner x.id x.charset x.kind ∨
      (∃ id, x.kind.ruleId? = some id ∧ m = .reference (path ++ "/mandatory") (x.owns owner) id) ∨
      ∃ (i : Nat) (c : Child), x.children[i]? = some c ∧
        m ∈ c.mentions (x.kind.partPath path i) (x.owns owner) := by
  obtain ⟨id, charset, kind⟩ := x
  rw [Constraint.mentions, List.mem_cons]
  refine or_congr Iff.rfl ?_
  -- a single part stands at position zero
  have h_single : ∀ (child : Child) (Q : Child → Prop),
      (∃ (i : Nat) (c : Child), [child][i]? = some c ∧ Q c) ↔ Q child := by
    intro child Q
    constructor
    · rintro ⟨_ | i, c, h_c, h⟩
      · obtain rfl : child = c := by simpa using h_c
        exact h
      · simp at h_c
    · exact fun h => ⟨0, child, rfl, h⟩
  have h_no : ∀ Q : String → Prop, (∃ id, (none : Option String) = some id ∧ Q id) ↔ False := by
    simp
  cases kind with
  | constant _ | field _ =>
    simp [Kind.mentions, Constraint.kind, Kind.ruleId?, Constraint.children, Kind.children]
  | combined parts separator =>
    rw [Kind.mentions, Child.mem_listMentions]
    refine Iff.trans ?_ (or_congr_left (h_no _)).symm
    rw [false_or]
    simp only [Nat.zero_add]
    exact Iff.rfl
  | optional child rule =>
    rw [Kind.mentions, List.mem_append]
    refine or_congr ?_
      (h_single child fun c => m ∈ c.mentions (path ++ "/child") (id.or owner)).symm
    cases rule with
    | fixed _ => exact iff_of_false List.not_mem_nil (h_no _).1
    | whenPresent named =>
      rw [Mandatory.mentions, List.mem_singleton]
      constructor
      · exact fun h => ⟨named, rfl, h⟩
      · rintro ⟨id, h_id, h⟩
        exact Option.some.inj h_id ▸ h
  | source child =>
    rw [Kind.mentions]
    refine Iff.trans ?_ (or_congr_left (h_no _)).symm
    rw [false_or]
    exact (h_single child fun c => m ∈ c.mentions (path ++ "/child") (id.or owner)).symm

/-- What a mention declares does not depend on where it stands. -/
def Mention.declaredId? (m : Mention) : Option String := m.declared?.map (·.1)

mutual

/-- A constraint mentions the declarations in it in the order of the text. -/
theorem Constraint.declaredIds_mentions (path : String) (owner : Option String) :
    ∀ x : Constraint, (x.mentions path owner).filterMap Mention.declaredId? = x.ids
  | .mk id charset kind => by
    rw [Constraint.mentions, Constraint.ids, ← Kind.declaredIds_mentions path (id.or owner) kind]
    cases id with
    | none => rw [List.filterMap_cons_none rfl, Option.toList_none, List.nil_append]
    | some id =>
      have h_own : (Mention.constraint path owner (some id) charset kind).declaredId? = some id :=
        rfl
      rw [List.filterMap_cons_some h_own, Option.toList_some, List.singleton_append]

theorem Kind.declaredIds_mentions (path : String) (owner : Option String) :
    ∀ k : Kind, (k.mentions path owner).filterMap Mention.declaredId? = k.ids
  | .constant _ | .field _ => by simp [Kind.mentions, Kind.ids]
  | .combined parts _ => by
    rw [Kind.mentions, Kind.ids, Child.declaredIds_listMentions path owner 0 parts]
  | .optional child rule => by
    rw [Kind.mentions, Kind.ids, List.filterMap_append,
      Child.declaredIds_mentions (path ++ "/child") owner child]
    cases rule <;> simp [Mandatory.mentions, Mention.declaredId?, Mention.declared?]
  | .source child => by
    rw [Kind.mentions, Kind.ids, Child.declaredIds_mentions (path ++ "/child") owner child]

theorem Child.declaredIds_mentions (path : String) (owner : Option String) :
    ∀ c : Child, (c.mentions path owner).filterMap Mention.declaredId? = c.ids
  | .reference _ => by simp [Child.mentions, Child.ids, Mention.declaredId?, Mention.declared?]
  | .embedded x => by
    rw [Child.mentions, Child.ids, Constraint.declaredIds_mentions path owner x]

theorem Child.declaredIds_listMentions (path : String) (owner : Option String) (n : Nat) :
    ∀ cs : List Child,
      (Child.listMentions path owner n cs).filterMap Mention.declaredId? = Child.listIds cs
  | [] => by simp [Child.listMentions, Child.listIds]
  | c :: cs => by
    rw [Child.listMentions, Child.listIds, List.filterMap_append,
      Child.declaredIds_mentions _ owner c, Child.declaredIds_listMentions path owner (n + 1) cs]

end

/-! ### Mentions of a configuration -/

theorem mem_topMentions {m : Mention} : ∀ (xs : List Constraint) (n : Nat),
    m ∈ topMentions n xs ↔ ∃ (i : Nat) (x : Constraint), xs[i]? = some x ∧
      ((x.id = none ∧ m = .unnamed ("/constraints/" ++ toString (n + i)) x.kind.name) ∨
        m ∈ x.mentions ("/constraints/" ++ toString (n + i)) none)
  | [], n => by simp [topMentions]
  | x :: xs, n => by
    rw [topMentions, List.mem_append, List.mem_append, mem_topMentions xs (n + 1)]
    have h_unnamed : m ∈ (if x.id.isNone then
          [Mention.unnamed ("/constraints/" ++ toString n) x.kind.name] else []) ↔
        x.id = none ∧ m = .unnamed ("/constraints/" ++ toString n) x.kind.name := by
      cases x.id <;> simp
    rw [h_unnamed]
    constructor
    · rintro (h | ⟨i, y, h_y, h⟩)
      · exact ⟨0, x, rfl, h⟩
      · exact ⟨i + 1, y, h_y, by rwa [Nat.add_right_comm, Nat.add_assoc] at h⟩
    · rintro ⟨_ | i, y, h_y, h⟩
      · obtain rfl : x = y := by simpa using h_y
        exact .inl h
      · exact .inr ⟨i, y, h_y, by rwa [Nat.add_right_comm, Nat.add_assoc]⟩

/-- The ids that a constraint names are those of its rule and its references. -/
theorem Constraint.mem_named {x : Constraint} {id : String} :
    id ∈ x.named ↔ x.kind.ruleId? = some id ∨ .reference id ∈ x.children := by
  rw [Constraint.named, List.mem_append, Option.mem_toList, List.mem_filterMap]
  refine or_congr Iff.rfl ?_
  constructor
  · rintro ⟨_ | _, h_c, h⟩
    · exact Option.some.inj h ▸ h_c
    · simp [Child.reference?] at h
  · exact fun h => ⟨_, h, rfl⟩

variable {c : Config}

/-- All that a constraint mentions is mentioned where it stands. -/
theorem Stands.mentions {p : Place} {owner : Option String} {x : Constraint}
    (h : c.Stands p owner x) : ∃ path, ∀ m ∈ x.mentions path owner, m ∈ c.mentions := by
  induction h with
  | @top i x h_x =>
    refine ⟨"/constraints/" ++ toString (0 + i), fun m h_m => ?_⟩
    exact (mem_topMentions c.constraints 0).2 ⟨i, x, h_x, .inr h_m⟩
  | @part p owner x i y h_x h_part ih =>
    obtain ⟨path, h_path⟩ := ih
    refine ⟨x.kind.partPath path i, fun m h_m => h_path m ?_⟩
    refine Constraint.mem_mentions.2 (.inr (.inr ⟨i, _, h_part, ?_⟩))
    rwa [Child.mentions]

/-- **What is mentioned below a place**: constraints that stand there, and ids that they name. -/
theorem Stands.of_mem_mentions {x : Constraint} :
    ∀ {p : Place} {owner : Option String}, c.Stands p owner x → ∀ {path : String} {m : Mention},
      m ∈ x.mentions path owner → ∃ q owner' y path', c.Stands q owner' y ∧
        (m = .constraint path' owner' y.id y.charset y.kind ∨
          ∃ id ∈ y.named, m = .reference path' (y.owns owner') id) := by
  induction x using Constraint.partInduction with
  | h x ih =>
    intro p owner h path m h_m
    rcases Constraint.mem_mentions.1 h_m with h_own | ⟨id, h_id, h_rule⟩ | ⟨i, child, h_i, h_part⟩
    · exact ⟨p, owner, x, path, h, .inl h_own⟩
    · exact ⟨p, owner, x, _, h, .inr ⟨id, Constraint.mem_named.2 (.inl h_id), h_rule⟩⟩
    · cases child with
      | reference id =>
        rw [Child.mentions, List.mem_singleton] at h_part
        have h_ref := Constraint.mem_named.2 (.inr (List.mem_of_getElem? h_i))
        exact ⟨p, owner, x, _, h, .inr ⟨id, h_ref, h_part⟩⟩
      | embedded y =>
        rw [Child.mentions] at h_part
        exact ih y (List.mem_of_getElem? h_i) (h.part h_i) h_part

theorem mem_mentions_cases {m : Mention} (h : m ∈ c.mentions) :
    (∃ x ∈ c.constraints, ∃ path, x.id = none ∧ m = .unnamed path x.kind.name) ∨
      ∃ p owner x path, c.Stands p owner x ∧
        (m = .constraint path owner x.id x.charset x.kind ∨
          ∃ id ∈ x.named, m = .reference path (x.owns owner) id) := by
  obtain ⟨i, x, h_x, ⟨h_id, h_m⟩ | h_m⟩ := (mem_topMentions c.constraints 0).1 h
  · exact .inl ⟨x, List.mem_of_getElem? h_x, _, h_id, h_m⟩
  · exact .inr ((Stands.top h_x).of_mem_mentions h_m)

theorem unnamed_mem_mentions :
    (∃ path kindName, .unnamed path kindName ∈ c.mentions) ↔ ∃ x ∈ c.constraints, x.id = none := by
  constructor
  · rintro ⟨path, kindName, h⟩
    obtain ⟨x, h_x, -, h_id, -⟩ | ⟨_, _, _, _, -, h_m | ⟨_, -, h_m⟩⟩ := mem_mentions_cases h
    · exact ⟨x, h_x, h_id⟩
    · cases h_m
    · cases h_m
  · rintro ⟨x, h_x, h_id⟩
    obtain ⟨i, h_i⟩ := List.getElem?_of_mem h_x
    exact ⟨_, _, (mem_topMentions c.constraints 0).2 ⟨i, x, h_i, .inl ⟨h_id, rfl⟩⟩⟩

theorem constraint_mem_mentions {owner id charset : Option String} {kind : Kind} :
    (∃ path, .constraint path owner id charset kind ∈ c.mentions) ↔
      ∃ p, c.Stands p owner (.mk id charset kind) := by
  constructor
  · rintro ⟨path, h⟩
    obtain ⟨_, -, _, -, h_m⟩ | ⟨p, _, x, _, h_x, h_m | ⟨_, -, h_m⟩⟩ := mem_mentions_cases h
    · cases h_m
    · obtain ⟨id', charset', kind'⟩ := x
      cases h_m
      exact ⟨p, h_x⟩
    · cases h_m
  · rintro ⟨p, h⟩
    obtain ⟨path, h_path⟩ := h.mentions
    exact ⟨path, h_path _ (Constraint.mem_mentions.2 (.inl rfl))⟩

theorem reference_mem_mentions {owner : Option String} {id : String} :
    (∃ path, .reference path owner id ∈ c.mentions) ↔
      ∃ p owner' x, c.Stands p owner' x ∧ x.owns owner' = owner ∧ id ∈ x.named := by
  constructor
  · rintro ⟨path, h⟩
    obtain ⟨_, -, _, -, h_m⟩ | ⟨p, owner', x, _, h_x, h_m | ⟨id', h_id, h_m⟩⟩ :=
      mem_mentions_cases h
    · cases h_m
    · cases h_m
    · cases h_m
      exact ⟨p, owner', x, h_x, rfl, h_id⟩
  · rintro ⟨p, owner', x, h_x, rfl, h_id⟩
    obtain ⟨path, h_path⟩ := h_x.mentions
    rcases Constraint.mem_named.1 h_id with h_rule | h_ref
    · exact ⟨_, h_path _ (Constraint.mem_mentions.2 (.inr (.inl ⟨id, h_rule, rfl⟩)))⟩
    · obtain ⟨i, h_i⟩ := List.getElem?_of_mem h_ref
      refine ⟨x.kind.partPath path i, h_path _ ?_⟩
      refine Constraint.mem_mentions.2 (.inr (.inr ⟨i, _, h_i, ?_⟩))
      rw [Child.mentions, List.mem_singleton]

theorem declaredIds_topMentions : ∀ (xs : List Constraint) (n : Nat),
    (topMentions n xs).filterMap Mention.declaredId? = xs.flatMap Constraint.ids
  | [], n => by rw [topMentions, List.flatMap_nil, List.filterMap_nil]
  | x :: xs, n => by
    have h_unnamed : (if x.id.isNone then
          [Mention.unnamed ("/constraints/" ++ toString n) x.kind.name] else []).filterMap
        Mention.declaredId? = [] := by
      cases x.id <;> simp [Mention.declaredId?, Mention.declared?]
    rw [topMentions, List.filterMap_append, List.filterMap_append, h_unnamed, List.nil_append,
      x.declaredIds_mentions, declaredIds_topMentions xs (n + 1), List.flatMap_cons]

/-- **Declared ids.** The ids that are mentioned as declared are those of the configuration, in
the order of the text. -/
theorem declaredIds_mentions (c : Config) : c.mentions.filterMap Mention.declaredId? = c.ids :=
  declaredIds_topMentions c.constraints 0

/-- The ids of the declarations are those of the configuration. -/
theorem contains_declarations {id : String} : c.declarations.contains id = true ↔ id ∈ c.ids := by
  rw [declarations, Dict.contains_foldl_keep, Dict.contains_empty, ← declaredIds_mentions,
    List.map_filterMap]
  simp only [Bool.false_eq_true, false_or]
  exact Iff.rfl

/-! ### Dependencies between ids -/

/-- A mention makes one id depend on another. -/
def Mention.Adds (id needed : String) : Mention → Prop
  | .constraint _ owner id' _ _ => owner = some id ∧ id' = some needed
  | .reference _ owner id' => owner = some id ∧ id' = needed
  | .unnamed .. => False

theorem Mention.needs_addTo (d : Dependencies) (m : Mention) (id needed : String) :
    (m.addTo d).Needs id needed ↔ d.Needs id needed ∨ m.Adds id needed := by
  cases m with
  | unnamed _ _ => simp [Mention.addTo, Mention.Adds]
  | constraint _ owner id' _ _ =>
    cases owner <;> cases id' <;>
      simp [Mention.addTo, Mention.Adds, Dependencies.needs_addNeed, Dependencies.needs_addId,
        or_comm, eq_comm]
  | reference _ owner id' =>
    cases owner <;>
      simp [Mention.addTo, Mention.Adds, Dependencies.needs_addNeed, or_comm, eq_comm]

theorem needs_foldl_addTo (ms : List Mention) (d : Dependencies) (id needed : String) :
    (ms.foldl Mention.addTo d).Needs id needed ↔
      d.Needs id needed ∨ ∃ m ∈ ms, m.Adds id needed := by
  induction ms generalizing d with
  | nil => simp
  | cons m ms ih =>
    rw [List.foldl_cons, ih, Mention.needs_addTo, or_assoc, List.exists_mem_cons_iff]

/-- **Dependencies.** An id depends on another exactly when it is the nearest id above a
constraint with the other id, or that of a constraint that names the other one. -/
theorem needs_dependencies {id needed : String} : c.dependencies.Needs id needed ↔
    (∃ p x, c.Stands p (some id) x ∧ x.id = some needed) ∨
      ∃ p owner x, c.Stands p owner x ∧ x.owns owner = some id ∧ needed ∈ x.named := by
  rw [dependencies, needs_foldl_addTo, or_iff_right (Dependencies.needs_empty id needed)]
  constructor
  · rintro ⟨_ | ⟨path, owner, id', charset, kind⟩ | ⟨path, owner, id'⟩, h_m, h⟩
    · exact h.elim
    · obtain ⟨rfl, rfl⟩ := h
      obtain ⟨p, h_p⟩ := constraint_mem_mentions.1 ⟨path, h_m⟩
      exact .inl ⟨p, _, h_p, rfl⟩
    · obtain ⟨rfl, rfl⟩ := h
      exact .inr (reference_mem_mentions.1 ⟨path, h_m⟩)
  · rintro (⟨p, ⟨id', charset, kind⟩, h_x, h_id⟩ | h)
    · obtain ⟨path, h_m⟩ := constraint_mem_mentions.2 ⟨p, h_x⟩
      exact ⟨_, h_m, rfl, h_id⟩
    · obtain ⟨path, h_m⟩ := reference_mem_mentions.2 h
      exact ⟨_, h_m, rfl, rfl⟩

end Specimen.Config
