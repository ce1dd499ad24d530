import Specimen.Proofs.Config.WellFormed
import Specimen.Proofs.Graph.Build

/-!
# Valid configurations build

The check of a configuration and the building of its graph are two walks through the same text that
keep different books. Here the second is shown to succeed wherever the first finds no error.

* `Graph.Adds` says which ids a step of building registers, and `Graph.Room` that some ids can still
  be registered.
* `Graph.build_adds` goes along the recursion of the build: a constraint that can be built
  (`Config.Constraint.Buildable`) and whose ids are new is built, and its ids are registered.
* `Graph.buildConfig_of_isOk` puts this together with what is known of the graph that comes out.
-/

namespace Specimen

/-! ### What can be built -/

/-- What a constraint needs apart from its place: its field has values, and the character set that
it names is there. -/
structure Config.Constraint.Buildable (sets : CharacterSets) (x : Config.Constraint) : Prop where
  field : ∀ spec, x.kind = .field spec → ∃ f, Field.ofSpec spec = .ok f
  charset : ∀ id, x.charset = some id → sets.contains id = true

/-- A constraint can be built, and so can all that are embedded in it. -/
def Config.Constraint.BuildableThroughout (sets : CharacterSets) (x : Config.Constraint) : Prop :=
  ∀ p y, x.at? p = some y → y.Buildable sets

/-- A part is a reference, or can be built throughout. -/
def Config.Child.BuildableThroughout (sets : CharacterSets) (c : Config.Child) : Prop :=
  ∀ x, c = .embedded x → x.BuildableThroughout sets

theorem Config.Constraint.BuildableThroughout.own {sets : CharacterSets} {x : Config.Constraint}
    (h : x.BuildableThroughout sets) : x.Buildable sets := h [] x x.at?_nil

theorem Config.Constraint.BuildableThroughout.parts {sets : CharacterSets} {x : Config.Constraint}
    (h : x.BuildableThroughout sets) : ∀ c ∈ x.children, c.BuildableThroughout sets := by
  rintro _ h_c y rfl p z h_z
  obtain ⟨i, h_i⟩ := List.getElem?_of_mem h_c
  exact h (i :: p) z (Config.Constraint.at?_cons.2 ⟨y, h_i, h_z⟩)

/-- The character set that an identity stands for is there. -/
def Identity.IsEquipped (sets : CharacterSets) (i : Identity) : Prop :=
  sets.contains (i.charset.getD CharacterSets.standardId) = true

/-- What names no character set takes that of the identity above it, or the standard one. -/
theorem Graph.identityOf_isEquipped {sets : CharacterSets} {above : Option Identity}
    {id charset : Option String} (h_standard : sets.contains CharacterSets.standardId = true)
    (h_above : ∀ i, above = some i → i.IsEquipped sets)
    (h_charset : ∀ named, charset = some named → sets.contains named = true) :
    (Graph.identityOf above id charset).IsEquipped sets := by
  cases charset with
  | some named => cases above <;> exact h_charset named rfl
  | none =>
    cases above with
    | none => exact h_standard
    | some i => exact h_above i rfl

namespace Graph

/-! ### Registered ids -/

/-- A step of building leaves the character sets alone and registers some ids. -/
structure Adds (g g' : Graph) (ids : List String) : Prop where
  charsets : g'.charsets = g.charsets
  contains : ∀ id, g'.nodes.contains id = true ↔ g.nodes.contains id = true ∨ id ∈ ids

/-- Some ids are different from each other and from those that are registered. -/
structure Room (g : Graph) (ids : List String) : Prop where
  nodup : ids.Nodup
  new : ∀ id ∈ ids, g.nodes.contains id = false

variable {g g' g'' : Graph} {ids ids' : List String}

theorem Adds.refl (g : Graph) : g.Adds g [] := ⟨rfl, by simp⟩

theorem Adds.trans (h : g.Adds g' ids) (h' : g'.Adds g'' ids') : g.Adds g'' (ids ++ ids') where
  charsets := h'.charsets.trans h.charsets
  contains id := by rw [h'.contains, h.contains, List.mem_append, or_assoc]

/-- The order in which ids were registered does not matter. -/
theorem Adds.perm (h : g.Adds g' ids) (h_perm : ids.Perm ids') : g.Adds g' ids' where
  charsets := h.charsets
  contains id := by rw [h.contains, h_perm.mem_iff]

theorem Room.perm (h : g.Room ids) (h_perm : ids.Perm ids') : g.Room ids' where
  nodup := h_perm.nodup_iff.1 h.nodup
  new id h_id := h.new id (h_perm.mem_iff.2 h_id)

theorem Room.left (h : g.Room (ids ++ ids')) : g.Room ids where
  nodup := (List.nodup_append.1 h.nodup).1
  new id h_id := h.new id (List.mem_append_left _ h_id)

/-- When some ids were registered, there is room for the others. -/
theorem Room.after (h : g.Room (ids ++ ids')) (h_adds : g.Adds g' ids) : g'.Room ids' where
  nodup := (List.nodup_append.1 h.nodup).2.1
  new id h_id := by
    refine Bool.eq_false_iff.2 fun h_contains => ?_
    rcases (h_adds.contains id).1 h_contains with h_old | h_first
    · rw [h.new id (List.mem_append_right _ h_id)] at h_old
      cases h_old
    · exact (List.nodup_append.1 h.nodup).2.2 id h_first id h_id rfl

/-- A node is registered if there is room for its id. -/
theorem register_adds {n : Node} (h : g.Room n.id.toList) :
    Ends (register n) g (fun _ g' => g.Adds g' n.id.toList) fun _ _ => False := by
  rw [register]
  cases h_id : n.id with
  | none => exact Adds.refl g
  | some id =>
    have h_new : g.nodes.contains id = false := h.new id (by rw [h_id]; exact List.mem_singleton_self _)
    simp only [ends_bind, ends_get, h_new, Bool.false_eq_true, if_false]
    refine ⟨rfl, fun id' => ?_⟩
    rw [Dict.contains_insert, or_comm, Option.toList_some, List.mem_singleton]

/-! ### Building -/

theorem fieldOf_adds {i : Identity} {spec : Config.FieldSpec} (h : ∃ f, Field.ofSpec spec = .ok f) :
    Ends (fieldOf i spec) g (fun _ g' => g' = g) fun _ _ => False := by
  obtain ⟨f, h_f⟩ := h
  rw [fieldOf, h_f]
  exact rfl

theorem charsetOf_adds {i : Identity} (h : i.IsEquipped g.charsets) :
    Ends (charsetOf i) g (fun _ g' => g' = g) fun _ _ => False := by
  obtain ⟨set, h_set⟩ := Dict.contains_iff.1 h
  rw [charsetOf, ends_bind, ends_get, CharacterSets.find, h_set]
  exact rfl

/-- Naming an id registers none. -/
theorem name_adds (id : String) : Ends (name id) g (fun _ g' => g.Adds g' []) fun _ _ => False :=
  ⟨rfl, by simp⟩

mutual

/-- **Building a node.** A constraint that can be built throughout and has new ids is built. -/
theorem build_adds {above : Option Identity} {g : Graph}
    (h_standard : g.charsets.contains CharacterSets.standardId = true)
    (h_above : ∀ i, above = some i → i.IsEquipped g.charsets) :
    ∀ x : Config.Constraint, x.BuildableThroughout g.charsets → g.Room x.ids →
      Ends (build above x) g (fun _ g' => g.Adds g' x.ids) fun _ _ => False
  | .mk id charset kind, h_x, h_room => by
    have h_equipped : (identityOf above id charset).IsEquipped g.charsets :=
      identityOf_isEquipped h_standard h_above h_x.own.charset
    -- the id of the constraint itself is the last to be registered
    have h_perm : (id.toList ++ kind.ids).Perm (kind.ids ++ id.toList) := List.perm_append_comm
    have h_room := h_room.perm h_perm
    rw [build, ends_bind]
    refine (buildKind_adds h_standard h_equipped kind h_x.own.field h_x.parts h_room.left).mono
      (fun k g' h_adds => ?_) fun _ _ => False.elim
    rw [ends_bind, freshKey]
    simp only [ends_bind, ends_get, ends_set, ends_pure]
    have h_id : (Node.mk g'.size (identityOf above id charset) k).id = id := by
      cases above <;> rfl
    have h_last : { g' with size := g'.size + 1 }.Room
        (Node.mk g'.size (identityOf above id charset) k).id.toList := by
      rw [h_id]
      exact ⟨(h_room.after h_adds).nodup, (h_room.after h_adds).new⟩
    refine (register_adds h_last).mono (fun _ g'' h_own => ?_) fun _ _ => False.elim
    rw [h_id] at h_own
    have h_both : g.Adds g'' (kind.ids ++ id.toList) :=
      h_adds.trans ⟨h_own.charsets, h_own.contains⟩
    exact h_both.perm h_perm.symm

theorem buildKind_adds {i : Identity} {g : Graph}
    (h_standard : g.charsets.contains CharacterSets.standardId = true)
    (h_equipped : i.IsEquipped g.charsets) :
    ∀ k : Config.Kind, (∀ spec, k = .field spec → ∃ f, Field.ofSpec spec = .ok f) →
      (∀ c ∈ k.children, c.BuildableThroughout g.charsets) → g.Room k.ids →
        Ends (buildKind i k) g (fun _ g' => g.Adds g' k.ids) fun _ _ => False
  | .constant _, _, _, _ => by
    rw [buildKind]
    exact Adds.refl g
  | .field spec, h_field, _, _ => by
    rw [buildKind, ends_bind]
    refine (fieldOf_adds (h_field spec rfl)).mono (fun f g' h_g' => ?_) fun _ _ => False.elim
    obtain rfl := h_g'
    rw [ends_bind]
    refine (charsetOf_adds h_equipped).mono (fun set g'' h_g'' => ?_) fun _ _ => False.elim
    obtain rfl := h_g''
    exact Adds.refl g''
  | .combined parts _, _, h_parts, h_room => by
    rw [buildKind, ends_bind]
    exact buildParts_adds h_standard h_equipped parts h_parts h_room
  | .optional child rule, _, h_parts, h_room => by
    rw [buildKind, ends_bind]
    refine (buildLink_adds h_standard h_equipped child
      (h_parts child (List.mem_singleton_self _)) h_room).mono (fun link g' h_adds => ?_)
      fun _ _ => False.elim
    -- The rule is stored as it is read: it adds neither a set nor an identifier.
    cases rule with
    | fixed _ => exact h_adds
    | whenPresent id => exact ⟨h_adds.charsets, h_adds.contains⟩
  | .source child, _, h_parts, h_room => by
    rw [buildKind, ends_bind]
    exact buildLink_adds h_standard h_equipped child (h_parts child (List.mem_singleton_self _))
      h_room

theorem buildLink_adds {i : Identity} {g : Graph}
    (h_standard : g.charsets.contains CharacterSets.standardId = true)
    (h_equipped : i.IsEquipped g.charsets) :
    ∀ c : Config.Child, c.BuildableThroughout g.charsets → g.Room c.ids →
      Ends (buildLink i c) g (fun _ g' => g.Adds g' c.ids) fun _ _ => False
  | .reference id, _, _ => by
    rw [buildLink, ends_bind]
    exact name_adds id
  | .embedded x, h_c, h_room => by
    rw [buildLink, ends_bind]
    refine build_adds h_standard (fun j h_j => ?_) x (h_c x rfl) h_room
    exact Option.some.inj h_j ▸ h_equipped

theorem buildParts_adds {i : Identity} {g : Graph}
    (h_standard : g.charsets.contains CharacterSets.standardId = true)
    (h_equipped : i.IsEquipped g.charsets) :
    ∀ cs : List Config.Child, (∀ c ∈ cs, c.BuildableThroughout g.charsets) →
      g.Room (Config.Child.listIds cs) →
        Ends (buildParts i cs) g (fun _ g' => g.Adds g' (Config.Child.listIds cs)) fun _ _ => False
  | [], _, _ => by
    rw [buildParts]
    exact Adds.refl g
  | c :: cs, h_cs, h_room => by
    rw [buildParts, ends_bind]
    have h_first := h_cs c List.mem_cons_self
    have h_rest : ∀ d ∈ cs, d.BuildableThroughout g.charsets :=
      fun d h_d => h_cs d (List.mem_cons_of_mem _ h_d)
    refine (buildLink_adds h_standard h_equipped c h_first h_room.left).mono
      (fun link g' h_adds => ?_) fun _ _ => False.elim
    rw [ends_bind]
    have h_sets := h_adds.charsets
    refine (buildParts_adds (g := g') (by rw [h_sets]; exact h_standard)
      (by rw [h_sets]; exact h_equipped) cs (by rw [h_sets]; exact h_rest)
      (h_room.after h_adds)).mono (fun links g'' h_more => ?_) fun _ _ => False.elim
    exact h_adds.trans h_more

end

/-- The constraints of the top level are built if each has an id. -/
theorem buildRoots_adds : ∀ (cs : List Config.Constraint) (g : Graph),
    g.charsets.contains CharacterSets.standardId = true →
    (∀ x ∈ cs, x.id ≠ none ∧ x.BuildableThroughout g.charsets) →
    g.Room (cs.flatMap Config.Constraint.ids) →
      Ends (buildRoots cs) g (fun _ g' => g.Adds g' (cs.flatMap Config.Constraint.ids))
        fun _ _ => False
  | [], g, _, _, _ => by
    rw [buildRoots]
    exact Adds.refl g
  | x :: xs, g, h_standard, h_cs, h_room => by
    rw [buildRoots, ends_bind]
    obtain ⟨h_id, h_x⟩ := h_cs x List.mem_cons_self
    have h_first := (build_adds h_standard (fun _ h => by cases h) x h_x h_room.left).and (ends_build none x g)
    refine h_first.mono (fun n g' h => ?_) fun _ _ h => h.1
    obtain ⟨h_adds, h_mirrors, -⟩ := h
    split
    · next h_none => exact h_id (h_mirrors.id_eq.symm.trans h_none)
    · rw [ends_bind]
      have h_sets := h_adds.charsets
      refine (buildRoots_adds xs g' (by rw [h_sets]; exact h_standard) (fun y h_y => ?_)
        (h_room.after h_adds)).mono (fun roots g'' h_more => h_adds.trans h_more)
        fun _ _ => False.elim
      rw [h_sets]
      exact h_cs y (List.mem_cons_of_mem _ h_y)

/-! ### Character sets -/

/-- Character sets that have characters are declared, each in place of one with its id. -/
theorem ends_declareCharsets_ok : ∀ (es : List (String × String)) (g : Graph),
    (∀ e ∈ es, e.2 ≠ "") → (es.map Prod.fst).Nodup →
      Ends (declareCharsets es) g (fun _ g' => g'.nodes = g.nodes ∧
        (∀ id chars, (id, chars) ∈ es →
          ∃ set, CharacterSet.ofString? id chars = .ok set ∧ g'.charsets.get? id = some set) ∧
        ∀ id, id ∉ es.map Prod.fst → g'.charsets.get? id = g.charsets.get? id)
        fun _ _ => False
  | [], g, _, _ => ⟨rfl, fun _ _ h => absurd h List.not_mem_nil, fun _ _ => rfl⟩
  | (id, chars) :: es, g, h_chars, h_nodup => by
    obtain ⟨set, h_set⟩ := Config.ofString?_isOk_iff.2 (h_chars (id, chars) List.mem_cons_self)
    rw [List.map_cons, List.nodup_cons] at h_nodup
    have h_declare : g.charsets.declare id chars = .ok (g.charsets.insert id set) := by
      rw [CharacterSets.declare, h_set]
      rfl
    rw [declareCharsets, ends_bind, declareCharset]
    simp only [ends_bind, ends_get, h_declare, ends_modify]
    refine (ends_declareCharsets_ok es _ (fun e h_e => h_chars e (List.mem_cons_of_mem _ h_e))
      h_nodup.2).mono (fun _ g' h => ?_) fun _ _ => False.elim
    obtain ⟨h_nodes, h_declared, h_others⟩ := h
    refine ⟨h_nodes, fun id' chars' h_mem => ?_, fun id' h_id' => ?_⟩
    · rcases List.mem_cons.1 h_mem with h_eq | h_mem
      · cases h_eq
        -- The later declarations leave this set alone, as its identifier does not come again.
        exact ⟨set, h_set, (h_others id h_nodup.1).trans (Dict.get?_insert_self _ _ _)⟩
      · exact h_declared id' chars' h_mem
    · rw [List.map_cons, List.mem_cons, not_or] at h_id'
      rw [h_others id' h_id'.2, Dict.get?_insert, if_neg h_id'.1]

theorem contains_builtin {id : String} (h : CharacterSets.isBuiltin id = true) :
    CharacterSets.builtin.contains id = true := by
  have h_all : ∀ e ∈ CharacterSets.builtinTexts, CharacterSets.builtin.contains e.1 = true := by
    decide +kernel
  obtain ⟨e, h_e, h_id⟩ := List.any_eq_true.1 h
  exact of_decide_eq_true h_id ▸ h_all e h_e

/-- A graph has the character sets of a configuration: those that it declares, and the built-in ones
whose ids it does not declare. -/
structure Equips (g : Graph) (c : Config) : Prop where
  declared : ∀ id chars, c.charsets.get? id = some chars →
    ∃ set, CharacterSet.ofString? id chars = .ok set ∧ g.charsets.get? id = some set
  others : ∀ id, c.charsets.get? id = none → g.charsets.get? id = CharacterSets.builtin.get? id

/-- Every known character set is there. -/
theorem Equips.contains {g : Graph} {c : Config} (h : g.Equips c) {id : String}
    (h_id : Config.IsKnownCharset c.charsets id) : g.charsets.contains id = true := by
  cases h_get : c.charsets.get? id with
  | some chars =>
    obtain ⟨set, -, h_set⟩ := h.declared id chars h_get
    exact Dict.contains_iff.2 ⟨set, h_set⟩
  | none =>
    have h_builtin : CharacterSets.isBuiltin id = true := by
      refine h_id.resolve_right fun h_declared => ?_
      obtain ⟨chars, h_chars⟩ := Dict.contains_iff.1 h_declared
      rw [h_get] at h_chars
      cases h_chars
    obtain ⟨set, h_set⟩ := Dict.contains_iff.1 (contains_builtin h_builtin)
    exact Dict.contains_iff.2 ⟨set, (h.others id h_get).trans h_set⟩

/-! ### Valid configurations -/

/-- A pattern that stands in a configuration has a plan by which texts are written. -/
def PatternsPlanned (c : Config) : Prop :=
  ∀ p x expression maxRepeat, c.at? p = some x → x.kind = .field (.pattern expression maxRepeat) →
    ∃ plan, Regex.Plan.parse expression
      ((maxRepeat.map UInt32.toNat).getD Field.standardMaxRepeat) = .ok plan

/-- A fit field can be made, if there is a plan for its pattern. -/
theorem exists_ofSpec {spec : Config.FieldSpec} (h : spec.IsFit)
    (h_pattern : ∀ expression maxRepeat, spec = .pattern expression maxRepeat →
      ∃ plan, Regex.Plan.parse expression
        ((maxRepeat.map UInt32.toNat).getD Field.standardMaxRepeat) = .ok plan) :
    ∃ f, Field.ofSpec spec = .ok f := by
  cases spec with
  | text low high => exact ⟨_, dif_pos (UInt64.le_iff_toNat_le.1 h)⟩
  | number low high => exact ⟨_, dif_pos (Int64.le_iff_toInt_le.1 h)⟩
  | date low high format =>
    obtain ⟨⟨first, last, h_first, h_last, h_le⟩, h_format⟩ := h
    -- without a format the standard one is taken, which can be read
    obtain ⟨written, h_written⟩ : ∃ f, DateFormat.parse (format.getD Field.standardFormat) = some f := by
      cases format with
      | some written => exact h_format written rfl
      | none => exact Option.isSome_iff_exists.1 (by decide +kernel)
    refine ⟨.date first last h_le written, ?_⟩
    simp only [Field.ofSpec, Field.dateOf, h_first, h_last, Except.mapError]
    simp only [bind, Except.bind, dif_pos h_le, h_written]
    rfl
  | choice values => exact ⟨_, dif_pos h⟩
  | pattern expression maxRepeat =>
    obtain ⟨plan, h_plan⟩ := h_pattern expression maxRepeat rfl
    exact ⟨.pattern plan, by rw [Field.ofSpec, h_plan]⟩

/-- All constraints of a well-formed configuration can be built where its character sets are. -/
theorem buildableThroughout_of_wellFormed {c : Config} (h : c.WellFormed)
    (h_patterns : PatternsPlanned c) {g : Graph} (h_sets : g.Equips c) :
    ∀ x ∈ c.constraints, x.BuildableThroughout g.charsets := by
  intro x h_x p y h_y
  obtain ⟨i, h_i⟩ := List.getElem?_of_mem h_x
  have h_at : c.at? (i :: p) = some y := Config.at?_cons.2 ⟨x, h_i, h_y⟩
  refine ⟨fun spec h_spec => ?_, fun id h_id => ?_⟩
  · have h_fit := h.kinds _ y h_at
    rw [h_spec] at h_fit
    exact exists_ofSpec h_fit fun expression maxRepeat h_eq =>
      h_patterns _ y expression maxRepeat h_at (h_eq ▸ h_spec)
  · exact h_sets.contains (h.known_charsets _ y id h_at h_id)

/-- References are verified if whatever is named is registered. -/
theorem verifyReferences_of_contains {g : Graph}
    (h : ∀ id, g.named.contains id = true → g.nodes.contains id = true) :
    g.verifyReferences = .ok () := by
  have h_none : g.missingId? = none := by
    refine List.find?_eq_none.2 fun id h_id => ?_
    simp [h id (Dict.mem_keys_iff.1 h_id)]
  rw [verifyReferences, h_none]

/-- **Building a well-formed configuration** succeeds. -/
theorem buildConfig_adds {c : Config} (h : c.WellFormed) (h_patterns : PatternsPlanned c) :
    Ends (buildConfig c) (.empty .builtin)
      (fun _ g => g.Equips c ∧ ∀ id, g.nodes.contains id = true ↔ ∃ p, c.Declares p id)
      fun _ _ => False := by
  have h_entries : ∀ e ∈ c.charsets.entries, e.2 ≠ "" :=
    fun e h_e => h.charsets e.1 e.2 (Dict.mem_entries_iff.1 h_e)
  rw [buildConfig, ends_bind]
  refine ((ends_declareCharsets_ok _ _ h_entries c.charsets.keys_nodup).and
    (ends_declareCharsets c.charsets.entries _)).mono (fun _ g h_g => ?_) fun _ _ h_bad => h_bad.1
  obtain ⟨⟨h_nodes, h_declared, h_others⟩, -, h_named, -⟩ := h_g
  have h_sets : g.Equips c := by
    refine ⟨fun id chars h_get => h_declared id chars (Dict.mem_entries_iff.2 h_get),
      fun id h_get => h_others id fun h_key => ?_⟩
    obtain ⟨chars, h_chars⟩ := Dict.contains_iff.1 (Dict.mem_keys_iff.1 h_key)
    rw [h_get] at h_chars
    cases h_chars
  -- nothing is registered yet
  have h_room : g.Room (c.constraints.flatMap Config.Constraint.ids) :=
    ⟨Config.ids_nodup_iff.2 h.unique_ids, fun id _ => by rw [h_nodes]; rfl⟩
  have h_standard : g.charsets.contains CharacterSets.standardId = true :=
    h_sets.contains (.inl (by decide))
  rw [ends_bind]
  refine ((buildRoots_adds c.constraints g h_standard (fun x h_x => ⟨h.top_ids x h_x,
    buildableThroughout_of_wellFormed h h_patterns h_sets x h_x⟩) h_room).and
    (ends_buildRoots c.constraints g)).mono (fun roots g' h_g' => ?_) fun _ _ h_bad => h_bad.1
  obtain ⟨h_adds, ns, -, -, h_grown⟩ := h_g'
  have h_contains : ∀ id, g'.nodes.contains id = true ↔ ∃ p, c.Declares p id := by
    intro id
    rw [h_adds.contains, h_nodes, ← Config.mem_ids]
    exact or_iff_right Bool.false_ne_true
  -- what the constraints name is declared, so that it was registered
  have h_verified : g'.verifyReferences = .ok () := by
    refine verifyReferences_of_contains fun id h_id => (h_contains id).2 ?_
    rw [h_grown.named, h_named] at h_id
    obtain ⟨x, h_x, p, y, h_y, h_name⟩ := h_id.resolve_left Bool.false_ne_true
    obtain ⟨i, h_i⟩ := List.getElem?_of_mem h_x
    exact h.named_ids (i :: p) y id (Config.at?_cons.2 ⟨x, h_i, h_y⟩) h_name
  simp only [ends_bind, ends_get, h_verified]
  have h_charsets := h_adds.charsets
  refine ⟨⟨?_, ?_⟩, h_contains⟩
  · rw [h_charsets]
    exact h_sets.declared
  · rw [h_charsets]
    exact h_sets.others

/-- **Valid configurations build.** If the check of a configuration reports no error and there is a
plan for each of its patterns, its graph is built.

The answer are the ids of the top level in their order. The nodes of the top level mirror the
constraints there, each with a key of its own for every place. Just the ids that are declared
anywhere are registered, each with the node at the place of its declaration, which mirrors the
constraint at that place; and whatever a constraint names is registered. -/
theorem buildConfig_of_isOk {c : Config} (h_ok : c.check.isOk = true)
    (h_patterns : PatternsPlanned c) :
    ∃ roots g tops, buildConfig c (.empty .builtin) = (.ok roots, g) ∧
      c.constraints.map Config.Constraint.id = roots.map some ∧
      List.Forall₂ (Node.Mirrors g.charsets none) c.constraints tops ∧
      g.Equips c ∧ (tops.flatMap Node.keys).Nodup ∧
      (∀ id, g.nodes.contains id = true ↔ ∃ p, c.Declares p id) ∧
      (∀ p x id, c.at? p = some x → x.id = some id → ∃ n above,
        g.nodes.get? id = some n ∧ nodeAt? tops p = some n ∧ n.Mirrors g.charsets above x) ∧
      ∀ p x id, c.at? p = some x → id ∈ x.named → g.nodes.contains id = true := by
  have h := Config.wellFormed_of_isOk h_ok
  obtain ⟨roots, h_built, ⟨h_sets, h_contains⟩, tops, h_mirrors, h_roots, h_nodup, -, h_registered,
    -⟩ := ((buildConfig_adds h h_patterns).and (ends_buildConfig c .builtin)).mono
      (fun _ _ h_both => h_both) (fun _ _ h_bad => h_bad.1) |>.exists_ok
  refine ⟨roots, _, tops, h_built, ?_, h_mirrors, h_sets, h_nodup, h_contains, ?_, ?_⟩
  · rw [← h_roots]
    exact map_id_of_mirrors h_mirrors
  · intro p x id h_x h_id
    obtain ⟨n, above, h_n, h_mirror⟩ := mirrors_nodeAt? h_mirrors h_x
    have h_inside : ∃ t ∈ tops, t.Inside n := exists_nodeAt?_iff.1 ⟨p, h_n⟩
    exact ⟨n, above, (h_registered id n).2 ⟨h_inside, h_mirror.id_eq.trans h_id⟩, h_n, h_mirror⟩
  · intro p x id h_x h_id
    exact (h_contains id).2 (h.named_ids p x id h_x h_id)

/-- A constraint whose embedded part takes over its character set, and a copy of that part. -/
def codeAndCopy : Config :=
  ⟨Config.supportedVersion, none, Dict.ofList [("hex", "0123456789abcdef")], [
    .mk (some "code") (some "hex") (.combined [.embedded (.mk (some "code.digits") none
      (.field (.text 2 4))), .embedded (.mk none none (.field (.pattern "[x-z]{2}" none)))] "-"),
    .mk (some "copy") none (.source (.reference "code.digits"))]⟩

/-- The only pattern that stands in it has a plan. -/
theorem patternsPlanned_codeAndCopy : PatternsPlanned codeAndCopy := by
  have h_plan : ∃ plan, Regex.Plan.parse "[x-z]{2}" Field.standardMaxRepeat = .ok plan := by
    have h_isOk : (Regex.Plan.parse "[x-z]{2}" Field.standardMaxRepeat).toOption.isSome = true := by
      decide +kernel
    cases h : Regex.Plan.parse "[x-z]{2}" Field.standardMaxRepeat with
    | ok plan => exact ⟨plan, rfl⟩
    | error fault => rw [h] at h_isOk; cases h_isOk
  have h_only : ∀ x ∈ codeAndCopy.constraints, ∀ p y, x.at? p = some y →
      ∀ expression maxRepeat, y.kind = .field (.pattern expression maxRepeat) →
        expression = "[x-z]{2}" ∧ maxRepeat = none := by
    intro x h_x
    simp only [codeAndCopy, List.mem_cons, List.not_mem_nil, or_false] at h_x
    rcases h_x with rfl | rfl
    · refine Config.Constraint.forall_at?_of_parts (fun _ _ h => ?_) fun z h_z => ?_
      · cases h
      simp only [Config.Constraint.children, Config.Constraint.kind, Config.Kind.children,
        List.mem_cons, Config.Child.embedded.injEq, List.not_mem_nil, or_false] at h_z
      rcases h_z with rfl | rfl
      all_goals
        refine Config.Constraint.forall_at?_of_parts (fun _ _ h => ?_)
          fun _ h_z => absurd h_z List.not_mem_nil
        cases h
      exact ⟨rfl, rfl⟩
    · refine Config.Constraint.forall_at?_of_parts (fun _ _ h => ?_) fun z h_z => ?_
      · cases h
      · cases List.mem_singleton.1 h_z
  intro p y expression maxRepeat h_y h_kind
  cases p with
  | nil => cases h_y
  | cons i p =>
    obtain ⟨x, h_x, h_y⟩ := Config.at?_cons.1 h_y
    obtain ⟨h_expression, h_repeat⟩ :=
      h_only x (List.mem_of_getElem? h_x) p y h_y expression maxRepeat h_kind
    rw [h_expression, h_repeat]
    exact h_plan

/-- The copied part is registered with the node that stands in the first constraint. -/
theorem buildConfig_of_isOk_codeAndCopy : codeAndCopy.check.isOk = true ∧
    PatternsPlanned codeAndCopy ∧ ∃ roots g tops n above,
      buildConfig codeAndCopy (.empty .builtin) = (.ok roots, g) ∧ roots = ["code", "copy"] ∧
      g.nodes.get? "code.digits" = some n ∧ nodeAt? tops [0, 0] = some n ∧
      n.Mirrors g.charsets above (.mk (some "code.digits") none (.field (.text 2 4))) := by
  have h_ok : codeAndCopy.check.isOk = true := by decide +kernel
  obtain ⟨roots, g, tops, h_built, h_roots, -, -, -, -, h_bound, -⟩ :=
    buildConfig_of_isOk h_ok patternsPlanned_codeAndCopy
  obtain ⟨n, above, h_get, h_at, h_mirror⟩ := h_bound [0, 0] _ "code.digits" rfl rfl
  refine ⟨h_ok, patternsPlanned_codeAndCopy, roots, g, tops, n, above, h_built, ?_, h_get, h_at,
    h_mirror⟩
  have h_ids : codeAndCopy.constraints.map Config.Constraint.id = ["code", "copy"].map some := rfl
  exact (List.map_injective_iff.2 (Option.some_injective _) (h_ids.symm.trans h_roots)).symm

end Graph

end Specimen
