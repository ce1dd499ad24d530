import Specimen.Proofs.Dict
import Specimen.Proofs.Ends
import Specimen.Proofs.Graph.Mirror

/-!
# What building adds to a graph

Building the node of a constraint takes new keys, registers the nodes with ids and notes the ids
that are named, and does nothing else. `Graph.Grown` says by how much a graph has grown, growth
adds up (`Graph.Grown.trans`), and `Graph.ends_build` goes along the recursion of the build: what
comes out mirrors the constraint, and the graph has grown by just what is inside it.
-/

namespace Specimen

/-! ### Ids that are named inside a constraint -/

namespace Config

/-- A constraint or one embedded in it names an id. -/
def Constraint.Names (x : Constraint) (id : String) : Prop :=
  ∃ p y, x.at? p = some y ∧ id ∈ y.named

/-- A part is a reference to an id, or names it inside. -/
def Child.Names : Child → String → Prop
  | .reference id', id => id = id'
  | .embedded x, id => x.Names id

theorem Constraint.names_iff {x : Constraint} {id : String} :
    x.Names id ↔ x.kind.ruleId? = some id ∨ ∃ c ∈ x.children, c.Names id := by
  constructor
  · rintro ⟨_ | ⟨i, p⟩, y, h_y, h_id⟩
    · obtain rfl : x = y := Option.some.inj (x.at?_nil.symm.trans h_y)
      rw [Constraint.named, List.mem_append, Option.mem_toList, List.mem_filterMap] at h_id
      obtain h_rule | ⟨_ | z, h_c, h⟩ := h_id
      · exact .inl h_rule
      · exact .inr ⟨_, h_c, (Option.some.inj h).symm⟩
      · cases h
    · obtain ⟨z, h_z, h_y⟩ := Constraint.at?_cons.1 h_y
      exact .inr ⟨_, List.mem_of_getElem? h_z, p, y, h_y, h_id⟩
  · rintro (h_rule | ⟨_ | z, h_c, h⟩)
    · refine ⟨[], x, x.at?_nil, ?_⟩
      exact List.mem_append_left _ (Option.mem_toList.2 h_rule)
    · cases h
      refine ⟨[], x, x.at?_nil, ?_⟩
      exact List.mem_append_right _ (List.mem_filterMap.2 ⟨_, h_c, rfl⟩)
    · obtain ⟨i, h_i⟩ := List.getElem?_of_mem h_c
      obtain ⟨p, y, h_y, h_id⟩ := h
      exact ⟨i :: p, y, Constraint.at?_cons.2 ⟨z, h_i, h_y⟩, h_id⟩

end Config

/-! ### Growth -/

namespace Graph

/-- A graph has grown by nodes with new keys and by the ids that they name. -/
structure Grown (g g' : Graph) (keys : List Nat) (New : Node → Prop) (Names : String → Prop) :
    Prop where
  charsets : g'.charsets = g.charsets
  size : g.size ≤ g'.size
  range : ∀ key ∈ keys, g.size ≤ key ∧ key < g'.size
  nodup : keys.Nodup
  registered : ∀ id n, g'.nodes.get? id = some n ↔
    g.nodes.get? id = some n ∨ (New n ∧ n.id = some id)
  named : ∀ id, g'.named.contains id = true ↔ g.named.contains id = true ∨ Names id

variable {g g' g'' : Graph} {keys keys' : List Nat} {New New' : Node → Prop}
  {Names Names' : String → Prop}

theorem Grown.refl (g : Graph) : g.Grown g [] (fun _ => False) fun _ => False where
  charsets := rfl
  size := Nat.le_refl _
  range := fun _ h => absurd h List.not_mem_nil
  nodup := List.nodup_nil
  registered := fun _ _ => by simp
  named := fun _ => by simp

/-- Growth adds up. -/
theorem Grown.trans (h : g.Grown g' keys New Names) (h' : g'.Grown g'' keys' New' Names') :
    g.Grown g'' (keys ++ keys') (fun n => New n ∨ New' n) fun id => Names id ∨ Names' id where
  charsets := h'.charsets.trans h.charsets
  size := Nat.le_trans h.size h'.size
  range := by
    intro key h_key
    have h_size := h.size
    have h_size' := h'.size
    rcases List.mem_append.1 h_key with h_key | h_key
    · have h_range := h.range key h_key
      omega
    · have h_range := h'.range key h_key
      omega
  nodup := by
    refine List.nodup_append.2 ⟨h.nodup, h'.nodup, ?_⟩
    -- The second step takes its keys above all that the first one used.
    rintro key h_key _ h_key' rfl
    have h_range := h.range key h_key
    have h_range' := h'.range key h_key'
    omega
  registered := by
    intro id n
    rw [h'.registered, h.registered, or_assoc, or_and_right]
  named := by
    intro id
    rw [h'.named, h.named, or_assoc]

theorem Grown.congr (h : g.Grown g' keys New Names) (h_new : ∀ n, New' n ↔ New n)
    (h_names : ∀ id, Names' id ↔ Names id) : g.Grown g' keys New' Names' where
  charsets := h.charsets
  size := h.size
  range := h.range
  nodup := h.nodup
  registered := fun id n => by rw [h.registered, h_new]
  named := fun id => by rw [h.named, h_names]

/-- The order of the keys does not matter. -/
theorem Grown.perm (h : g.Grown g' keys New Names) (h_perm : keys.Perm keys') :
    g.Grown g' keys' New Names where
  charsets := h.charsets
  size := h.size
  range := fun key h_key => h.range key (h_perm.mem_iff.2 h_key)
  nodup := h_perm.nodup_iff.1 h.nodup
  registered := h.registered
  named := h.named

/-- Naming an id notes it. -/
theorem Grown.name (id : String) : g.Grown { g with named := g.named.insert id () } []
    (fun _ => False) (fun id' => id' = id) where
  charsets := rfl
  size := Nat.le_refl _
  range := fun _ h => absurd h List.not_mem_nil
  nodup := List.nodup_nil
  registered := fun _ _ => by simp
  named := fun id' => (Dict.contains_insert g.named id () id').trans or_comm

/-- A node takes a key after all those inside it, and is registered if it has an id. -/
theorem ends_register {n : Node} (h_size : g.size = n.key) :
    Ends (register n) { g with size := g.size + 1 }
      (fun _ g' => g.Grown g' [n.key] (fun m => m = n) fun _ => False) fun _ _ => True := by
  rw [register]
  cases h_id : n.id with
  | none =>
    exact {
      charsets := rfl
      size := Nat.le_succ _
      range := by simp [h_size]
      nodup := List.nodup_singleton _
      -- without an id it cannot be what is found under one
      registered := by
        intro id m
        refine (or_iff_left ?_).symm
        rintro ⟨rfl, h⟩
        rw [h_id] at h
        cases h
      named := fun _ => by simp }
  | some id =>
    simp only [ends_bind, ends_get]
    split
    · trivial
    · next h_new =>
      -- an id that is taken is refused
      have h_none : g.nodes.get? id = none := by
        cases h : g.nodes.get? id with
        | none => rfl
        | some m => exact absurd (Dict.contains_iff.2 ⟨m, h⟩) h_new
      simp only [ends_modify]
      exact {
        charsets := rfl
        size := Nat.le_succ _
        range := by simp [h_size]
        nodup := List.nodup_singleton _
        registered := by
          intro id' m
          rw [Dict.get?_insert]
          split
          · next h_eq =>
            subst h_eq
            rw [h_none]
            constructor
            · rintro h
              cases h
              exact .inr ⟨rfl, h_id⟩
            · rintro (h | ⟨rfl, -⟩)
              · cases h
              · rfl
          · next h_ne =>
            refine (or_iff_left ?_).symm
            rintro ⟨rfl, h⟩
            exact h_ne (Option.some.inj (h.symm.trans h_id))
        named := fun _ => by simp }

/-! ### Building -/

theorem ends_fieldOf {i : Identity} {spec : Config.FieldSpec} {g : Graph} :
    Ends (fieldOf i spec) g (fun f g' => Field.ofSpec spec = .ok f ∧ g' = g) fun _ _ => True := by
  rw [fieldOf]
  cases h : Field.ofSpec spec with
  | ok f => exact ⟨rfl, rfl⟩
  | error fault => trivial

theorem ends_charsetOf {i : Identity} {g : Graph} : Ends (charsetOf i) g
    (fun set g' => g.charsets.find (i.charset.getD CharacterSets.standardId) = .ok set ∧ g' = g)
    fun _ _ => True := by
  rw [charsetOf, ends_bind, ends_get]
  cases h : g.charsets.find (i.charset.getD CharacterSets.standardId) with
  | ok set => exact ⟨rfl, rfl⟩
  | error fault => trivial

mutual

/-- **Building a node.** What comes out mirrors the constraint, and the graph has grown by the
nodes inside it. -/
theorem ends_build (above : Option Identity) : ∀ (x : Config.Constraint) (g : Graph),
    Ends (build above x) g
      (fun n g' => n.Mirrors g.charsets above x ∧ g.Grown g' n.keys n.Inside x.Names)
      fun _ _ => True
  | .mk id charset kind, g => by
    rw [build, ends_bind]
    refine (ends_buildKind (identityOf above id charset) kind g).mono (fun k g' h_k => ?_)
      fun _ _ _ => trivial
    obtain ⟨h_mirrors, h_grown⟩ := h_k
    rw [ends_bind, freshKey]
    simp only [ends_bind, ends_get, ends_set, ends_pure]
    refine (ends_register (n := .mk g'.size (identityOf above id charset) k) rfl).mono
      (fun _ g'' h_last => ?_) fun _ _ _ => trivial
    -- the key of the node itself comes first in the list and is the last to be taken
    have h_keys :
        (k.keys ++ [g'.size]).Perm (Node.mk g'.size (identityOf above id charset) k).keys :=
      List.perm_append_comm
    refine ⟨.intro h_mirrors, ((h_grown.trans h_last).perm h_keys).congr (fun m => ?_)
      fun id' => ?_⟩
    · rw [Node.inside_iff, or_comm]
      exact Iff.rfl
    · rw [Config.Constraint.names_iff, or_false]
      exact Iff.rfl

theorem ends_buildKind (i : Identity) : ∀ (k : Config.Kind) (g : Graph),
    Ends (buildKind i k) g
      (fun k' g' => NodeKind.Mirrors g.charsets i k k' ∧
        g.Grown g' k'.keys (fun n => ∃ l ∈ k'.links, l.Inside n)
          fun id => k.ruleId? = some id ∨ ∃ c ∈ k.children, c.Names id)
      fun _ _ => True
  | .constant value, g => by
    rw [buildKind]
    refine ⟨.constant, (Grown.refl g).congr (fun _ => ?_) fun _ => ?_⟩
    · simp [NodeKind.links]
    · simp [Config.Kind.ruleId?, Config.Kind.children]
  | .field spec, g => by
    rw [buildKind, ends_bind]
    refine ends_fieldOf.mono (fun f g' h_f => ?_) fun _ _ _ => trivial
    obtain ⟨h_f, rfl⟩ := h_f
    rw [ends_bind]
    refine ends_charsetOf.mono (fun set g' h_set => ?_) fun _ _ _ => trivial
    obtain ⟨h_set, rfl⟩ := h_set
    refine ⟨.field h_f h_set, (Grown.refl g').congr (fun _ => ?_) fun _ => ?_⟩
    · simp [NodeKind.links]
    · simp [Config.Kind.ruleId?, Config.Kind.children]
  | .combined parts separator, g => by
    rw [buildKind, ends_bind]
    refine (ends_buildParts i parts g).mono (fun links g' h => ?_) fun _ _ _ => trivial
    refine ⟨.combined h.1, h.2.congr (fun _ => Iff.rfl) fun id => ?_⟩
    simp [Config.Kind.ruleId?, Config.Kind.children]
  | .optional child rule, g => by
    rw [buildKind, ends_bind]
    refine (ends_buildLink i child g).mono (fun link g' h => ?_) fun _ _ _ => trivial
    obtain ⟨h_mirrors, h_grown⟩ := h
    cases rule with
    | fixed always =>
      refine ⟨.optional h_mirrors, h_grown.congr (fun n => ?_) fun id => ?_⟩
      · simp [NodeKind.links]
      · simp [Config.Kind.ruleId?, Config.Kind.children]
    | whenPresent id =>
      refine ⟨.optional h_mirrors, ?_⟩
      -- the id of the rule is named after the child has been built
      have h_last := h_grown.trans (Grown.name id)
      rw [List.append_nil] at h_last
      refine h_last.congr (fun n => ?_) fun id' => ?_
      · simp [NodeKind.links]
      · simp [Config.Kind.ruleId?, Config.Kind.children, or_comm, eq_comm]
  | .source child, g => by
    rw [buildKind, ends_bind]
    refine (ends_buildLink i child g).mono (fun link g' h => ?_) fun _ _ _ => trivial
    refine ⟨.source h.1, h.2.congr (fun n => ?_) fun id => ?_⟩
    · simp [NodeKind.links]
    · simp [Config.Kind.ruleId?, Config.Kind.children]

theorem ends_buildLink (i : Identity) : ∀ (c : Config.Child) (g : Graph),
    Ends (buildLink i c) g
      (fun l g' => Link.Mirrors g.charsets i c l ∧ g.Grown g' l.keys l.Inside c.Names)
      fun _ _ => True
  | .reference id, g => by
    rw [buildLink, ends_bind, name, ends_modify]
    exact ⟨.reference, Grown.name id⟩
  | .embedded x, g => by
    rw [buildLink, ends_bind]
    refine (ends_build (some i) x g).mono (fun n g' h => ?_) fun _ _ _ => trivial
    exact ⟨.embedded h.1, h.2⟩

theorem ends_buildParts (i : Identity) : ∀ (cs : List Config.Child) (g : Graph),
    Ends (buildParts i cs) g
      (fun ls g' => Link.ListMirrors g.charsets i cs ls ∧
        g.Grown g' (Link.listKeys ls) (fun n => ∃ l ∈ ls, l.Inside n)
          fun id => ∃ c ∈ cs, c.Names id)
      fun _ _ => True
  | [], g => by
    rw [buildParts]
    exact ⟨.nil, (Grown.refl g).congr (fun _ => by simp) fun _ => by simp⟩
  | c :: cs, g => by
    rw [buildParts, ends_bind]
    refine (ends_buildLink i c g).mono (fun l g' h => ?_) fun _ _ _ => trivial
    rw [ends_bind]
    refine (ends_buildParts i cs g').mono (fun ls g'' h' => ?_) fun _ _ _ => trivial
    have h_sets := h.2.charsets
    refine ⟨.cons h.1 (h_sets ▸ h'.1), (h.2.trans h'.2).congr (fun n => ?_) fun id => ?_⟩
    · simp
    · simp

end

/-! ### Building a configuration -/

/-- What is known when the constraints of the top level were built. -/
theorem ends_buildRoots : ∀ (cs : List Config.Constraint) (g : Graph),
    Ends (buildRoots cs) g
      (fun roots g' => ∃ ns, List.Forall₂ (Node.Mirrors g.charsets none) cs ns ∧
        ns.map Node.id = roots.map some ∧ g.Grown g' (ns.flatMap Node.keys)
          (fun n => ∃ t ∈ ns, t.Inside n) fun id => ∃ c ∈ cs, c.Names id)
      fun _ _ => True
  | [], g => by
    rw [buildRoots]
    exact ⟨[], .nil, rfl, (Grown.refl g).congr (fun _ => by simp) fun _ => by simp⟩
  | c :: cs, g => by
    rw [buildRoots, ends_bind]
    refine (ends_build none c g).mono (fun n g' h => ?_) fun _ _ _ => trivial
    split
    · trivial
    · next id h_id =>
      rw [ends_bind]
      refine (ends_buildRoots cs g').mono (fun roots g'' h' => ?_) fun _ _ _ => trivial
      obtain ⟨ns, h_mirrors, h_roots, h_grown⟩ := h'
      refine ⟨n :: ns, .cons h.1 (h.2.charsets ▸ h_mirrors), by simp [h_id, h_roots], ?_⟩
      refine (h.2.trans h_grown).congr (fun m => ?_) fun id' => ?_
      · simp
      · simp

/-- Declaring character sets leaves everything else as it is. -/
theorem ends_declareCharsets : ∀ (es : List (String × String)) (g : Graph),
    Ends (declareCharsets es) g
      (fun _ g' => g'.nodes = g.nodes ∧ g'.named = g.named ∧ g'.size = g.size) fun _ _ => True
  | [], _ => ⟨rfl, rfl, rfl⟩
  | (id, chars) :: rest, g => by
    rw [declareCharsets, ends_bind, declareCharset]
    simp only [ends_bind, ends_get]
    split
    · exact ends_declareCharsets rest _
    · trivial

/-- All ids that are named are registered when the references are verified. -/
theorem contains_of_verifyReferences {g : Graph} (h : g.verifyReferences = .ok ()) {id : String}
    (h_id : g.named.contains id = true) : g.nodes.contains id = true := by
  rw [verifyReferences] at h
  split at h
  · cases h
  · next h_none =>
    rw [missingId?, List.find?_eq_none] at h_none
    simpa using h_none id (Dict.mem_keys_iff.2 h_id)

/-- **Building a configuration.** -/
theorem ends_buildConfig (c : Config) (sets : CharacterSets) :
    Ends (buildConfig c) (.empty sets)
      (fun roots g => ∃ ns, List.Forall₂ (Node.Mirrors g.charsets none) c.constraints ns ∧
        ns.map Node.id = roots.map some ∧ (ns.flatMap Node.keys).Nodup ∧
        (∀ key ∈ ns.flatMap Node.keys, key < g.size) ∧
        (∀ id n, g.nodes.get? id = some n ↔ (∃ t ∈ ns, t.Inside n) ∧ n.id = some id) ∧
        ∀ id, (∃ x ∈ c.constraints, x.Names id) → g.nodes.contains id = true)
      fun _ _ => True := by
  rw [buildConfig, ends_bind]
  refine (ends_declareCharsets _ _).mono (fun _ g h => ?_) fun _ _ _ => trivial
  obtain ⟨h_nodes, -, -⟩ := h
  rw [ends_bind]
  refine (ends_buildRoots c.constraints g).mono (fun roots g' h => ?_) fun _ _ _ => trivial
  obtain ⟨ns, h_mirrors, h_roots, h_grown⟩ := h
  simp only [ends_bind, ends_get]
  split
  · next h_verified =>
    refine ⟨ns, h_grown.charsets ▸ h_mirrors, h_roots, h_grown.nodup,
      fun key h_key => (h_grown.range key h_key).2, fun id n => ?_, fun id h_id => ?_⟩
    · rw [h_grown.registered, h_nodes]
      exact or_iff_right (by simp [Graph.empty])
    · exact contains_of_verifyReferences h_verified ((h_grown.named id).2 (.inr h_id))
  · trivial

end Graph

end Specimen
