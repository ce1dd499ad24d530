import Specimen.Proofs.Graph.Coherent

/-!
# What is registered stays registered

Building a node may fail half way, and by then some of the nodes inside it may have been registered.
In any case the nodes that were registered before are found under their ids as before, because an id
that is taken is never given to another node.

* `Graph.Grows` says what relates a graph to all that building makes of it, and `Graph.Leads` goes
  along the recursion of the build.
* `Graph.Within` compares two graphs, and `Graph.Preserves` says of a computation that it loses
  nothing.
* `Graph.Named`: each node is registered under its own id.
-/

namespace Specimen

namespace Graph

variable {g g' g'' : Graph}

/-! ### Along the build -/

/-- A relation of graphs holds along whatever building does: it depends on registered nodes only,
goes on from step to step, and holds when a node is registered under its id and the id was free. -/
structure Grows (R : Graph → Graph → Prop) : Prop where
  of_nodes : ∀ {g g'}, g'.nodes = g.nodes → R g g'
  trans : ∀ {g g' g''}, R g g' → R g' g'' → R g g''
  insert : ∀ {g n id}, n.id = some id → g.nodes.get? id = none →
    R g { g with nodes := g.nodes.insert id n }

/-- A computation leads from each graph to one that is related to it, whether it succeeds or not. -/
def Leads {α : Type} (R : Graph → Graph → Prop) (e : Build α) : Prop :=
  ∀ g, Ends e g (fun _ g' => R g g') fun _ g' => R g g'

theorem Leads.state {α : Type} {R : Graph → Graph → Prop} {e : Build α} (h : Leads R e) (g : Graph) :
    R g (e g).2 := Ends.state (h g)

namespace Grows

variable {α β : Type} {R : Graph → Graph → Prop} {e : Build α} {k : α → Build β} (h : Grows R)
include h

theorem pure (a : α) : Leads R (Pure.pure a : Build α) := fun _ => h.of_nodes rfl

theorem bind (h_e : Leads R e) (h_next : ∀ a, Leads R (k a)) : Leads R (e >>= k) := by
  intro g
  rw [ends_bind]
  refine (h_e g).mono (fun a g' h_g' => ?_) fun _ _ h_bad => h_bad
  exact (h_next a g').mono (fun _ _ => h.trans h_g') fun _ _ => h.trans h_g'

theorem unchanged (h_nodes : ∀ g, Ends e g (fun _ g' => g'.nodes = g.nodes)
    fun _ g' => g'.nodes = g.nodes) : Leads R e :=
  fun g => (h_nodes g).mono (fun _ _ => h.of_nodes) fun _ _ => h.of_nodes

theorem fieldOf (i : Identity) (spec : Config.FieldSpec) : Leads R (fieldOf i spec) := by
  refine h.unchanged fun g => ?_
  rw [Graph.fieldOf]
  split <;> exact rfl

theorem charsetOf (i : Identity) : Leads R (charsetOf i) := by
  refine h.unchanged fun g => ?_
  rw [Graph.charsetOf, ends_bind, ends_get]
  split <;> exact rfl

theorem name (id : String) : Leads R (name id) := h.unchanged fun _ => rfl

theorem freshKey : Leads R freshKey := h.unchanged fun _ => rfl

theorem declareCharset (id chars : String) : Leads R (declareCharset id chars) := by
  refine h.unchanged fun g => ?_
  rw [Graph.declareCharset, ends_bind, ends_get]
  split <;> exact rfl

theorem declareCharsets : ∀ es, Leads R (declareCharsets es)
  | [] => h.pure ()
  | (id, chars) :: rest => by
    rw [Graph.declareCharsets]
    exact h.bind (h.declareCharset id chars) fun _ => declareCharsets rest

/-- **An id is given to one node only.** -/
theorem register (n : Node) : Leads R (register n) := by
  intro g
  rw [Graph.register]
  cases h_id : n.id with
  | none => exact h.of_nodes rfl
  | some id =>
    simp only [ends_bind, ends_get]
    split
    · exact h.of_nodes rfl
    · next h_free =>
      refine h.insert h_id ?_
      cases h_get : g.nodes.get? id with
      | none => rfl
      | some n' => exact absurd (Dict.contains_iff.2 ⟨n', h_get⟩) h_free

mutual

/-- **Building a node.** -/
theorem build (above : Option Identity) : ∀ x, Leads R (build above x)
  | .mk id charset kind => by
    rw [Graph.build]
    exact h.bind (buildKind (identityOf above id charset) kind) fun _ =>
      h.bind h.freshKey fun _ => h.bind (h.register _) fun _ => h.pure _

theorem buildKind (i : Identity) : ∀ k, Leads R (buildKind i k)
  | .constant value => by
    rw [Graph.buildKind]
    exact h.pure _
  | .field spec => by
    rw [Graph.buildKind]
    exact h.bind (h.fieldOf i spec) fun _ => h.bind (h.charsetOf i) fun _ => h.pure _
  | .combined parts separator => by
    rw [Graph.buildKind]
    exact h.bind (buildParts i parts) fun _ => h.pure _
  | .optional child rule => by
    rw [Graph.buildKind]
    refine h.bind (buildLink i child) fun link => ?_
    cases rule with
    | fixed always => exact h.pure _
    | whenPresent id => exact h.bind (h.name id) fun _ => h.pure _
  | .source child => by
    rw [Graph.buildKind]
    exact h.bind (buildLink i child) fun _ => h.pure _

theorem buildLink (i : Identity) : ∀ c, Leads R (buildLink i c)
  | .reference id => by
    rw [Graph.buildLink]
    exact h.bind (h.name id) fun _ => h.pure _
  | .embedded x => by
    rw [Graph.buildLink]
    exact h.bind (build (some i) x) fun _ => h.pure _

theorem buildParts (i : Identity) : ∀ cs, Leads R (buildParts i cs)
  | [] => by
    rw [Graph.buildParts]
    exact h.pure _
  | c :: cs => by
    rw [Graph.buildParts]
    refine h.bind (buildLink i c) fun _ => ?_
    exact h.bind (buildParts i cs) fun _ => h.pure _

end

theorem buildRoots : ∀ cs, Leads R (buildRoots cs)
  | [] => h.pure _
  | c :: cs => by
    rw [Graph.buildRoots]
    refine h.bind (h.build none c) fun n => ?_
    split
    · exact fun g => h.of_nodes rfl
    · exact h.bind (buildRoots cs) fun _ => h.pure _

theorem buildConfig (c : Config) : Leads R (buildConfig c) := by
  rw [Graph.buildConfig]
  refine h.bind (h.declareCharsets c.charsets.entries) fun _ => ?_
  refine h.bind (h.buildRoots c.constraints) fun _ => ?_
  refine h.unchanged fun g => ?_
  rw [ends_bind, ends_get]
  split <;> exact rfl

end Grows

/-! ### Nothing is lost -/

/-- What is registered in a graph is registered in another one, under the same ids. -/
def Within (g g' : Graph) : Prop := ∀ id n, g.nodes.get? id = some n → g'.nodes.get? id = some n

namespace Within

theorem refl (g : Graph) : g.Within g := fun _ _ => id

theorem trans (h : g.Within g') (h' : g'.Within g'') : g.Within g'' :=
  fun id n h_get => h' id n (h id n h_get)

theorem of_nodes (h : g'.nodes = g.nodes) : g.Within g' := by
  intro id n h_get
  rw [h]
  exact h_get

/-- Nodes inside registered ones are held on to as well. -/
theorem holds (h : g.Within g') {n : Node} (h_n : g.Holds n) : g'.Holds n := by
  obtain ⟨id, t, h_get, h_inside⟩ := h_n
  exact ⟨id, t, h id t h_get, h_inside⟩

theorem insert {n : Node} {id : String} (h_free : g.nodes.get? id = none) :
    g.Within { g with nodes := g.nodes.insert id n } := by
  -- whoever is registered has another id
  intro id' n' h_get
  have h_ne : id' ≠ id := by
    rintro rfl
    cases h_free.symm.trans h_get
  exact (Dict.get?_insert _ _ _ _).trans ((if_neg h_ne).trans h_get)

theorem grows : Grows Within := ⟨of_nodes, trans, fun _ => insert⟩

end Within

/-- A computation loses nothing that is registered, whether it succeeds or not. -/
def Preserves {α : Type} (e : Build α) : Prop :=
  ∀ g, Ends e g (fun _ g' => g.Within g') fun _ g' => g.Within g'

namespace Preserves

theorem state {α : Type} {e : Build α} (h : Preserves e) (g : Graph) : g.Within (e g).2 :=
  Ends.state (h g)

theorem register (n : Node) : Preserves (register n) := Within.grows.register n

/-- **Building a node** loses nothing. -/
theorem build (above : Option Identity) (x : Config.Constraint) : Preserves (build above x) :=
  Within.grows.build above x

theorem declareCharset (id chars : String) : Preserves (declareCharset id chars) :=
  Within.grows.declareCharset id chars

theorem buildConfig (c : Config) : Preserves (buildConfig c) := Within.grows.buildConfig c

end Preserves

/-! ### Own ids -/

/-- Each node is registered under its own id. -/
def Named (g : Graph) : Prop := ∀ id n, g.nodes.get? id = some n → n.id = some id

theorem named_empty (charsets : CharacterSets) : (empty charsets).Named := by
  intro id n h_get
  simp [empty] at h_get

/-- Whatever is built, nodes are registered under their own ids only. -/
theorem named_grows : Grows fun g g' => g.Named → g'.Named where
  of_nodes h_nodes h_g id n h_get := h_g id n (h_nodes ▸ h_get)
  trans h h' h_g := h' (h h_g)
  insert h_id _ h_g id' n' h_get := by
    rw [Dict.get?_insert] at h_get
    split at h_get
    · next h_eq =>
      cases h_get
      exact h_eq ▸ h_id
    · exact h_g id' n' h_get

end Graph

end Specimen
