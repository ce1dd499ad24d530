import Specimen.Graph
import Specimen.Proofs.Dict
import Specimen.Proofs.Node.Guard

/-!
# Graphs whose nodes are told apart

A graph holds the nodes that are registered in it and those embedded in them. What matters of a
graph whose references may lead anywhere, in circles or to nothing, is that no two of the nodes have
the same key (`Graph.Coherent`). Building keeps this up, whether it succeeds or fails half way
(`Graph.Keeps`), and so does registering a node that was built elsewhere
(`Graph.Admits.coherent_register`).
-/

namespace Specimen

namespace Graph

/-- A node is registered in a graph, or embedded in one that is. -/
def Holds (g : Graph) (n : Node) : Prop := ∃ id t, g.nodes.get? id = some t ∧ t.Inside n

/-- The nodes that a graph holds and those of a set are told apart by their keys, which are below
the size of the graph. -/
structure Admits (g : Graph) (New : Node → Prop) : Prop where
  key_lt : ∀ n, g.Holds n ∨ New n → n.key < g.size
  eq_of_key_eq : ∀ n n', g.Holds n ∨ New n → g.Holds n' ∨ New n' → n.key = n'.key → n = n'

/-- The nodes that a graph holds are told apart by their keys, which are below its size. -/
abbrev Coherent (g : Graph) : Prop := g.Admits fun _ => False

variable {g g' : Graph} {New New' : Node → Prop}

theorem empty_coherent (charsets : CharacterSets) : (empty charsets).Coherent := by
  -- there is nothing to tell apart
  have h_none : ∀ n, ¬ ((empty charsets).Holds n ∨ False) := by
    rintro n (⟨id, t, h_get, -⟩ | h)
    · simp [empty] at h_get
    · exact h
  exact ⟨fun n h => (h_none n h).elim, fun n _ h => (h_none n h).elim⟩

namespace Admits

theorem mono (h : g.Admits New) (h_new : ∀ n, New' n → g.Holds n ∨ New n) : g.Admits New' := by
  have h_all : ∀ n, g.Holds n ∨ New' n → g.Holds n ∨ New n := fun n => Or.rec .inl (h_new n)
  exact ⟨fun n h_n => h.key_lt n (h_all n h_n),
    fun n n' h_n h_n' => h.eq_of_key_eq n n' (h_all n h_n) (h_all n' h_n')⟩

/-- Graphs with the same nodes hold the same. -/
theorem of_nodes (h : g.Admits New) (h_nodes : g'.nodes = g.nodes) (h_size : g.size ≤ g'.size) :
    g'.Admits New := by
  have h_holds : ∀ n, g'.Holds n ↔ g.Holds n := fun n => by rw [Holds, Holds, h_nodes]
  refine ⟨fun n h_n => ?_, fun n n' h_n h_n' => ?_⟩
  · rw [h_holds] at h_n
    exact Nat.lt_of_lt_of_le (h.key_lt n h_n) h_size
  · rw [h_holds] at h_n h_n'
    exact h.eq_of_key_eq n n' h_n h_n'

/-- A node with the next key comes in, after those inside it. -/
theorem insertKey {k : NodeKind} {i : Identity}
    (h : g.Admits fun n => New n ∨ ∃ l ∈ k.links, l.Inside n) :
    { g with size := g.size + 1 }.Admits fun n => New n ∨ (Node.mk g.size i k).Inside n := by
  -- whatever is not the new node was there before, with a smaller key
  have h_cases : ∀ n, { g with size := g.size + 1 }.Holds n ∨ New n ∨
      (Node.mk g.size i k).Inside n → n = Node.mk g.size i k ∨
        (g.Holds n ∨ New n ∨ ∃ l ∈ k.links, l.Inside n) := by
    rintro n (h_n | h_n | h_n)
    · exact .inr (.inl h_n)
    · exact .inr (.inr (.inl h_n))
    · rcases Node.inside_iff.1 h_n with rfl | h_part
      · exact .inl rfl
      · exact .inr (.inr (.inr h_part))
  refine ⟨fun n h_n => ?_, fun n n' h_n h_n' h_key => ?_⟩
  · rcases h_cases n h_n with rfl | h_old
    · exact Nat.lt_succ_self _
    · exact Nat.lt_succ_of_lt (h.key_lt n h_old)
  · rcases h_cases n h_n with rfl | h_old <;> rcases h_cases n' h_n' with rfl | h_old'
    · rfl
    · exact absurd h_key.symm (Nat.ne_of_lt (h.key_lt n' h_old'))
    · exact absurd h_key (Nat.ne_of_lt (h.key_lt n h_old))
    · exact h.eq_of_key_eq n n' h_old h_old' h_key

/-- A node of the set takes an id. -/
theorem insert {n : Node} (h : g.Admits New) (h_n : ∀ n', n.Inside n' → g.Holds n' ∨ New n')
    (id : String) : { g with nodes := g.nodes.insert id n }.Admits New := by
  -- what is held now was held before, or is inside the node
  have h_holds : ∀ n', { g with nodes := g.nodes.insert id n }.Holds n' → g.Holds n' ∨ New n' := by
    rintro n' ⟨id', t, h_get, h_inside⟩
    rw [Dict.get?_insert] at h_get
    split at h_get
    · obtain rfl := Option.some.inj h_get
      exact h_n n' h_inside
    · exact .inl ⟨id', t, h_get, h_inside⟩
  exact ⟨fun n' h_n' => h.key_lt n' (h_n'.elim (h_holds n') .inr),
    fun a b h_a h_b => h.eq_of_key_eq a b (h_a.elim (h_holds a) .inr) (h_b.elim (h_holds b) .inr)⟩

end Admits

/-- A node is registered under its id, if it has one, or its id is taken. -/
theorem ends_register_nodes (n : Node) (g : Graph) : Ends (register n) g
    (fun _ g' => g' = g ∨ ∃ id, n.id = some id ∧ g' = { g with nodes := g.nodes.insert id n })
    fun _ g' => g' = g := by
  rw [register]
  cases h_id : n.id with
  | none => exact .inl rfl
  | some id =>
    simp only [ends_bind, ends_get]
    split
    · exact rfl
    · exact .inr ⟨id, rfl, rfl⟩

/-! ### Building -/

/-- Building keeps nodes apart, whether it succeeds or not. On success the nodes that were built are
among them. -/
def Keeps {α : Type} (e : Build α) (Built : α → Node → Prop) : Prop :=
  ∀ (g : Graph) New, g.Admits New → Ends e g
    (fun a g' => g'.Admits fun n => New n ∨ Built a n) fun _ g' => g'.Admits New

namespace Keeps

variable {α β : Type} {e : Build α} {k : α → Build β} {Built : α → Node → Prop}
  {Built' : β → Node → Prop}

/-- What builds no node keeps apart those there are. -/
theorem of_nodes (h : ∀ g, Ends e g (fun _ g' => g'.nodes = g.nodes ∧ g.size ≤ g'.size)
    fun _ g' => g'.nodes = g.nodes ∧ g.size ≤ g'.size) : Keeps e fun _ _ => False := by
  intro g New h_g
  refine (h g).mono (fun a g' h_g' => ?_) fun f g' h_g' => h_g.of_nodes h_g'.1 h_g'.2
  exact (h_g.of_nodes h_g'.1 h_g'.2).mono fun n => Or.rec .inr False.elim

/-- What is built later comes to what was built before. -/
theorem bind (h : Keeps e Built) (h_next : ∀ a (g : Graph) New,
    g.Admits (fun n => New n ∨ Built a n) → Ends (k a) g
      (fun b g' => g'.Admits fun n => New n ∨ Built' b n) fun _ g' => g'.Admits New) :
    Keeps (e >>= k) Built' := by
  intro g New h_g
  rw [ends_bind]
  exact (h g New h_g).mono (fun a g' h_g' => h_next a g' New h_g') fun _ _ h_bad => h_bad

/-- What comes after something that builds no node. -/
theorem after (h : Keeps e fun _ _ => False) (h_next : ∀ a, Keeps (k a) Built') :
    Keeps (e >>= k) Built' :=
  h.bind fun a g _ h_g => h_next a g _ (h_g.mono fun _ h_n => .inr (.inl h_n))

/-- Something is made of what was built. -/
theorem map {k : α → β} (h : Keeps e Built) (h_built : ∀ a n, Built' (k a) n → Built a n) :
    Keeps (e >>= fun a => pure (k a)) Built' :=
  h.bind fun a _ _ h_g => h_g.mono fun n => Or.rec (.inr ∘ .inl) (.inr ∘ .inr ∘ h_built a n)

theorem fieldOf (i : Identity) (spec : Config.FieldSpec) :
    Keeps (fieldOf i spec) fun _ _ => False := by
  refine of_nodes fun g => ?_
  rw [Graph.fieldOf]
  split <;> exact ⟨rfl, Nat.le_refl _⟩

theorem charsetOf (i : Identity) : Keeps (charsetOf i) fun _ _ => False := by
  refine of_nodes fun g => ?_
  rw [Graph.charsetOf, ends_bind, ends_get]
  split <;> exact ⟨rfl, Nat.le_refl _⟩

theorem name (id : String) : Keeps (name id) fun _ _ => False :=
  of_nodes fun _ => ⟨rfl, Nat.le_refl _⟩

theorem declareCharset (id chars : String) : Keeps (declareCharset id chars) fun _ _ => False := by
  refine of_nodes fun g => ?_
  rw [Graph.declareCharset, ends_bind, ends_get]
  split <;> exact ⟨rfl, Nat.le_refl _⟩

theorem declareCharsets : ∀ es, Keeps (declareCharsets es) fun _ _ => False
  | [] => of_nodes fun _ => ⟨rfl, Nat.le_refl _⟩
  | (id, chars) :: rest => by
    rw [Graph.declareCharsets]
    exact (declareCharset id chars).after fun _ => declareCharsets rest

mutual

/-- **Building a node.** -/
theorem build (above : Option Identity) : ∀ x, Keeps (build above x) Node.Inside
  | .mk id charset kind => by
    rw [Graph.build]
    refine (buildKind (identityOf above id charset) kind).bind fun k g New h_g => ?_
    rw [ends_bind, freshKey]
    simp only [ends_bind, ends_get, ends_set, ends_pure]
    -- from here on the node itself is there, and is registered if its id is free
    have h_node := h_g.insertKey (i := identityOf above id charset)
    refine (ends_register_nodes _ _).mono ?_ ?_
    · rintro _ g' (rfl | ⟨id', -, rfl⟩)
      · exact h_node
      · exact h_node.insert (fun n' h_n' => .inr (.inr h_n')) id'
    · rintro f g' rfl
      exact h_node.mono fun n h_n => .inr (.inl h_n)

theorem buildKind (i : Identity) : ∀ k,
    Keeps (buildKind i k) fun k' n => ∃ l ∈ k'.links, l.Inside n
  | .constant value => by
    rw [Graph.buildKind]
    exact fun g New h_g => h_g.mono fun n h_n => .inr (by simpa [NodeKind.links] using h_n)
  | .field spec => by
    rw [Graph.buildKind]
    refine (fieldOf i spec).after fun f => (charsetOf i).map fun set n h_n => ?_
    simp [NodeKind.links] at h_n
  | .combined parts separator => by
    rw [Graph.buildKind]
    exact (buildParts i parts).map fun _ _ h_n => h_n
  | .optional child rule => by
    rw [Graph.buildKind]
    refine (buildLink i child).bind fun link g New h_g => ?_
    have h_last : g.Admits fun n => New n ∨ ∃ l ∈ (NodeKind.optional link rule).links, l.Inside n :=
      h_g.mono fun n h_n => .inr (by simpa [NodeKind.links] using h_n)
    cases rule with
    | fixed always => exact h_last
    | whenPresent id => exact h_last.of_nodes rfl (Nat.le_refl _)
  | .source child => by
    rw [Graph.buildKind]
    exact (buildLink i child).map fun link n h_n => by simpa [NodeKind.links] using h_n

theorem buildLink (i : Identity) : ∀ c, Keeps (buildLink i c) Link.Inside
  | .reference id => by
    rw [Graph.buildLink]
    exact (name id).map fun _ _ h_n => h_n
  | .embedded x => by
    rw [Graph.buildLink]
    exact (build (some i) x).map fun _ _ h_n => h_n

theorem buildParts (i : Identity) : ∀ cs,
    Keeps (buildParts i cs) fun ls n => ∃ l ∈ ls, l.Inside n
  | [] => by
    rw [Graph.buildParts]
    exact fun g New h_g => h_g.mono fun n h_n => .inr (by simpa using h_n)
  | c :: cs => by
    rw [Graph.buildParts]
    refine (buildLink i c).bind fun link g New h_g => ?_
    rw [ends_bind]
    -- the parts behind it are kept apart from it, too
    refine (buildParts i cs g _ h_g).mono (fun links g' h_g' => ?_) fun f g' h_g' => ?_
    · exact h_g'.mono fun n h_n => .inr (by simpa [or_assoc] using h_n)
    · exact h_g'.mono fun n h_n => .inr (.inl h_n)

end

theorem buildRoots : ∀ cs, Keeps (buildRoots cs) fun _ _ => False
  | [] => of_nodes fun _ => ⟨rfl, Nat.le_refl _⟩
  | c :: cs => by
    rw [Graph.buildRoots]
    refine (build none c).bind fun n g New h_g => ?_
    have h_g : g.Admits New := h_g.mono fun n h_n => .inr (.inl h_n)
    split
    · exact h_g
    · rw [ends_bind]
      exact buildRoots cs g New h_g

theorem buildConfig (c : Config) : Keeps (buildConfig c) fun _ _ => False := by
  rw [Graph.buildConfig]
  refine (declareCharsets c.charsets.entries).after fun _ =>
    (buildRoots c.constraints).after fun _ => ?_
  refine of_nodes fun g => ?_
  rw [ends_bind, ends_get]
  split <;> exact ⟨rfl, Nat.le_refl _⟩

end Keeps

/-- Building in a coherent graph leaves a coherent graph, even if it fails half way. -/
theorem Coherent.of_keeps {α : Type} {e : Build α} {Built : α → Node → Prop} (h : Keeps e Built)
    (h_g : g.Coherent) : (e g).2.Coherent := by
  refine Ends.state ((h g _ h_g).mono (fun a g' h_g' => ?_) fun _ _ h_bad => h_bad)
  exact h_g'.mono fun n h_n => h_n.elim

/-- A node that comes in from outside is told apart from the others when it was registered, if it
was before. -/
theorem Admits.coherent_register {n : Node} {size : Nat}
    (h : { g with size := size }.Admits n.Inside) :
    { (register n g).2 with size := size }.Coherent := by
  have h_coherent : { g with size := size }.Coherent := h.mono fun _ => False.elim
  refine Ends.state (P := fun g' : Graph => { g' with size := size }.Coherent)
    ((ends_register_nodes n g).mono ?_ ?_)
  · rintro _ g' (rfl | ⟨id, -, rfl⟩)
    · exact h_coherent
    · exact (h.insert (fun n' h_n' => .inr h_n') id).mono fun _ => False.elim
  · rintro _ g' rfl
    exact h_coherent

/-- A node that is built apart from a graph can be told apart from the nodes of the graph. -/
theorem Coherent.admits_built (h : g.Coherent) {above : Option Identity} {x : Config.Constraint}
    {n : Node} (h_n : build above x g.apart = (.ok n, g')) :
    { g with size := g'.size }.Admits n.Inside := by
  -- the graph apart holds nothing, and its next key is above those of the graph
  have h_apart : g.apart.Admits g.Holds := by
    have h_none : ∀ n, ¬ g.apart.Holds n := by
      rintro n ⟨id, t, h_get, -⟩
      simp [apart] at h_get
    have h_held : ∀ n, g.apart.Holds n ∨ g.Holds n → g.Holds n ∨ False :=
      fun n h_n => .inl (h_n.resolve_left (h_none n))
    exact ⟨fun n h_n => h.key_lt n (h_held n h_n),
      fun n n' h_n h_n' => h.eq_of_key_eq n n' (h_held n h_n) (h_held n' h_n')⟩
  have h_built := ((Keeps.build above x) g.apart g.Holds h_apart).of_ok h_n
  exact ⟨fun m h_m => h_built.key_lt m (.inr h_m),
    fun m m' h_m h_m' => h_built.eq_of_key_eq m m' (.inr h_m) (.inr h_m')⟩

/-! ### What is inside the nodes -/

theorem Holds.inside {n k : Node} (h : g.Holds n) (h_inside : n.Inside k) : g.Holds k := by
  obtain ⟨id, t, h_get, h_n⟩ := h
  exact ⟨id, t, h_get, h_n.trans h_inside⟩

/-- Among nodes that are told apart, the keys of a node are those of the nodes inside it. -/
theorem Coherent.mem_keys_iff {n k : Node} (h : g.Coherent) (h_n : g.Holds n) (h_k : g.Holds k) :
    k.key ∈ n.keys ↔ n.Inside k := by
  refine ⟨fun h_key => ?_, Node.mem_keys_of_inside⟩
  obtain ⟨p, m, h_m, h_eq⟩ := (n.mem_keys_iff k.key).1 h_key
  obtain rfl := h.eq_of_key_eq m k (.inl (h_n.inside ⟨p, h_m⟩)) (.inl h_k) h_eq
  exact ⟨p, h_m⟩

/-! ### What nodes may ask -/

/-- The nodes that a graph holds ask only such as it holds. -/
theorem holds_closed (g : Graph) (ignoreOptional : Bool) :
    Scope.Closed ⟨g.nodes, ignoreOptional⟩ g.Holds := by
  -- a reference and a rule lead to what is registered, an embedded part stands inside the node
  rintro n n' ⟨id, t, h_get, h_inside⟩ (⟨_ | m, h_link, h_target⟩ | ⟨id', -, h_get'⟩)
  · exact ⟨_, n', h_target, n'.inside_self⟩
  · obtain rfl : m = n' := Option.some.inj h_target
    obtain ⟨p, h_p⟩ := h_inside
    obtain ⟨i, h_i⟩ := List.getElem?_of_mem h_link
    exact ⟨id, t, h_get, p ++ [i], (Node.at?_append h_p).2
      (Node.at?_cons.2 ⟨m, h_i, m.at?_nil⟩)⟩
  · exact ⟨id', n', h_get', n'.inside_self⟩

end Graph

end Specimen
