import Specimen.Proofs.Config.Width
import Specimen.Proofs.Generator.Containing
import Specimen.Proofs.Generator.Midway
import Specimen.Proofs.Generator.Requests
import Specimen.Proofs.Graph.Growth
import Specimen.Proofs.Node.Saturation

/-!
# Counts of a generator

In a session every root is registered, whatever was built in between and failed
(`Generator.Session.exists_root`). So the number of cases of the generator is the greatest of what
is counted for its roots, and what is counted for a node that leads to no circle is the number of
its cases without limit, or the greatest number of 64 bits
(`Generator.Session.countCases_exact`).

No node of a configuration leads to a circle, so its roots are always counted
(`Generator.Represents.exists_greatestCount`).
-/

namespace Specimen

/-- A node that is registered is found under its id. -/
theorem Graph.get?_of_register {g g' : Graph} {n : Node} {id : String} {u : Unit}
    (h : Graph.register n g = (.ok u, g')) (h_id : n.id = some id) :
    g'.nodes.get? id = some n := by
  have h_ends : Ends (Graph.register n) g (fun _ g' => g'.nodes.get? id = some n)
      fun _ _ => True := by
    rw [Graph.register, h_id]
    simp only [ends_bind, ends_get]
    split
    · exact trivial
    · exact Dict.get?_insert_self _ _ _
  exact h_ends.of_ok h

namespace Generator

variable {g : Generator} {m : Memory} {id : String} {n : Node}

/-- Every root has a node. -/
def RootsRegistered (g : Generator) : Prop := ∀ id ∈ g.roots, ∃ n, g.graph.nodes.get? id = some n

/-- Where nothing gets lost, roots keep their nodes. -/
theorem RootsRegistered.within {graph : Graph} (h : g.RootsRegistered)
    (h_within : g.graph.Within graph) : RootsRegistered { g with graph } := by
  intro id h_id
  obtain ⟨n, h_get⟩ := h id h_id
  exact ⟨n, h_within id n h_get⟩

theorem RootsRegistered.ofConfig {c : Config} {o : GeneratorOptions} {random : UInt64}
    (h : Generator.ofConfig c o random = .ok g) : g.RootsRegistered := by
  obtain ⟨⟨tops, h_of⟩, -⟩ := ofConfig_represents h
  intro id h_id
  have h_top : some id ∈ tops.map Node.id := h_of.roots ▸ List.mem_map_of_mem h_id
  obtain ⟨t, h_t, h_t_id⟩ := List.mem_map.1 h_top
  exact ⟨t, (h_of.registered id t).2 ⟨⟨t, h_t, t.inside_self⟩, h_t_id⟩⟩

/-- A root that is added is registered, and those before it stay so. -/
theorem RootsRegistered.addRoot {g' : Generator} {size : Nat} (h : g.RootsRegistered)
    (h_added : g.addRoot n size = .ok g') : g'.RootsRegistered := by
  have h_within := (Graph.Preserves.register n).state g.graph
  unfold Generator.addRoot at h_added
  split at h_added
  · cases h_added
  · next id h_id =>
    split at h_added
    · next graph h_register =>
      cases h_added
      have h_graph : (Graph.register n g.graph).2 = graph := congrArg Prod.snd h_register
      rw [h_graph] at h_within
      intro id' h_id'
      rcases List.mem_append.1 h_id' with h_old | h_new
      · exact h.within h_within id' h_old
      · rw [List.mem_singleton.1 h_new]
        have h_get := Graph.get?_of_register h_register h_id
        exact ⟨n, h_get⟩
    · cases h_added

namespace Session

/-- **Roots.** In a session every root has a node. -/
theorem exists_root (h : g.Session m) : g.RootsRegistered := by
  induction h with
  | empty o random draws => exact fun _ h_id => absurd h_id List.not_mem_nil
  | ofConfig h draws => exact .ofConfig h
  | build _ above x ih => exact ih.within ((Graph.Preserves.build above x).state _)
  | buildConfig _ c ih => exact ih.within ((Graph.Preserves.buildConfig c).state _)
  | declareCharset _ id chars ih =>
    exact ih.within ((Graph.Preserves.declareCharset id chars).state _)
  | @register g m _ n size _ ih =>
    exact ih.within fun id n' h_get => (Graph.Preserves.register n).state g.graph id n' h_get
  | addRoot _ _ h_added ih => exact ih.addRoot h_added
  | request _ _ ih => exact ih
  | act _ _ ih => exact ih

end Session

/-- The cases of a node that leads to no circle are counted, and nothing is changed by it. -/
theorem exists_nodeCount (h_graph : g.graph.Coherent) (h_resolves : g.graph.Resolves)
    (h_quiet : m.Quiet) (h_n : g.graph.Holds n) (h_none : ¬ g.scope.LeadsToCircle n) :
    ∃ k m', g.scope.HasCases n k ∧ g.nodeCount n m = (.ok (saturated k), m') ∧ m.Same m' := by
  have h_fuel : g.graph.size < g.fuel := Nat.lt_succ_self _
  obtain ⟨k, m', h_k, h_count⟩ := Node.exists_countCases g.scope_closed
    (fun n h_n => h_graph.key_lt n (.inl h_n)) h_fuel
    (fun n n' h_n h_n' => h_graph.eq_of_key_eq n n' (.inl h_n) (.inl h_n'))
    (fun n link h_n h_link => h_resolves.exists_target h_n h_link g.ignoreOptional) h_n
    (fun key => (h_quiet key).2) h_none
  have h_same := (Runs.walk h_graph (Node.countCases_walks g.scope g.fuel) h_n).same h_quiet
  rw [h_count] at h_same
  exact ⟨k, m', h_k, h_count, h_same⟩

/-- Roots are counted one after the other, and the greatest number is kept. -/
theorem exists_countCases_go (h_graph : g.graph.Coherent) (h_resolves : g.graph.Resolves)
    (ids : List String) (h_ids : ∀ id ∈ ids, ∃ n, g.graph.nodes.get? id = some n ∧
      ¬ g.scope.LeadsToCircle n) {exact : String → Nat}
    (h_exact : ∀ id ∈ ids, ∀ n, g.graph.nodes.get? id = some n → g.scope.HasCases n (exact id))
    (most : Nat) (h_quiet : m.Quiet) : ∃ m', countCases.go g most ids m =
      (.ok (max most ((ids.map fun id => saturated (exact id)).foldr max 0)), m') := by
  induction ids generalizing most m with
  | nil => exact ⟨m, by rw [countCases.go, List.map_nil, List.foldr_nil, Nat.max_zero]; rfl⟩
  | cons id ids ih =>
    obtain ⟨⟨n, h_get, h_none⟩, h_rest⟩ := List.forall_mem_cons.1 h_ids
    obtain ⟨h_first, h_others⟩ := List.forall_mem_cons.1 h_exact
    obtain ⟨k, m', h_k, h_count, h_same⟩ := exists_nodeCount h_graph h_resolves h_quiet
      ⟨id, n, h_get, n.inside_self⟩ h_none
    obtain rfl := h_k.unique (h_first n h_get)
    rw [countCases.go, find_eq h_get, pure_bind, bind_of_ok h_count]
    obtain ⟨m'', h_go⟩ := ih h_rest h_others (max most (saturated (exact id)))
      (h_same.quiet h_quiet)
    refine ⟨m'', h_go.trans ?_⟩
    rw [List.map_cons, List.foldr_cons, Nat.max_assoc]

namespace Represents

variable {c : Config} {tops : List Node} (h : g.Represents c tops)
include h

/-- No node of a configuration leads to a circle. -/
theorem not_leadsToCircle (h_n : Member tops n) : ¬ g.scope.LeadsToCircle n := by
  obtain ⟨rank, -, h_ordered, -⟩ := h.exists_ordered
  exact h_ordered.not_leadsToCircle h_n

/-- The cases of every node of a configuration are counted. -/
theorem exists_nodeCount (h_n : Member tops n) (h_quiet : m.Quiet) :
    ∃ k m', g.scope.HasCases n k ∧ g.nodeCount n m = (.ok (saturated k), m') ∧ m.Same m' :=
  Generator.exists_nodeCount h.graph_mirrors.coherent h.graph_mirrors.resolves h_quiet
    (h.graph_mirrors.holds_iff.2 h_n) (h.not_leadsToCircle h_n)

/-- **Counting the cases of all roots** finds the greatest number of one of them. -/
theorem exists_greatestCount (h_quiet : m.Quiet) : ∃ count m', g.countCases m = (.ok count, m') ∧
    ∀ i, i < count ↔ ∃ t ∈ tops, ∃ k, g.scope.HasCases t k ∧ i < saturated k := by
  have h_each : ∀ id, ∃ k, ∀ n, g.graph.nodes.get? id = some n → g.scope.HasCases n k := by
    intro id
    cases h_get : g.graph.nodes.get? id with
    | none => exact ⟨0, nofun⟩
    | some n =>
      obtain ⟨k, -, h_k, -⟩ := h.exists_nodeCount (h.get?_iff.1 h_get).1 h_quiet
      exact ⟨k, fun n' h_n' => Option.some.inj h_n' ▸ h_k⟩
  -- One exact count for each identifier, so that the machine count can be read as a maximum.
  choose exact h_exact using h_each
  obtain ⟨m', h_count⟩ := exists_countCases_go h.graph_mirrors.coherent h.graph_mirrors.resolves
    g.roots (fun id h_id => by
      obtain ⟨n, h_n, h_get, -⟩ := h.get?_root h_id
      exact ⟨n, h_get, h.not_leadsToCircle (member_iff.2 ⟨n, h_n, n.inside_self⟩)⟩)
    (fun id _ => h_exact id) 0 h_quiet
  refine ⟨_, m', h_count, fun i => ?_⟩
  rw [Nat.zero_max, Config.lt_foldr_max_iff]
  simp only [List.mem_map, exists_exists_and_eq_and]
  constructor
  · rintro ⟨id, h_id, h_lt⟩
    obtain ⟨n, h_n, h_get, -⟩ := h.get?_root h_id
    exact ⟨n, h_n, exact id, h_exact id n h_get, h_lt⟩
  · rintro ⟨t, h_t, k, h_k, h_lt⟩
    have h_root : t.id ∈ g.roots.map some := h.roots ▸ List.mem_map_of_mem h_t
    obtain ⟨id, h_id, h_t_id⟩ := List.mem_map.1 h_root
    have h_get := h.get?_iff.2 ⟨member_iff.2 ⟨t, h_t, t.inside_self⟩, h_t_id.symm⟩
    rw [h_k.unique (h_exact id t h_get)] at h_lt
    exact ⟨id, h_id, h_lt⟩

end Represents

/-- **Cases are counted faithfully.** Take any graph of nodes all of whose references to parts lead
to a node, and any point of a session with it where the generator rests.

A node of the graph, registered or embedded in one that is, that does not lead to a circle of parts
has one number of cases without limit, however deep it is nested and however many paths lead to one
node. What is counted for it is this number or, if that is greater, the greatest one of 64 bits. If
no root leads to a circle, the number of the generator is the greatest of those of its roots. -/
theorem Session.countCases_exact (h : g.Session m) (h_resolves : g.graph.Resolves) :
    (∀ n, g.graph.Holds n → ¬ g.scope.LeadsToCircle n →
      ∃ k, g.scope.HasCases n k ∧ (∀ k', g.scope.HasCases n k' → k' = k) ∧
        ∃ m', g.nodeCount n m = (.ok (min (2 ^ 64 - 1) k), m')) ∧
    ((∀ id ∈ g.roots, ∀ n, g.graph.nodes.get? id = some n → ¬ g.scope.LeadsToCircle n) →
      ∃ exact : String → Nat,
        (∀ id ∈ g.roots, ∃ n, g.graph.nodes.get? id = some n ∧ g.scope.HasCases n (exact id) ∧
          ∃ m', g.nodeCount n m = (.ok (min (2 ^ 64 - 1) (exact id)), m')) ∧
        ∃ m', g.countCases m =
          (.ok ((g.roots.map fun id => min (2 ^ 64 - 1) (exact id)).foldr max 0), m')) := by
  obtain ⟨h_graph, h_quiet⟩ := h.coherent_quiet
  have h_roots := h.exists_root
  refine ⟨fun n h_n h_none => ?_, fun h_none => ?_⟩
  · obtain ⟨k, m', h_k, h_count, -⟩ := exists_nodeCount h_graph h_resolves h_quiet h_n h_none
    rw [saturated_eq_min] at h_count
    exact ⟨k, h_k, fun k' h_k' => h_k'.unique h_k, m', h_count⟩
  · have h_each : ∀ id, ∃ k, id ∈ g.roots → ∃ n, g.graph.nodes.get? id = some n ∧
        g.scope.HasCases n k ∧ ∃ m', g.nodeCount n m = (.ok (saturated k), m') := by
      intro id
      by_cases h_id : id ∈ g.roots
      · obtain ⟨n, h_get⟩ := h_roots id h_id
        obtain ⟨k, m', h_k, h_count, -⟩ := exists_nodeCount h_graph h_resolves h_quiet
          ⟨id, n, h_get, n.inside_self⟩ (h_none id h_id n h_get)
        exact ⟨k, fun _ => ⟨n, h_get, h_k, m', h_count⟩⟩
      · exact ⟨0, fun h_root => absurd h_root h_id⟩
    choose exact h_exact using h_each
    simp only [← saturated_eq_min]
    refine ⟨exact, h_exact, ?_⟩
    have h_go := exists_countCases_go h_graph h_resolves g.roots
      (fun id h_id => by
        obtain ⟨n, h_get⟩ := h_roots id h_id
        exact ⟨n, h_get, h_none id h_id n h_get⟩)
      (fun id h_id n h_get => by
        obtain ⟨n', h_get', h_k, -⟩ := h_exact id h_id
        exact Option.some.inj (h_get'.symm.trans h_get) ▸ h_k) 0 h_quiet
    rwa [Nat.zero_max] at h_go

/-! ### Around the greatest number -/

/-- A constraint below a number of optional ones. -/
def nested (x : Config.Constraint) : Nat → Config.Constraint
  | 0 => x
  | k + 1 => .mk none none (.optional (.embedded (nested x k)) (.fixed false))

/-- A constant below 63 optional constraints, as many as the numbers have room for, and an optional
copy of all that. -/
def doublings : Config where
  version := Config.supportedVersion
  seed := none
  charsets := .empty
  constraints := [
    .mk (some "deep") none
      (.optional (.embedded (nested (.mk none none (.constant "x")) 62)) (.fixed false)),
    .mk (some "deeper") none (.optional (.reference "deep") (.fixed false))]

/-- The copy has more cases than can be counted, so the greatest number is counted for it. -/
theorem Session.countCases_exact_doublings : ∃ g, Generator.ofConfig doublings {} 0 = .ok g ∧
    let m := g.freshMemory.withDraws default
    g.Session m ∧ g.graph.Resolves ∧ ∃ n k m', g.graph.Holds n ∧ ¬ g.scope.LeadsToCircle n ∧
      g.scope.HasCases n k ∧ 2 ^ 64 - 1 < k ∧ g.nodeCount n m = (.ok (2 ^ 64 - 1), m') := by
  have h_run : (Generator.ofConfig doublings {} 0).toOption.map (fun g =>
      (g.graph.nodes.get? "deep").bind fun n =>
        (g.nodeCount n (g.freshMemory.withDraws default)).1.toOption) =
      some (some (2 ^ 64 - 1)) := by decide +kernel
  obtain ⟨g, h_ok, h_g⟩ := exists_ok_of_map h_run
  obtain ⟨deep, h_deep, h_limit⟩ := Option.bind_eq_some_iff.1 h_g
  obtain ⟨⟨tops, h⟩, -⟩ := ofConfig_represents h_ok
  obtain ⟨n, -, -, h_n, h_kind⟩ :=
    h.exists_get?_top (List.mem_cons_of_mem _ List.mem_cons_self) rfl
  have h_session := Session.ofConfig h_ok default
  have h_resolves := h.graph_mirrors.resolves
  have h_exact := (Session.countCases_exact h_session h_resolves).1
  have h_holds : g.graph.Holds n := ⟨_, n, h_n, n.inside_self⟩
  have h_none := h.not_leadsToCircle (h.get?_iff.1 h_n).1
  obtain ⟨k, h_k, -, m', h_count⟩ := h_exact n h_holds h_none
  obtain ⟨below, h_below, -, m₁, h_count₁⟩ := h_exact deep ⟨_, deep, h_deep, deep.inside_self⟩
    (h.not_leadsToCircle (h.get?_iff.1 h_deep).1)
  -- the greatest number is counted for what is copied, so it has as many cases at least
  have h_great : min (2 ^ 64 - 1) below = 2 ^ 64 - 1 := by
    rw [h_count₁] at h_limit
    exact Option.some.inj h_limit
  have h_twice : k = 2 * below + 1 := by
    cases h_optional : n.kind with
    | optional link rule =>
      rw [h_optional] at h_kind
      cases h_kind with
      | optional h_link =>
        cases h_link
        exact h_k.unique (.optional h_optional h_deep h_below)
    | constant _ | field _ _ | combined _ _ | source _ =>
      rw [h_optional] at h_kind
      cases h_kind
  have h_more : 2 ^ 64 - 1 < k := by omega
  rw [Nat.min_eq_left (Nat.le_of_lt h_more)] at h_count
  exact ⟨g, h_ok, h_session, h_resolves, n, k, m', h_holds, h_none, h_k, h_more, h_count⟩

end Generator

end Specimen
