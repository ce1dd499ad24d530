import Specimen.Proofs.Generator.Session
import Specimen.Proofs.Graph.Origin
import Specimen.Proofs.Node.Circles

/-!
# Contained ids

The ids that a registered id contains are those that are reached from its node through parts, if
all references to parts lead to a node. A request for them fails just where parts lead in a circle;
that many paths lead to one node is no circle, and the node is counted once
(`Generator.Session.containedIds_eq_reached`).
-/

namespace Specimen

/-- All references to parts lead to a registered node. -/
def Graph.Resolves (g : Graph) : Prop :=
  ∀ n id, g.Holds n → .reference id ∈ n.kind.links → ∃ n', g.nodes.get? id = some n'

theorem Graph.Resolves.exists_target {g : Graph} (h : g.Resolves) {n : Node} {link : Link}
    (h_n : g.Holds n) (h_link : link ∈ n.kind.links) (ignoreOptional : Bool) :
    ∃ n', Scope.target? ⟨g.nodes, ignoreOptional⟩ link = some n' := by
  cases link with
  | embedded n' => exact ⟨n', rfl⟩
  | reference id => exact h n id h_n h_link

/-- In the graph of a configuration all references lead to a node. -/
theorem Graph.Mirrors.resolves {g : Graph} {c : Config} {tops : List Node} (h : g.Mirrors c tops) :
    g.Resolves := by
  intro n id h_n h_link
  have h_target : ∃ n', Scope.target? ⟨g.nodes, false⟩ (.reference id) = some n' :=
    h.exists_target h_n h_link
  exact h_target

namespace Generator

variable {g : Generator} {m : Memory} {id : String} {n : Node}

/-- **Contained ids are what is reached through parts.** Take any graph of nodes all of whose
references to parts lead to a node, any point of a session with it where the generator rests, and
any registered node.

Asking for the ids that it contains fails, with the cause that a node was re-entered, exactly when
a circle of parts can be reached from the node through parts, by reference or not; rules do not
count. Otherwise the answer is the set of the ids of all nodes that can be reached from it through
parts, itself among them, however many paths lead to one of them. -/
theorem Session.containedIds_eq_reached (h : g.Session m) (h_resolves : g.graph.Resolves)
    (h_get : g.graph.nodes.get? id = some n) :
    ((∃ f m', g.containedIds id m = (.error f, m') ∧ f.IsReentrant) ↔ g.scope.LeadsToCircle n) ∧
    (¬ g.scope.LeadsToCircle n → ∃ ids m', g.containedIds id m = (.ok ids, m') ∧
      ∀ id', ids.contains id' = true ↔
        ∃ k, Relation.ReflTransGen g.scope.Links n k ∧ k.id = some id') := by
  obtain ⟨h_graph, h_quiet⟩ := h.coherent_quiet
  have h_n : g.graph.Holds n := ⟨id, n, h_get, n.inside_self⟩
  have h_size : ∀ n, g.graph.Holds n → n.key < g.graph.size := fun n h_n =>
    h_graph.key_lt n (.inl h_n)
  have h_keys : ∀ n n', g.graph.Holds n → g.graph.Holds n' → n.key = n'.key → n = n' :=
    fun n n' h_n h_n' => h_graph.eq_of_key_eq n n' (.inl h_n) (.inl h_n')
  have h_targets : ∀ n link, g.graph.Holds n → link ∈ n.kind.links →
      ∃ n', g.scope.target? link = some n' := fun n link h_n h_link =>
    h_resolves.exists_target h_n h_link g.ignoreOptional
  have h_mark : ∀ key, (m.cell key).isVisited = false := fun key => (h_quiet key).2
  rw [containedIds, find_eq h_get, pure_bind]
  refine ⟨Node.containedIds_reentrant_iff g.scope_closed h_size (Nat.lt_succ_self _) h_keys
    h_targets h_n h_mark, fun h_none => ?_⟩
  -- without a circle there is no failure, and an answer holds what is reached
  rcases h_eq : n.containedIds g.scope g.fuel m with ⟨f | ids, m'⟩
  · exact absurd (Node.containedIds_error g.scope_closed h_size (Nat.lt_succ_self _) h_keys
      h_targets h_n h_mark h_eq).2 h_none
  · exact ⟨ids, m', rfl, (Node.ends_containedIds_reached g.fuel n m).of_ok h_eq⟩

/-- A text, its copy and the pair of both, to which two paths lead; and two constraints each of
which leads to the other. -/
def pairAndCircle : Config :=
  ⟨Config.supportedVersion, none, .empty, [
    .mk (some "text") none (.constant "two"),
    .mk (some "copy") none (.source (.reference "text")),
    .mk (some "pair") none (.combined [.reference "text", .reference "copy"] ""),
    .mk (some "a") none (.source (.reference "b")),
    .mk (some "b") none (.combined [.reference "text", .reference "a"] "")]⟩

/-- The text is shared by the pair and its copy, which is no circle; the other two are one. -/
theorem Session.containedIds_eq_reached_pairAndCircle :
    let g := (Generator.empty {} 0).afterBuild (Graph.buildConfig pairAndCircle)
    let m := (Generator.empty {} 0).freshMemory.withDraws default
    ((g.containedIds "pair" m).1.toOption.map Dict.keys = some ["copy", "pair", "text"] ∧
      ∃ pair, g.graph.nodes.get? "pair" = some pair ∧ ¬ g.scope.LeadsToCircle pair) ∧
    ∃ f m', g.containedIds "a" m = (.error f, m') ∧ f.IsReentrant := by
  intro g m
  have h_session : g.Session m := (Session.empty {} 0 default).buildConfig pairAndCircle
  have h_build : Graph.buildConfig pairAndCircle (.empty .builtin) =
      (.ok ["text", "copy", "pair", "a", "b"], g.graph) := rfl
  obtain ⟨tops, h_mirrors⟩ := Graph.mirrors_of_buildConfig h_build
  obtain ⟨pair, h_pair⟩ : ∃ n, g.graph.nodes.get? "pair" = some n := ⟨_, rfl⟩
  obtain ⟨a, h_a⟩ : ∃ n, g.graph.nodes.get? "a" = some n := ⟨_, rfl⟩
  obtain ⟨b, h_b⟩ : ∃ n, g.graph.nodes.get? "b" = some n := ⟨_, rfl⟩
  have h_keys : (g.containedIds "pair" m).1.toOption.map Dict.keys =
      some ["copy", "pair", "text"] := by decide +kernel
  refine ⟨⟨h_keys, pair, h_pair, fun h_circle => ?_⟩, ?_⟩
  · obtain ⟨f, m', h_error, -⟩ :=
      (Session.containedIds_eq_reached h_session h_mirrors.resolves h_pair).1.2 h_circle
    rw [h_error] at h_keys
    cases h_keys
  · have h_ab : g.scope.Links a b := by
      cases h_a
      exact ⟨.reference "b", List.mem_singleton_self _, h_b⟩
    have h_ba : g.scope.Links b a := by
      cases h_b
      exact ⟨.reference "a", List.mem_cons_of_mem _ (List.mem_singleton_self _), h_a⟩
    exact (Session.containedIds_eq_reached h_session h_mirrors.resolves h_a).1.2
      ⟨a, .refl, .tail (.single h_ab) h_ba⟩

end Generator

end Specimen
