import Mathlib.Data.Set.Card
import Specimen.Proofs.Generator.Session
import Specimen.Proofs.Node.Depth

/-!
# Requests end, whatever references lead to

A generator bounds how deep requests nest by the size of its graph. Here this is shown to make no
difference: in any graph that a session can come to, be it with references that lead in circles or
to nothing, the number of its nodes (`Graph.nodeCount`) is a bound that is never reached.

* `Graph.Coherent.depth_le`: from a node of the graph no more nodes can be met than it has.
* `Generator.Agrees`: with another bound, requests are answered the same way.
* `Generator.Session.terminates`: every request ends, and its answer is that of the recursion
  without a bound.
-/

namespace Specimen

open Evaluation

/-! ### The number of nodes -/

/-- The keys of the nodes of a graph, each of them once. -/
def Graph.nodeKeys (g : Graph) : List Nat := (g.nodes.entries.flatMap fun e => e.2.keys).dedup

/-- The number of nodes of a graph: those that are registered and those inside them. -/
def Graph.nodeCount (g : Graph) : Nat := g.nodeKeys.length

namespace Graph

variable {g : Graph}

theorem mem_nodeKeys_iff {key : Nat} : key ∈ g.nodeKeys ↔ ∃ n, g.Holds n ∧ n.key = key := by
  rw [nodeKeys, List.mem_dedup, List.mem_flatMap]
  constructor
  · rintro ⟨⟨id, t⟩, h_entry, h_key⟩
    obtain ⟨p, n, h_n, h_eq⟩ := (t.mem_keys_iff key).1 h_key
    exact ⟨n, ⟨id, t, Dict.mem_entries_iff.1 h_entry, p, h_n⟩, h_eq⟩
  · rintro ⟨n, ⟨id, t, h_get, h_inside⟩, rfl⟩
    exact ⟨(id, t), Dict.mem_entries_iff.2 h_get, Node.mem_keys_of_inside h_inside⟩

namespace Coherent

/-- Where nodes are told apart by their keys, there are as many of them as there are keys. -/
theorem ncard_holds (h : g.Coherent) : {n | g.Holds n}.ncard = g.nodeCount := by
  have h_injective : Set.InjOn Node.key {n | g.Holds n} :=
    fun n h_n n' h_n' h_key => h.eq_of_key_eq n n' (.inl h_n) (.inl h_n') h_key
  have h_image : Node.key '' {n | g.Holds n} = g.nodeKeys.toFinset := by
    ext key
    rw [List.coe_toFinset]
    exact mem_nodeKeys_iff.symm
  have h_nodup : g.nodeKeys.Nodup := List.nodup_dedup _
  rw [← h_injective.ncard_image, h_image, Set.ncard_coe_finset, List.toFinset_card_of_nodup h_nodup,
    nodeCount]

/-- There are no more nodes than the graph has handed out keys. -/
theorem nodeCount_le_size (h : g.Coherent) : g.nodeCount ≤ g.size :=
  length_le_of_nodup (List.nodup_dedup _) fun key h_key => by
    obtain ⟨n, h_n, rfl⟩ := mem_nodeKeys_iff.1 h_key
    exact h.key_lt n (.inl h_n)

end Coherent

/-- From a node of a graph no more nodes can be met than it has. -/
theorem Holds.depth_le {n : Node} (h : g.Holds n) (ignoreOptional : Bool) :
    Scope.depth ⟨g.nodes, ignoreOptional⟩ n ≤ g.nodeCount := by
  refine ((List.nodup_dedup _).subperm fun key h_key => ?_).length_le
  rw [List.mem_dedup, List.mem_append] at h_key
  rcases h_key with h_own | h_registered
  · obtain ⟨p, n', h_n', rfl⟩ := (n.mem_keys_iff key).1 h_own
    exact mem_nodeKeys_iff.2 ⟨n', h.inside ⟨p, h_n'⟩, rfl⟩
  · exact List.mem_dedup.2 h_registered

end Graph

/-! ### Other bounds -/

namespace Generator

/-- The generator with another bound: requests nest at most one deeper than it says. -/
def boundedBy (g : Generator) (depth : Nat) : Generator :=
  { g with graph := { g.graph with size := depth } }

/-- Two generators answer requests the same way and leave the same behind, whatever was before. -/
structure Agrees (g g' : Generator) : Prop where
  value : ∀ id c, g'.value id c = g.value id c
  countCases : g'.countCases = g.countCases
  hasNextCase : g'.hasNextCase = g.hasNextCase
  containedIds : ∀ id, g'.containedIds id = g.containedIds id

variable {g : Generator} {ι α β : Type}

/-- What is answered within a depth that is enough is answered within every greater one. -/
theorem within_eq {r : Recursion ι α} {enough : ι → Nat} (h : r.Suffices enough) {i : ι}
    {depth depth' : Nat} (h_depth : enough i ≤ depth) (h_depth' : enough i ≤ depth') :
    r.within depth i = r.within depth' i := by
  funext m
  rw [Recursion.within_eq_of_le h_depth (h i m), Recursion.within_eq_of_le h_depth' (h i m)]

/-- What follows a look-up has to be known for nodes of the graph only. -/
theorem find_congr {k k' : Node → Eval β} (h : ∀ n, g.graph.Holds n → k n = k' n) (id : String) :
    (g.find id >>= k) = (g.find id >>= k') := by
  cases h_get : g.graph.nodes.get? id with
  | none =>
    have h_find : g.find id = Eval.fail (.unknownId id) := by
      simp only [find, Scope.find, scope, h_get]
    rw [h_find]
    rfl
  | some n =>
    have h_find : g.find id = pure n := by simp only [find, Scope.find, scope, h_get]
    rw [h_find, pure_bind, pure_bind]
    exact h n ⟨id, n, h_get, n.inside_self⟩

section Bounds

variable {depth depth' : Nat} (h : g.graph.nodeCount ≤ depth) (h' : g.graph.nodeCount ≤ depth')

include h h'

theorem nodeValue_boundedBy {n : Node} (h_n : g.graph.Holds n) (c : FieldCase) :
    (g.boundedBy depth).nodeValue n c = (g.boundedBy depth').nodeValue n c := by
  have h_enough := h_n.depth_le g.ignoreOptional
  show n.value g.scope (depth + 1) c = n.value g.scope (depth' + 1) c
  rw [Node.value_eq_within, Node.value_eq_within]
  exact within_eq (Node.valueRecursion_suffices g.scope)
    (Nat.succ_le_succ (h_enough.trans h)) (Nat.succ_le_succ (h_enough.trans h'))

theorem nodeCount_boundedBy {n : Node} (h_n : g.graph.Holds n) :
    (g.boundedBy depth).nodeCount n = (g.boundedBy depth').nodeCount n := by
  have h_enough := h_n.depth_le g.ignoreOptional
  show Node.countCases g.scope (depth + 1) n = Node.countCases g.scope (depth' + 1) n
  rw [Node.countCases_eq_within, Node.countCases_eq_within]
  exact within_eq (Node.countRecursion_suffices g.scope)
    (Nat.succ_le_succ (h_enough.trans h)) (Nat.succ_le_succ (h_enough.trans h'))

theorem nodeHasNext_boundedBy {n : Node} (h_n : g.graph.Holds n) :
    (g.boundedBy depth).nodeHasNext n = (g.boundedBy depth').nodeHasNext n := by
  have h_enough := h_n.depth_le g.ignoreOptional
  show Node.hasNextCase g.scope (depth + 1) n = Node.hasNextCase g.scope (depth' + 1) n
  rw [Node.hasNextCase_eq_within, Node.hasNextCase_eq_within]
  exact within_eq (Node.hasNextRecursion_suffices g.scope)
    (Nat.succ_le_succ (h_enough.trans h)) (Nat.succ_le_succ (h_enough.trans h'))

theorem nodeContained_boundedBy {n : Node} (h_n : g.graph.Holds n) :
    Node.containedIds g.scope (depth + 1) n = Node.containedIds g.scope (depth' + 1) n := by
  have h_enough := h_n.depth_le g.ignoreOptional
  rw [Node.containedIds_eq_within, Node.containedIds_eq_within]
  exact within_eq (Node.containedRecursion_suffices g.scope)
    (Nat.succ_le_succ (h_enough.trans h)) (Nat.succ_le_succ (h_enough.trans h'))

/-- **Bounds make no difference** as long as they are not below the number of nodes. -/
theorem agrees_boundedBy : (g.boundedBy depth).Agrees (g.boundedBy depth') where
  value id c := find_congr (fun n h_n => nodeValue_boundedBy h' h h_n c) id
  countCases := by
    -- The loop is compared for any list of roots and any maximum reached so far.
    have h_go : ∀ (ids : List String) most, countCases.go (g.boundedBy depth') most ids =
        countCases.go (g.boundedBy depth) most ids := by
      intro ids
      induction ids with
      | nil => exact fun _ => rfl
      | cons id ids ih =>
        intro most
        rw [countCases.go, countCases.go]
        refine find_congr (g := g.boundedBy depth) (fun n h_n => ?_) id
        rw [nodeCount_boundedBy h' h h_n]
        exact bind_congr fun _ => ih _
    exact h_go g.roots 0
  hasNextCase := by
    have h_go : ∀ ids : List String, hasNextCase.go (g.boundedBy depth') ids =
        hasNextCase.go (g.boundedBy depth) ids := by
      intro ids
      induction ids with
      | nil => rfl
      | cons id ids ih =>
        rw [hasNextCase.go, hasNextCase.go]
        refine find_congr (g := g.boundedBy depth) (fun n h_n => ?_) id
        rw [nodeHasNext_boundedBy h' h h_n, ih]
    exact h_go g.roots
  containedIds id := find_congr (fun _ h_n => nodeContained_boundedBy h' h h_n) id

end Bounds

/-! ### No bound -/

/-- What is answered to some questions is the only answer of a recursion without a bound: just one
evaluation meets its equation, and gives this answer. -/
def IsUnbounded (r : Recursion ι α) (answers : ι → Eval α) (Asked : ι → Prop) : Prop :=
  (∃! ask, r.IsSolution ask) ∧ ∀ ask, r.IsSolution ask → ∀ i, Asked i → ask i = answers i

theorem isUnbounded_within {r : Recursion ι α} {enough : ι → Nat} (h : r.Suffices enough)
    {depth : Nat} {Asked : ι → Prop} (h_depth : ∀ i, Asked i → enough i ≤ depth) :
    IsUnbounded r (r.within depth) Asked := by
  refine ⟨Recursion.existsUnique_solution h, fun ask h_ask i h_i => ?_⟩
  rw [h_ask.eq_within h i]
  exact within_eq h (Nat.le_refl _) (h_depth i h_i)

namespace Session

variable {m : Memory}

/-- **Requests end.** Take any graph of nodes, and any point of a session with it where the generator
rests. Values, numbers of cases, cases that are left and ids that are reached all get an answer, or
fail for a reason of their own.

The evaluation of a node has no endless course, and at each point of it, and of each walk through
nodes, at most one node more is busy than there are. Requests are answered the same way with any
bound on their depth that is not below the number of nodes, and as they are without a bound: for
each of the four recursions just one evaluation meets its equation, and gives these answers. -/
theorem terminates (h : g.Session m) :
    ((∀ id c, (g.value id c m).1 ≠ .error .tooDeep) ∧ (g.countCases m).1 ≠ .error .tooDeep ∧
      (g.hasNextCase m).1 ≠ .error .tooDeep ∧
      ∀ id, (g.containedIds id m).1 ≠ .error .tooDeep) ∧
    (∀ n, g.graph.Holds n →
      (∀ c, Acc (fun y x => g.scope.Step x y) ⟨[], .ask n c, m⟩) ∧
      (∀ c x, g.scope.Steps ⟨[], .ask n c, m⟩ x → x.height ≤ g.graph.nodeCount + 1) ∧
      ∀ x, g.scope.WalkSteps ⟨[], .look n, m⟩ x → x.height ≤ g.graph.nodeCount + 1) ∧
    {n | g.graph.Holds n}.ncard = g.graph.nodeCount ∧
    (∀ depth, g.graph.nodeCount ≤ depth → g.Agrees (g.boundedBy depth)) ∧
    IsUnbounded (Node.valueRecursion g.scope) (fun i => g.nodeValue i.1 i.2)
      (fun i => g.graph.Holds i.1) ∧
    IsUnbounded (Node.countRecursion g.scope) g.nodeCount g.graph.Holds ∧
    IsUnbounded (Node.hasNextRecursion g.scope) g.nodeHasNext g.graph.Holds ∧
    IsUnbounded (Node.containedRecursion g.scope) (Node.containedIds g.scope g.fuel)
      g.graph.Holds := by
  obtain ⟨h_graph, h_quiet⟩ := h.coherent_quiet
  have h_size := h_graph.nodeCount_le_size
  have h_runs : ∀ {β : Type} {e : Eval β} {step}, Runs step e → (e m).1 ≠ .error .tooDeep :=
    fun h_run h_deep => ((h_run m h_quiet).of_error (Prod.ext h_deep rfl)).1 rfl
  have h_depth : ∀ n, g.graph.Holds n → g.scope.depth n + 1 ≤ g.fuel :=
    fun n h_n => Nat.succ_le_succ ((h_n.depth_le g.ignoreOptional).trans h_size)
  refine ⟨⟨fun id c => h_runs (Runs.value h_graph id c), h_runs (Runs.countCases h_graph),
    h_runs (Runs.hasNextCase h_graph), fun id => h_runs (Runs.containedIds h_graph id)⟩,
    fun n h_n => ⟨fun c => g.scope.acc_step n c m, fun c x h_x => ?_, fun x h_x => ?_⟩,
    h_graph.ncard_holds, fun depth h_bound => agrees_boundedBy h_size h_bound, ?_, ?_, ?_, ?_⟩
  · exact (Evaluation.height_le h_x).trans (Nat.succ_le_succ (h_n.depth_le g.ignoreOptional))
  · exact (Walk.height_le h_x).trans (Nat.succ_le_succ (h_n.depth_le g.ignoreOptional))
  · have h_value : (fun i : Node × FieldCase => g.nodeValue i.1 i.2) =
        (Node.valueRecursion g.scope).within g.fuel :=
      funext fun i => Node.value_eq_within g.scope g.fuel i.1 i.2
    rw [h_value]
    exact isUnbounded_within (Node.valueRecursion_suffices g.scope) fun i => h_depth i.1
  · have h_count : g.nodeCount = (Node.countRecursion g.scope).within g.fuel :=
      Node.countCases_eq_within g.scope g.fuel
    rw [h_count]
    exact isUnbounded_within (Node.countRecursion_suffices g.scope) h_depth
  · have h_next : g.nodeHasNext = (Node.hasNextRecursion g.scope).within g.fuel :=
      Node.hasNextCase_eq_within g.scope g.fuel
    rw [h_next]
    exact isUnbounded_within (Node.hasNextRecursion_suffices g.scope) h_depth
  · rw [Node.containedIds_eq_within]
    exact isUnbounded_within (Node.containedRecursion_suffices g.scope) h_depth

/-- Two nodes that lead to each other are asked no deeper than three nodes, and any bound from two on
gives the same answers. -/
theorem terminates_circle :
    circle.Session (circle.freshMemory.withDraws default) ∧ circle.graph.nodeCount = 2 ∧
    (circle.countCases (circle.freshMemory.withDraws default)).1 ≠ .error .tooDeep ∧
    circle.Agrees (circle.boundedBy 2) := by
  have h_session : circle.Session (circle.freshMemory.withDraws default) :=
    ((Session.empty {} 0 default).build none _).build none _
  have h_count : circle.graph.nodeCount = 2 := by rfl
  obtain ⟨⟨-, h_cases, -⟩, -, -, h_agrees, -⟩ := Session.terminates h_session
  exact ⟨h_session, h_count, h_cases, h_agrees 2 (Nat.le_of_eq h_count)⟩

end Session

end Generator

end Specimen
