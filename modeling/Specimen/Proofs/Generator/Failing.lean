import Specimen.Proofs.Generator.Overrides
import Specimen.Proofs.Node.Failing

/-!
# Requests that fail

A request for a value that fails tells by which path: the fault names the nodes from the one that
was asked down to the one where it arose (`Generator.Session.fault_names_path`). It leaves nothing
half done in the values of the pass: what was kept is kept, the nodes on the path keep nothing, and
whatever is kept in addition was generated to the end before the fault arose.
-/

namespace Specimen

open Evaluation

namespace Generator

variable {g : Generator} {m m' : Memory} {id : String} {n : Node} {c : FieldCase} {f : Fault}

/-- Messages name a registered node by its id. -/
theorem Session.display_eq (h : g.Session m) (h_get : g.graph.nodes.get? id = some n) :
    n.display = id := by
  have h_id : n.identity.id = some id := h.named id n h_get
  rw [Node.display, Identity.display, h_id]

/-- A fault is come to in steps. -/
theorem Session.steps_of_fault (h : g.Session m) (h_get : g.graph.nodes.get? id = some n)
    (h_fails : g.value id c m = (.error (.fault f), m')) :
    g.scope.Steps ⟨[], .ask n c, m⟩ ⟨[], .fail (.fault f), m'⟩ := by
  rw [Generator.value, find_eq h_get, pure_bind] at h_fails
  exact (h.nodeValue_course ⟨id, n, h_get, n.inside_self⟩ c).of_error h_fails _ .refl

/-- **A failing request names its path and spoils no value of the pass.** Take any graph of nodes,
with circles and with references that lead to nothing, and any point of a session with it where the
generator rests. Let a request for a registered node fail with a fault.

The fault names the nodes of a path from this node on, each of which may ask the next one: for a
part, by reference or not, or for its rule. It has one of two causes. Either the last node of the
path is also on it before and was re-entered, and the cause names it; or the last node refers to an
id that no node has, and the cause names the id. No node on the path has a value for the pass. The
values of the pass that there were before are all there still; and one that there was not before is
what its node makes of a value that this node has generated to the end, on the one course that leads
from the request to the fault. -/
theorem Session.fault_names_path (h : g.Session m) (h_get : g.graph.nodes.get? id = some n)
    (h_fails : g.value id c m = (.error (.fault f), m')) :
    (∃ path : List Node, f.path = path.map Node.display ∧ path.head? = some n ∧
      f.path.head? = some id ∧ path.IsChain g.scope.Calls ∧ g.scope.Arises path f.root ∧
      ∀ k ∈ path, k.kind.isStateless = false → (m'.cell k.key).cache = none) ∧
    m.Persists m' ∧
    ∀ key w, (m.cell key).cache = none → (m'.cell key).cache = some w → ∃ fr st v k,
      g.scope.Steps ⟨[], .ask n c, m⟩ ⟨fr :: st, .generated v, k⟩ ∧
      g.scope.Steps ⟨fr :: st, .generated v, k⟩ ⟨[], .fail (.fault f), m'⟩ ∧
      fr.node.key = key ∧ fr.node.kind.isStateless = false ∧ w = derive fr.asked v := by
  obtain ⟨h_graph, h_quiet⟩ := h.coherent_quiet
  have h_steps := h.steps_of_fault h_get h_fails
  have h_n : g.graph.Holds n := ⟨id, n, h_get, n.inside_self⟩
  -- the three invariants hold of the request itself
  have h_guarded : Guarded ⟨[], .ask n c, m⟩ := .start h_quiet _
  have h_fresh : Fresh ⟨[], .ask n c, m⟩ := nofun
  have h_within : Within g.scope g.graph.Holds ⟨[], .ask n c, m⟩ := ⟨nofun, h_n⟩
  refine ⟨?_, (h_fresh.steps h_guarded h_steps).2, fun key w h_none h_some => ?_⟩
  · obtain ⟨path, h_path⟩ := Descends.steps ⟨[n], .start g.scope n c m⟩ h_guarded h_fresh h_within
      g.scope_closed (fun n n' h_n h_n' => h_graph.eq_of_key_eq n n' (.inl h_n) (.inl h_n')) h_steps
    obtain ⟨h_names, h_arises, h_unset⟩ := h_path.fault f rfl
    -- the path is not empty, as the fault arose in its last node, and begins with the first one
    have h_head : path.head? = some n := by
      obtain ⟨k, rest, rfl⟩ := List.exists_cons_of_ne_nil h_arises.ne_nil
      exact congrArg some (h_path.descent.head k rfl)
    refine ⟨path, h_names, h_head, ?_, h_path.descent.chain, h_arises,
      fun k h_k => (h_unset k h_k).2⟩
    rw [h_names, List.head?_map, h_head]
    exact congrArg some (h.display_eq h_get)
  · obtain ⟨⟨_, _, k⟩, h_before, h_after, fr, st, v, rfl, rfl, h_fills⟩ :=
      steps_filled h_guarded h_fresh h_steps h_none h_some
    exact ⟨fr, st, v, k, h_before, h_after, h_fills⟩

/-- A text, a pair of the text and a copy, and the copy, whose source is the pair. -/
def waiting : Generator :=
  let text := .mk (some "text") none (.combined [.embedded (.mk none none (.constant "two"))] "")
  let copy := .mk (some "copy") none (.source (.reference "pair"))
  let pair := .mk (some "pair") none (.combined [.reference "text", .reference "copy"] "")
  (((empty {} 0).afterBuild (Graph.build none text)).afterBuild (Graph.build none copy)).afterBuild
    (Graph.build none pair)

/-- The pair waits for the copy, which asks for the pair again. The text has its value then, and the
pair has none. -/
theorem Session.fault_names_path_waiting :
    ∃ m', waiting.value "pair" .normal (waiting.freshMemory.withDraws default) =
      (.error (.fault (.inNode "pair" (.inNode "copy" (.reentrant "pair")))), m') ∧
    ∃ text copy pair, waiting.graph.nodes.get? "text" = some text ∧
      waiting.graph.nodes.get? "copy" = some copy ∧ waiting.graph.nodes.get? "pair" = some pair ∧
      (m'.cell text.key).cache = some (some "two") ∧ (m'.cell pair.key).cache = none ∧
      ∃ path : List Node, path.map Node.display = ["pair", "copy", "pair"] ∧
        waiting.scope.Arises path (.reentrant "pair") := by
  have h_session : waiting.Session (waiting.freshMemory.withDraws default) :=
    (((Session.empty {} 0 default).build none _).build none _).build none _
  obtain ⟨text, h_text⟩ : ∃ n, waiting.graph.nodes.get? "text" = some n := ⟨_, rfl⟩
  obtain ⟨copy, h_copy⟩ : ∃ n, waiting.graph.nodes.get? "copy" = some n := ⟨_, rfl⟩
  obtain ⟨pair, h_pair⟩ : ∃ n, waiting.graph.nodes.get? "pair" = some n := ⟨_, rfl⟩
  have h_fails : waiting.value "pair" .normal (waiting.freshMemory.withDraws default) =
      (.error (.fault (.inNode "pair" (.inNode "copy" (.reentrant "pair")))),
        (waiting.value "pair" .normal (waiting.freshMemory.withDraws default)).2) := by rfl
  obtain ⟨⟨path, h_names, h_head, -, -, h_arises, h_unset⟩, -, -⟩ :=
    Session.fault_names_path h_session h_pair h_fails
  have h_pair_mem : pair ∈ path := List.mem_of_head? h_head
  refine ⟨_, h_fails, text, copy, pair, h_text, h_copy, h_pair, ?_, h_unset pair h_pair_mem ?_,
    path, h_names.symm, h_arises⟩
  · cases h_text
    rfl
  · cases h_pair
    rfl

end Generator

end Specimen
