import Mathlib.Data.List.Dedup
import Specimen.Proofs.Node.Looking
import Specimen.Proofs.Node.Recursion

/-!
# How deep requests nest in any memory

What a node that is asked can lead to are the nodes inside it and those that are registered
(`Scope.Meets`), which have finitely many keys. Whatever the memory was when an evaluation began,
even if nodes hold tokens that nobody will give back, no key is twice on its stack
(`Evaluation.Engaged`), and none is twice on the stack of a walk (`Walk.Engaged`).

So there is a depth that is always enough (`Scope.depth`): the recursions by which nodes are asked
and looked through have just one solution without a bound, which is what is answered within that
depth (`Node.value_eq_solution` and so on). Evaluations have no endless course
(`Scope.acc_step`).
-/

namespace Specimen

open Evaluation

/-! ### What can be met -/

/-- A node that may be asked when another one is: it is inside that one, or registered, or inside a
registered one. -/
def Scope.Meets (s : Scope) (n n' : Node) : Prop :=
  n.Inside n' ∨ ∃ id t, s.nodes.get? id = some t ∧ t.Inside n'

/-- The keys of the nodes that can be met from a node, each of them once. -/
def Scope.keysFrom (s : Scope) (n : Node) : List Nat :=
  (n.keys ++ s.nodes.entries.flatMap fun e => e.2.keys).dedup

/-- The number of nodes that can be met from a node. -/
def Scope.depth (s : Scope) (n : Node) : Nat := (s.keysFrom n).length

section Meets

variable {s : Scope} {n n' : Node}

theorem Scope.meets_self (s : Scope) (n : Node) : s.Meets n n := .inl n.inside_self

theorem Scope.Meets.key_mem (h : s.Meets n n') : n'.key ∈ s.keysFrom n := by
  rw [Scope.keysFrom, List.mem_dedup, List.mem_append, List.mem_flatMap]
  rcases h with h_inside | ⟨id, t, h_get, h_inside⟩
  · exact .inl (Node.mem_keys_of_inside h_inside)
  · exact .inr ⟨(id, t), Dict.mem_entries_iff.2 h_get, Node.mem_keys_of_inside h_inside⟩

/-- What is met asks only what is met. -/
theorem Scope.meets_closed (s : Scope) (n : Node) : s.Closed (s.Meets n) := by
  rintro k k' h_k (⟨_ | l, h_link, h_target⟩ | ⟨id, -, h_get⟩)
  · exact .inr ⟨_, k', h_target, k'.inside_self⟩
  · obtain rfl : l = k' := Option.some.inj h_target
    have h_below : k.Inside l := Node.inside_iff.2 (.inr ⟨_, h_link, l.inside_self⟩)
    rcases h_k with h_inside | ⟨id, t, h_get, h_inside⟩
    · exact .inl (h_inside.trans h_below)
    · exact .inr ⟨id, t, h_get, h_inside.trans h_below⟩
  · exact .inr ⟨id, k', h_get, k'.inside_self⟩

/-- There are no more different keys of nodes that are met than the depth says. -/
theorem Scope.length_le_depth {keys : List Nat} (h_nodup : keys.Nodup)
    (h : ∀ key ∈ keys, ∃ n', s.Meets n n' ∧ n'.key = key) : keys.length ≤ s.depth n := by
  refine (h_nodup.subperm fun key h_key => ?_).length_le
  obtain ⟨n', h_n', rfl⟩ := h key h_key
  exact h_n'.key_mem

end Meets

/-! ### Evaluations -/

/-- The nodes on the stack hold their tokens, and none of them is there twice. Others may hold
tokens, too. -/
structure Evaluation.Engaged (x : Evaluation) : Prop where
  token : ∀ fr ∈ x.stack, (x.memory.cell fr.node.key).token = some fr.token
  below : ∀ fr ∈ x.stack, fr.token < x.memory.tokens
  keys_nodup : (x.stack.map fun fr => fr.node.key).Nodup

namespace Evaluation.Engaged

variable {s : Scope} {x y : Evaluation}

theorem start (control : Control) (m : Memory) : Engaged ⟨[], control, m⟩ := ⟨nofun, nofun, .nil⟩

/-- The same stack is engaged as long as tokens stay where they are. -/
theorem congr (h : x.Engaged) {control : Control} {m : Memory}
    (h_cell : ∀ key, (m.cell key).token = (x.memory.cell key).token)
    (h_tokens : x.memory.tokens ≤ m.tokens) : Engaged ⟨x.stack, control, m⟩ where
  token fr h_fr := (h_cell _).trans (h.token fr h_fr)
  below fr h_fr := Nat.lt_of_lt_of_le (h.below fr h_fr) h_tokens
  keys_nodup := h.keys_nodup

/-- A node that has no older token takes one. -/
theorem push {st : List Frame} {n : Node} {c : FieldCase} {m : Memory} {control : Control}
    (h : Engaged ⟨st, control, m⟩)
    (h_token : ∀ held, (m.cell n.key).token = some held → m.tokens ≤ held) :
    Engaged ⟨⟨n, c, m.tokens, .begun⟩ :: st, .go, m.begun n.key n.identity (n.computedCase c)⟩ := by
  -- the tokens on the stack are older than the next one, so the node is not there
  have h_free : ∀ fr ∈ st, fr.node.key ≠ n.key := fun fr h_fr h_key =>
    absurd (h.below fr h_fr) (Nat.not_lt.2 (h_token fr.token (h_key ▸ h.token fr h_fr)))
  refine ⟨List.forall_mem_cons.2 ⟨?_, fun fr h_fr => ?_⟩, List.forall_mem_cons.2 ⟨?_, ?_⟩, ?_⟩
  · rw [Memory.cell_begun, if_pos rfl]
    rfl
  · rw [Memory.cell_begun, if_neg (h_free fr h_fr)]
    exact h.token fr h_fr
  · exact Nat.lt_succ_self _
  · exact fun fr h_fr => Nat.lt_succ_of_lt (h.below fr h_fr)
  · refine List.nodup_cons.2 ⟨fun h_mem => ?_, h.keys_nodup⟩
    obtain ⟨fr, h_fr, h_key⟩ := List.mem_map.1 h_mem
    exact h_free fr h_fr h_key

/-- The innermost node gives back its token. -/
theorem pop {fr : Frame} {st : List Frame} {m : Memory} {control control' : Control}
    (h : Engaged ⟨fr :: st, control, m⟩) :
    Engaged ⟨st, control', m.update fr.node.key Cell.release⟩ := by
  obtain ⟨h_once, h_nodup⟩ := List.nodup_cons.1 h.keys_nodup
  refine ⟨fun fr' h_fr' => ?_, (List.forall_mem_cons.1 h.below).2, h_nodup⟩
  have h_ne : fr'.node.key ≠ fr.node.key :=
    fun h_key => h_once (List.mem_map.2 ⟨fr', h_fr', h_key⟩)
  rw [Memory.cell_update, if_neg h_ne]
  exact (List.forall_mem_cons.1 h.token).2 fr' h_fr'

/-- **One step.** -/
theorem step (h : x.Engaged) (h_step : s.Step x y) : y.Engaged := by
  cases h_step with
  | overridden _ =>
    exact h.congr (Memory.cell_update_keeps Cell.token Cell.use (fun _ => rfl) _ _) (Nat.le_refl _)
  | remembered _ _ _ => exact h.congr (fun _ => rfl) (Nat.le_refl _)
  | reentrant _ _ _ => exact h.congr (fun _ => rfl) (Nat.le_succ _)
  | begin _ h_token => exact h.push h_token
  | move h_move =>
    have h_goesOn := h_move.goesOn
    have h_next : Engaged ⟨_, .go, _⟩ :=
      h.congr (fun key => (h_goesOn.settled key).1) (Nat.le_of_eq h_goesOn.tokens.symm)
    -- another stage is neither another node nor another token
    exact ⟨List.forall_mem_cons.2 (List.forall_mem_cons.1 h_next.token),
      List.forall_mem_cons.2 (List.forall_mem_cons.1 h_next.below), h_next.keys_nodup⟩
  | @finish st fr v m =>
    have h_pop : Engaged ⟨st, .answer (fr.node.answerOf fr.asked v), _⟩ := h.pop
    refine h_pop.congr (fun key => ?_) (Nat.le_of_eq ?_)
    · rw [Memory.kept]
      split
      · rfl
      · exact Memory.cell_update_keeps Cell.token (Cell.keep _) (fun _ => rfl) _ _ key
    · rw [Memory.kept]
      split <;> rfl
  | fail => exact h.pop

/-- **All steps.** -/
theorem steps (h : x.Engaged) (h_steps : s.Steps x y) : y.Engaged := by
  induction h_steps with
  | refl => exact h
  | tail _ h_step ih => exact ih.step h_step

/-- No more nodes are on the stack than can be met. -/
theorem length_le {n : Node} (h : x.Engaged) (h_within : x.Within s (s.Meets n)) :
    x.stack.length ≤ s.depth n := by
  have h_keys := s.length_le_depth h.keys_nodup fun key h_key => by
    obtain ⟨fr, h_fr, rfl⟩ := List.mem_map.1 h_key
    exact ⟨_, (h_within.stack fr h_fr).1, rfl⟩
  rwa [List.length_map] at h_keys

end Evaluation.Engaged

/-- How many nodes are busy at a point of an evaluation: those on the stack, and the one that is
being asked. -/
def Evaluation.height (x : Evaluation) : Nat :=
  match x.control with
  | .ask .. => x.stack.length + 1
  | _ => x.stack.length

section Evaluations

variable {s : Scope} {n : Node} {c : FieldCase} {m : Memory}

/-- At each point of an evaluation at most all nodes that can be met are busy, and one of them
again. -/
theorem Evaluation.height_le {x : Evaluation} (h : s.Steps ⟨[], .ask n c, m⟩ x) :
    x.height ≤ s.depth n + 1 := by
  have h_within : Evaluation.Within s (s.Meets n) ⟨[], .ask n c, m⟩ := ⟨nofun, s.meets_self n⟩
  have h_le := ((Engaged.start _ m).steps h).length_le (h_within.steps (s.meets_closed n) h)
  unfold Evaluation.height
  split <;> omega

/-- **Values within the depth** are come to in steps, and so are failures. -/
theorem Node.ends_value_depth {fuel : Nat} (h_fuel : s.depth n < fuel) :
    Ends (n.value s fuel c) m (fun v m' => s.Steps ⟨[], .ask n c, m⟩ ⟨[], .answer v, m'⟩)
      fun f m' => f ≠ .tooDeep ∧ s.Steps ⟨[], .ask n c, m⟩ ⟨[], .fail f, m'⟩ := by
  have h_within : Evaluation.Within s (s.Meets n) ⟨[], .ask n c, m⟩ := ⟨nofun, s.meets_self n⟩
  refine (Node.value_steps fuel [] n c m).mono (fun _ _ h_steps => h_steps) fun f m' h_bad => ?_
  rcases h_bad with h_steps | ⟨-, y, h_steps, h_length⟩
  · exact ⟨(h_within.steps (s.meets_closed n) h_steps).control, h_steps⟩
  · -- the stack would have become higher than it can
    have h_le := ((Engaged.start _ m).steps h_steps).length_le
      (h_within.steps (s.meets_closed n) h_steps)
    have h_height : y.stack.length = [].length + fuel := h_length
    simp only [List.length_nil] at h_height
    omega

/-- A course that comes to an end is the only one, so that there is no endless one. -/
theorem Scope.acc_of_steps {x : Evaluation} {control : Control} {m : Memory}
    (h : s.Steps x ⟨[], control, m⟩) (h_over : (∃ v, control = .answer v) ∨ ∃ f, control = .fail f) :
    Acc (fun y x => s.Step x y) x := by
  induction h using Relation.ReflTransGen.head_induction_on with
  | refl => exact ⟨_, fun y h_step => (Scope.Step.not_of_over h_over h_step).elim⟩
  | head h_step _ ih => exact ⟨_, fun y h_step' => Scope.Step.unique h_step h_step' ▸ ih⟩

/-- **No endless course.** -/
theorem Scope.acc_step (s : Scope) (n : Node) (c : FieldCase) (m : Memory) :
    Acc (fun y x => s.Step x y) ⟨[], .ask n c, m⟩ := by
  have h_ends := Node.ends_value_depth (s := s) (c := c) (m := m) (Nat.lt_succ_self (s.depth n))
  rcases h : n.value s (s.depth n + 1) c m with ⟨f | v, m'⟩
  · exact Scope.acc_of_steps (h_ends.of_error h).2 (.inr ⟨f, rfl⟩)
  · exact Scope.acc_of_steps (h_ends.of_ok h) (.inl ⟨v, rfl⟩)

end Evaluations

/-! ### Walks -/

/-- The nodes on the way are marked, and none of them is there twice. Others may be marked, too. -/
structure Walk.Engaged (x : Walk) : Prop where
  visited : ∀ n ∈ x.stack, (x.memory.cell n.key).isVisited = true
  keys_nodup : (x.stack.map Node.key).Nodup

namespace Walk.Engaged

variable {s : Scope} {x y : Walk}

theorem start (control : Control) (m : Memory) : Engaged ⟨[], control, m⟩ := ⟨nofun, .nil⟩

/-- The innermost node is left. -/
theorem pop {st : List Node} {n : Node} {m : Memory} {control control' : Control}
    (h : Engaged ⟨n :: st, control, m⟩) : Engaged ⟨st, control', m.update n.key Cell.leave⟩ := by
  obtain ⟨h_once, h_nodup⟩ := List.nodup_cons.1 h.keys_nodup
  refine ⟨fun n' h_n' => ?_, h_nodup⟩
  have h_ne : n'.key ≠ n.key := fun h_key => h_once (List.mem_map.2 ⟨n', h_n', h_key⟩)
  rw [Memory.cell_update, if_neg h_ne]
  exact (List.forall_mem_cons.1 h.visited).2 n' h_n'

/-- **One step.** -/
theorem step (h : x.Engaged) (h_step : s.WalkStep x y) : y.Engaged := by
  cases h_step with
  | leaf _ | marked _ _ | follow _ _ | lost _ _ => exact ⟨h.visited, h.keys_nodup⟩
  | @enter st n m _ h_mark =>
    -- a node on the way is marked, so the one that is entered is not among them
    have h_free : ∀ n' ∈ st, n'.key ≠ n.key := by
      intro n' h_n' h_key
      have h_visited := h.visited n' h_n'
      rw [h_key, h_mark] at h_visited
      cases h_visited
    refine ⟨List.forall_mem_cons.2 ⟨?_, fun n' h_n' => ?_⟩, List.nodup_cons.2 ⟨?_, h.keys_nodup⟩⟩
    · rw [Memory.cell_update, if_pos rfl]
      rfl
    · rw [Memory.cell_update, if_neg (h_free n' h_n')]
      exact h.visited n' h_n'
    · rintro h_mem
      obtain ⟨n', h_n', h_key⟩ := List.mem_map.1 h_mem
      exact h_free n' h_n' h_key
  | leave | fail => exact h.pop

/-- **All steps.** -/
theorem steps (h : x.Engaged) (h_steps : s.WalkSteps x y) : y.Engaged := by
  induction h_steps with
  | refl => exact h
  | tail _ h_step ih => exact ih.step h_step

/-- No more nodes are on the way than can be met. -/
theorem length_le {n : Node} (h : x.Engaged) (h_within : x.Within (s.Meets n)) :
    x.stack.length ≤ s.depth n := by
  have h_keys := s.length_le_depth h.keys_nodup fun key h_key => by
    obtain ⟨n', h_n', rfl⟩ := List.mem_map.1 h_key
    exact ⟨n', h_within.stack n' h_n', rfl⟩
  rwa [List.length_map] at h_keys

end Walk.Engaged

/-- How many nodes are busy at a point of a walk: those on the way, and the one that is being looked
at. -/
def Walk.height (x : Walk) : Nat :=
  match x.control with
  | .look _ => x.stack.length + 1
  | _ => x.stack.length

section Walks

variable {s : Scope} {n : Node} {m : Memory}

/-- At each point of a walk at most all nodes that can be met are busy, and one of them again. -/
theorem Walk.height_le {x : Walk} (h : s.WalkSteps ⟨[], .look n, m⟩ x) :
    x.height ≤ s.depth n + 1 := by
  have h_within : Walk.Within (s.Meets n) ⟨[], .look n, m⟩ := ⟨nofun, s.meets_self n⟩
  have h_le := ((Engaged.start _ m).steps h).length_le (h_within.steps (s.meets_closed n) h)
  unfold Walk.height
  split <;> omega

/-- Walks never lack fuel within the depth. -/
theorem Scope.Walks.ne_tooDeep {α : Type} {walk : Node → Eval α} {fuel : Nat}
    (h : s.Walks fuel walk) (h_fuel : s.depth n < fuel) : (walk n m).1 ≠ .error .tooDeep := by
  have h_within : Walk.Within (s.Meets n) ⟨[], .look n, m⟩ := ⟨nofun, s.meets_self n⟩
  intro h_deep
  rcases (h [] n m).of_error (Prod.ext h_deep rfl) with h_steps | ⟨-, y, h_steps, h_length⟩
  · exact (h_within.steps (s.meets_closed n) h_steps).control rfl
  · have h_le := ((Walk.Engaged.start _ m).steps h_steps).length_le
      (h_within.steps (s.meets_closed n) h_steps)
    have h_height : y.stack.length = [].length + fuel := h_length
    simp only [List.length_nil] at h_height
    omega

end Walks

/-! ### Solutions -/

namespace Node

variable (s : Scope)

theorem valueRecursion_suffices : (valueRecursion s).Suffices fun i => s.depth i.1 + 1 := by
  rintro ⟨n, c⟩ m h_deep
  rw [← value_eq_within] at h_deep
  exact ((ends_value_depth (Nat.lt_succ_self _)).of_error (Prod.ext h_deep rfl)).1 rfl

theorem countRecursion_suffices : (countRecursion s).Suffices fun n => s.depth n + 1 := by
  intro n m
  rw [← countCases_eq_within]
  exact (countCases_walks s _).ne_tooDeep (Nat.lt_succ_self _)

theorem hasNextRecursion_suffices : (hasNextRecursion s).Suffices fun n => s.depth n + 1 := by
  intro n m
  rw [← hasNextCase_eq_within]
  exact (hasNextCase_walks s _).ne_tooDeep (Nat.lt_succ_self _)

theorem containedRecursion_suffices :
    (containedRecursion s).Suffices fun n => s.depth n + 1 := by
  intro n m
  rw [← containedIds_eq_within]
  exact (containedIds_walks s _).ne_tooDeep (Nat.lt_succ_self _)

end Node

end Specimen
