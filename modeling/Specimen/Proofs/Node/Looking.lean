import Specimen.Node.Cases
import Specimen.Proofs.Node.Guard

/-!
# Looking through nodes step by step

Counting cases, asking whether one is left and collecting ids are three ways to look through a node
and those below it. They differ in what they make of what they see and in where they stop, and go
along the same steps (`Scope.WalkStep`): a walk enters a node and marks it, follows links of the
node it is in, and leaves it again.

* `Node.countCases_walks`, `Node.hasNextCase_walks` and `Node.containedIds_walks`: each of the three
  is such a walk.
* `Walk.Marked`: the nodes that are marked are those on the way, and nothing else is changed. Hence
  a walk that began with no mark leaves the memory as it was, whether it fails or not
  (`Walk.Marked.cell_eq`).
* `Scope.Walks.guarded`: fuel for one more node than there are does not run out.
-/

namespace Specimen

/-! ### One node -/

/-- A node that is not marked is looked through while it is marked. -/
theorem ends_traverse {α : Type} {key : Nat} {i : Identity} {visit : Eval α} {m : Memory}
    {good : α → Memory → Prop} {bad : Failure → Memory → Prop}
    (h : (m.cell key).isVisited = false) : Ends (traverse key i visit) m good bad ↔
      Ends visit (m.update key Cell.visit) (fun a m' => good a (m'.update key Cell.leave))
        fun f m' => bad (f.inNode i.display) (m'.update key Cell.leave) := by
  have h_not : ¬ (m.cells.get key).isVisited = true := Bool.eq_false_iff.1 h
  simp only [traverse, ends_bind, ends_cell, if_neg h_not, ends_update, ends_ensuring, ends_inNode]
  exact Iff.rfl

/-- A node that is marked fails. -/
theorem ends_traverse_marked {α : Type} {key : Nat} {i : Identity} {visit : Eval α} {m : Memory}
    {good : α → Memory → Prop} {bad : Failure → Memory → Prop}
    (h : (m.cell key).isVisited = true) : Ends (traverse key i visit) m good bad ↔
      bad (.fault (.reentrant i.display)) m := by
  have h_marked : (m.cells.get key).isVisited = true := h
  simp only [traverse, ends_bind, ends_cell, if_pos h_marked, ends_fail]

/-- What is shown of the answers that are found while a node is marked is shown of all answers. -/
theorem ends_traverse_answer {α : Type} {key : Nat} {i : Identity} {visit : Eval α} {m : Memory}
    {good : α → Memory → Prop} (h : Ends visit (m.update key Cell.visit)
      (fun a m' => good a (m'.update key Cell.leave)) fun _ _ => True) :
    Ends (traverse key i visit) m good fun _ _ => True := by
  by_cases h_mark : (m.cell key).isVisited = true
  · exact (ends_traverse_marked h_mark).2 trivial
  · exact (ends_traverse (by simpa using h_mark)).2 h

/-! ### Steps -/

/-- What comes next on a walk. -/
inductive Walk.Control where
  /-- A node is looked through. -/
  | look (n : Node)
  /-- The walk is back in the innermost node. -/
  | back
  /-- The innermost node gets a failure. -/
  | fail (f : Failure)

/-- A walk on its way. -/
structure Walk where
  /-- The nodes that are being looked through, the innermost first. -/
  stack : List Node
  control : Walk.Control
  memory : Memory

/-- What is known of a node without looking further. -/
def NodeKind.isLeaf : NodeKind → Bool
  | constant _ | field .. => true
  | _ => false

namespace Scope

variable (s : Scope)

/-- One step of a walk. Which link is followed next is left open. -/
inductive WalkStep : Walk → Walk → Prop where
  | leaf {st n m} (h : n.kind.isLeaf = true) : WalkStep ⟨st, .look n, m⟩ ⟨st, .back, m⟩
  | marked {st n m} (h : n.kind.isLeaf = false) (h_mark : (m.cell n.key).isVisited = true) :
    WalkStep ⟨st, .look n, m⟩ ⟨st, .fail (.fault (.reentrant n.display)), m⟩
  | enter {st n m} (h : n.kind.isLeaf = false) (h_mark : (m.cell n.key).isVisited = false) :
    WalkStep ⟨st, .look n, m⟩ ⟨n :: st, .back, m.update n.key Cell.visit⟩
  | follow {st n link n' m} (h : link ∈ n.kind.links) (h_target : s.target? link = some n') :
    WalkStep ⟨n :: st, .back, m⟩ ⟨n :: st, .look n', m⟩
  | lost {st n id m} (h : .reference id ∈ n.kind.links) (h_lost : s.nodes.get? id = none) :
    WalkStep ⟨n :: st, .back, m⟩ ⟨n :: st, .fail (.fault (.unknownId id)), m⟩
  | leave {st n m} : WalkStep ⟨n :: st, .back, m⟩ ⟨st, .back, m.update n.key Cell.leave⟩
  | fail {st n f m} : WalkStep ⟨n :: st, .fail f, m⟩
      ⟨st, .fail (f.inNode n.display), m.update n.key Cell.leave⟩

/-- Any number of steps. -/
abbrev WalkSteps : Walk → Walk → Prop := Relation.ReflTransGen s.WalkStep

end Scope

/-! ### The walks go in steps -/

section Walks

variable {s : Scope} {α β : Type} {fuel : Nat} {n : Node}

/-- Nodes are looked through in steps, with an amount of fuel. -/
def Scope.Walks (s : Scope) (fuel : Nat) (walk : Node → Eval α) : Prop :=
  ∀ st n m, Ends (walk n) m (fun _ m' => s.WalkSteps ⟨st, .look n, m⟩ ⟨st, .back, m'⟩)
    fun f m' => s.WalkSteps ⟨st, .look n, m⟩ ⟨st, .fail f, m'⟩ ∨
      FuelOut s.WalkStep (·.stack.length) ⟨st, .look n, m⟩ (st.length + fuel) f

/-- What is done inside a node that is being looked through goes in steps. -/
def Scope.WalksIn (s : Scope) (fuel : Nat) (n : Node) (visit : Eval α) : Prop :=
  ∀ st m, Ends visit m (fun _ m' => s.WalkSteps ⟨n :: st, .back, m⟩ ⟨n :: st, .back, m'⟩)
    fun f m' => s.WalkSteps ⟨n :: st, .back, m⟩ ⟨n :: st, .fail f, m'⟩ ∨
      FuelOut s.WalkStep (·.stack.length) ⟨n :: st, .back, m⟩ (st.length + 1 + fuel) f

namespace Scope.WalksIn

theorem pure (a : α) : s.WalksIn fuel n (Pure.pure a) := fun _ _ => .refl

theorem cell (key : Nat) : s.WalksIn fuel n (Eval.cell key) := fun _ _ => .refl

theorem bind {e : Eval α} {k : α → Eval β} (h : s.WalksIn fuel n e)
    (h_next : ∀ a, s.WalksIn fuel n (k a)) : s.WalksIn fuel n (e >>= k) := by
  intro st m
  rw [ends_bind]
  refine (h st m).mono (fun a m' h_steps => ?_) fun _ _ h_bad => h_bad
  refine (h_next a st m').mono (fun _ _ h_rest => h_steps.trans h_rest) fun f m'' h_bad => ?_
  rcases h_bad with h_fail | h_out
  · exact .inl (h_steps.trans h_fail)
  · exact .inr (h_out.head h_steps)

/-- A link of the node is followed. -/
theorem link {walk : Node → Eval α} (h : s.Walks fuel walk) {link : Link}
    (h_link : link ∈ n.kind.links) : s.WalksIn fuel n (s.resolve link >>= walk) := by
  intro st m
  rw [ends_bind, Scope.ends_resolve]
  refine ⟨fun n' h_target => ?_, ?_⟩
  · have h_first : s.WalkSteps ⟨n :: st, .back, m⟩ ⟨n :: st, .look n', m⟩ :=
      .single (.follow h_link h_target)
    refine (h (n :: st) n' m).mono (fun _ _ h_steps => h_first.trans h_steps) fun f m' h_bad => ?_
    rcases h_bad with h_fail | h_out
    · exact .inl (h_first.trans h_fail)
    · exact .inr (h_out.head h_first)
  · rintro id rfl h_lost
    exact .inl (.single (.lost h_link h_lost))

/-- A link of the node is followed, and something is made of what was seen. -/
theorem linkThen {walk : Node → Eval α} (h : s.Walks fuel walk) {link : Link}
    (h_link : link ∈ n.kind.links) {k : α → Eval β} (h_next : ∀ a, s.WalksIn fuel n (k a)) :
    s.WalksIn fuel n (s.resolve link >>= fun n' => walk n' >>= k) := by
  rw [← bind_assoc]
  exact (Scope.WalksIn.link h h_link).bind h_next

/-- A node is entered and left again, or was marked already. -/
theorem traverse {visit : Eval α} (h : s.WalksIn fuel n visit) (h_kind : n.kind.isLeaf = false)
    (st : List Node) (m : Memory) : Ends (traverse n.key n.identity visit) m
      (fun _ m' => s.WalkSteps ⟨st, .look n, m⟩ ⟨st, .back, m'⟩)
      fun f m' => s.WalkSteps ⟨st, .look n, m⟩ ⟨st, .fail f, m'⟩ ∨
        FuelOut s.WalkStep (·.stack.length) ⟨st, .look n, m⟩ (st.length + 1 + fuel) f := by
  by_cases h_mark : (m.cell n.key).isVisited = true
  · refine (ends_traverse_marked h_mark).2 (.inl (.single ?_))
    exact .marked h_kind h_mark
  · have h_mark : (m.cell n.key).isVisited = false := by simpa using h_mark
    have h_enter : s.WalkSteps ⟨st, .look n, m⟩ ⟨n :: st, .back, m.update n.key Cell.visit⟩ :=
      .single (.enter h_kind h_mark)
    rw [ends_traverse h_mark]
    refine (h st _).mono (fun _ _ h_steps => (h_enter.trans h_steps).tail .leave)
      fun f m' h_bad => ?_
    rcases h_bad with h_fail | h_out
    · exact .inl ((h_enter.trans h_fail).tail .fail)
    · obtain ⟨rfl, h_deep⟩ := h_out.head h_enter
      exact .inr ⟨rfl, h_deep⟩

end Scope.WalksIn

theorem Scope.widest_walks {count : Node → Eval Nat} (h : s.Walks fuel count) (links : List Link)
    (h_links : ∀ link ∈ links, link ∈ n.kind.links) (most : Nat) :
    s.WalksIn fuel n (s.widest count links most) := by
  induction links generalizing most with
  | nil => exact .pure most
  | cons link links ih =>
    rw [Scope.widest]
    exact .linkThen h (h_links link List.mem_cons_self) fun _ =>
      ih (fun l h_l => h_links l (List.mem_cons_of_mem _ h_l)) _

theorem Scope.anyNext_walks {hasNext : Node → Eval Bool} (h : s.Walks fuel hasNext)
    (links : List Link) (h_links : ∀ link ∈ links, link ∈ n.kind.links) :
    s.WalksIn fuel n (s.anyNext hasNext links) := by
  induction links with
  | nil => exact .pure false
  | cons link links ih =>
    rw [Scope.anyNext]
    refine .linkThen h (h_links link List.mem_cons_self) fun found => ?_
    split
    · exact .pure true
    · exact ih fun l h_l => h_links l (List.mem_cons_of_mem _ h_l)

theorem Scope.reached_walks {contained : Node → Eval NameSet} (h : s.Walks fuel contained)
    (links : List Link) (h_links : ∀ link ∈ links, link ∈ n.kind.links) (ids : NameSet) :
    s.WalksIn fuel n (s.reached contained links ids) := by
  induction links generalizing ids with
  | nil => exact .pure ids
  | cons link links ih =>
    rw [Scope.reached]
    exact .linkThen h (h_links link List.mem_cons_self) fun _ =>
      ih (fun l h_l => h_links l (List.mem_cons_of_mem _ h_l)) _

/-- **Counting is a walk.** -/
theorem Node.countCases_walks (s : Scope) : ∀ fuel, s.Walks fuel (Node.countCases s fuel)
  | 0, _, _, _ => .inr ⟨rfl, _, .refl, rfl⟩
  | fuel + 1, st, n, m => by
    have h_count := Node.countCases_walks s fuel
    have h_depth : st.length + (fuel + 1) = st.length + 1 + fuel := by omega
    rw [h_depth]
    unfold Node.countCases
    split
    · next h_kind => exact .single (.leaf (by rw [h_kind]; rfl))
    · next h_kind => exact .single (.leaf (by rw [h_kind]; rfl))
    · next parts _ h_kind =>
      refine Scope.WalksIn.traverse (s.widest_walks h_count parts ?_ 1) (by rw [h_kind]; rfl) st m
      exact fun link h_link => h_kind ▸ h_link
    · next child _ h_kind =>
      refine Scope.WalksIn.traverse (.linkThen h_count ?_ fun _ => .pure _)
        (by rw [h_kind]; rfl) st m
      exact h_kind ▸ List.mem_singleton_self _
    · next child h_kind =>
      refine Scope.WalksIn.traverse (.link h_count ?_) (by rw [h_kind]; rfl) st m
      exact h_kind ▸ List.mem_singleton_self _

/-- **Looking for a case that is left is a walk.** -/
theorem Node.hasNextCase_walks (s : Scope) : ∀ fuel, s.Walks fuel (Node.hasNextCase s fuel)
  | 0, _, _, _ => .inr ⟨rfl, _, .refl, rfl⟩
  | fuel + 1, st, n, m => by
    have h_next := Node.hasNextCase_walks s fuel
    have h_depth : st.length + (fuel + 1) = st.length + 1 + fuel := by omega
    rw [h_depth]
    unfold Node.hasNextCase
    split
    · next h_kind =>
      rw [ends_bind, ends_cell]
      exact .single (.leaf (by rw [h_kind]; rfl))
    · next h_kind =>
      rw [ends_bind, ends_cell]
      exact .single (.leaf (by rw [h_kind]; rfl))
    · next parts _ h_kind =>
      refine Scope.WalksIn.traverse (s.anyNext_walks h_next parts ?_) (by rw [h_kind]; rfl) st m
      exact fun link h_link => h_kind ▸ h_link
    · next child rule h_kind =>
      have h_child : s.WalksIn fuel n (s.resolve child >>= Node.hasNextCase s fuel) :=
        .link h_next (h_kind ▸ List.mem_singleton_self _)
      refine Scope.WalksIn.traverse (.bind (.cell _) fun cell => ?_) (by rw [h_kind]; rfl) st m
      -- the child is looked at unless the choice alone decides
      split
      · exact h_child
      · exact .pure _
      · split
        · exact .pure _
        · exact h_child
    · next child h_kind =>
      refine Scope.WalksIn.traverse (.link h_next ?_) (by rw [h_kind]; rfl) st m
      exact h_kind ▸ List.mem_singleton_self _

/-- **Collecting ids is a walk.** -/
theorem Node.containedIds_walks (s : Scope) : ∀ fuel, s.Walks fuel (Node.containedIds s fuel)
  | 0, _, _, _ => .inr ⟨rfl, _, .refl, rfl⟩
  | fuel + 1, st, n, m => by
    have h_contained := Node.containedIds_walks s fuel
    have h_depth : st.length + (fuel + 1) = st.length + 1 + fuel := by omega
    rw [h_depth]
    unfold Node.containedIds
    split
    · next h_kind => exact .single (.leaf (by rw [h_kind]; rfl))
    · next h_kind => exact .single (.leaf (by rw [h_kind]; rfl))
    · next h_constant h_field =>
      -- whatever has parts, or a child, is gone through in the same way
      have h_kind : n.kind.isLeaf = false := by
        cases h : n.kind with
        | constant value => exact absurd h (h_constant value)
        | field f set => exact absurd h (h_field f set)
        | _ => rfl
      exact Scope.WalksIn.traverse (s.reached_walks h_contained _ (fun _ h_link => h_link) _)
        h_kind st m

end Walks

/-! ### Marks -/

/-- **Requests to look through a node.** Whatever is to be looked at, a node is turned down as
re-entrant exactly when it is marked. -/
theorem traverse_reentrant_iff {α : Type} {key : Nat} {i : Identity} {visit : Eval α} {m : Memory} :
    (traverse key i visit m).1 = .error (.fault (.reentrant i.display)) ↔
      (m.cell key).isVisited = true := by
  constructor
  · intro h_error
    by_contra h_not
    -- without a mark the node is entered, and what fails then fails inside it
    refine fst_ne_reentrant ?_ h_error
    rw [ends_traverse (by simpa using h_not)]
    exact ends_iff.2 ⟨fun _ _ _ => trivial, fun f _ _ => ⟨_, f, rfl⟩⟩
  · intro h_mark
    have h_fails : Ends (traverse key i visit) m (fun _ _ => False)
        fun f _ => f = .fault (.reentrant i.display) := (ends_traverse_marked h_mark).2 rfl
    exact h_fails.fst_eq_error

/-- On a walk that began in a memory the nodes on the way are marked, each of them once, and nothing
else has changed. -/
structure Walk.Marked (m : Memory) (x : Walk) : Prop where
  visited_iff : ∀ key, (x.memory.cell key).isVisited = true ↔ ∃ n ∈ x.stack, n.key = key
  keys_nodup : (x.stack.map Node.key).Nodup
  cell : ∀ key, (x.memory.cell key).leave = (m.cell key).leave
  rest : x.memory.tokens = m.tokens ∧ x.memory.draws = m.draws ∧ x.memory.passes = m.passes ∧
    x.memory.log = m.log

namespace Walk.Marked

variable {s : Scope} {Member : Node → Prop} {m : Memory} {x y : Walk}

/-- Where nothing is marked, a walk begins. -/
theorem start (h_mark : ∀ key, (m.cell key).isVisited = false) (control : Control) :
    Marked m ⟨[], control, m⟩ where
  visited_iff key := by simp [h_mark]
  keys_nodup := .nil
  cell _ := rfl
  rest := ⟨rfl, rfl, rfl, rfl⟩

theorem congr (h : x.Marked m) (control : Control) : Marked m ⟨x.stack, control, x.memory⟩ :=
  ⟨h.visited_iff, h.keys_nodup, h.cell, h.rest⟩

/-- A change of marks alone leaves everything else as it is. -/
theorem cell_update (h : x.Marked m) {key : Nat} {change : Cell → Cell}
    (h_change : ∀ c, (change c).leave = c.leave) (other : Nat) :
    ((x.memory.update key change).cell other).leave = (m.cell other).leave :=
  (Memory.cell_update_keeps Cell.leave change h_change x.memory key other).trans (h.cell other)

/-- A node that is not marked is entered. -/
theorem push {st : List Node} {n : Node} {k : Memory} {control control' : Control}
    (h : Marked m ⟨st, control, k⟩) (h_mark : (k.cell n.key).isVisited = false) :
    Marked m ⟨n :: st, control', k.update n.key Cell.visit⟩ where
  visited_iff key := by
    rw [Memory.cell_update]
    split
    · next h_eq => simp [h_eq, Cell.visit]
    · next h_ne =>
      rw [h.visited_iff]
      simp [Ne.symm h_ne]
  keys_nodup := by
    refine List.nodup_cons.2 ⟨fun h_mem => ?_, h.keys_nodup⟩
    obtain ⟨n', h_n', h_key⟩ := List.mem_map.1 h_mem
    -- a node with this key on the way would be marked
    have h_marked := (h.visited_iff n.key).2 ⟨n', h_n', h_key⟩
    rw [h_mark] at h_marked
    cases h_marked
  cell := h.cell_update fun _ => rfl
  rest := h.rest

/-- The innermost node is left. -/
theorem pop {st : List Node} {n : Node} {k : Memory} {control control' : Control}
    (h : Marked m ⟨n :: st, control, k⟩) :
    Marked m ⟨st, control', k.update n.key Cell.leave⟩ where
  visited_iff key := by
    -- no other node on the way has the key, so nobody needs the mark that is taken off
    have h_once := (List.nodup_cons.1 h.keys_nodup).1
    rw [Memory.cell_update]
    split
    · next h_eq =>
      subst h_eq
      constructor
      · intro h_mark
        cases h_mark
      · rintro ⟨n', h_n', h_key⟩
        exact absurd (List.mem_map.2 ⟨n', h_n', h_key⟩) h_once
    · next h_ne =>
      rw [h.visited_iff]
      simp [Ne.symm h_ne]
  keys_nodup := (List.nodup_cons.1 h.keys_nodup).2
  cell := h.cell_update fun _ => rfl
  rest := h.rest

/-- **One step.** -/
theorem step (h : x.Marked m) (h_step : s.WalkStep x y) : y.Marked m := by
  cases h_step with
  | leaf _ | marked _ _ | follow _ _ | lost _ _ => exact h.congr _
  | enter _ h_mark => exact h.push h_mark
  | leave | fail => exact h.pop

/-- **All steps.** -/
theorem steps (h : x.Marked m) (h_steps : s.WalkSteps x y) : y.Marked m := by
  induction h_steps with
  | refl => exact h
  | tail _ h_step ih => exact ih.step h_step

/-- When a walk is over, the memory is what it was, if nothing was marked then. -/
theorem cell_eq (h : x.Marked m) (h_stack : x.stack = [])
    (h_mark : ∀ key, (m.cell key).isVisited = false) (key : Nat) :
    x.memory.cell key = m.cell key := by
  have h_unmarked : (x.memory.cell key).isVisited = false := by
    refine Bool.eq_false_iff.2 fun h_visited => ?_
    obtain ⟨n, h_n, -⟩ := (h.visited_iff key).1 h_visited
    rw [h_stack] at h_n
    exact absurd h_n List.not_mem_nil
  -- leaving a node that is not marked changes nothing
  have h_leave : ∀ c : Cell, c.isVisited = false → c.leave = c := by
    intro c h_c
    rw [Cell.leave, ← h_c]
  rw [← h_leave _ h_unmarked, ← h_leave _ (h_mark key)]
  exact h.cell key

end Walk.Marked

/-! ### How deep walks go -/

/-- What comes next is about the members of a set of nodes. -/
def Walk.Control.Within (Member : Node → Prop) : Walk.Control → Prop
  | .look n => Member n
  | .back => True
  | .fail f => f ≠ .tooDeep

/-- A walk goes through the members of a set of nodes. -/
structure Walk.Within (Member : Node → Prop) (x : Walk) : Prop where
  stack : ∀ n ∈ x.stack, Member n
  control : x.control.Within Member

section Within

variable {s : Scope} {Member : Node → Prop} {m : Memory} {x y : Walk}

theorem Walk.Within.step (h_closed : s.Closed Member) (h : x.Within Member)
    (h_step : s.WalkStep x y) : y.Within Member := by
  cases h_step with
  | leaf _ => exact ⟨h.stack, trivial⟩
  | marked _ _ | lost _ _ => exact ⟨h.stack, nofun⟩
  | enter _ _ => exact ⟨List.forall_mem_cons.2 ⟨h.control, h.stack⟩, trivial⟩
  | follow h_link h_target =>
    refine ⟨h.stack, ?_⟩
    exact h_closed _ _ (h.stack _ List.mem_cons_self) (Scope.calls_of_link h_link h_target)
  | leave => exact ⟨(List.forall_mem_cons.1 h.stack).2, trivial⟩
  | fail => exact ⟨(List.forall_mem_cons.1 h.stack).2, Failure.inNode_ne_tooDeep h.control _⟩

theorem Walk.Within.steps (h_closed : s.Closed Member) (h : x.Within Member)
    (h_steps : s.WalkSteps x y) : y.Within Member := by
  induction h_steps with
  | refl => exact h
  | tail _ h_step ih => exact ih.step h_closed h_step

/-- **Depth.** No more nodes are on the way than there are keys. -/
theorem Walk.Marked.length_le (h : x.Marked m) (h_within : x.Within Member) {size : Nat}
    (h_size : ∀ n, Member n → n.key < size) : x.stack.length ≤ size := by
  have h_keys := length_le_of_nodup h.keys_nodup fun key h_key => by
    obtain ⟨n, h_n, rfl⟩ := List.mem_map.1 h_key
    exact h_size n (h_within.stack n h_n)
  rwa [List.length_map] at h_keys

/-- **Walks, with enough fuel.** If nothing is marked, a walk goes in steps to an end, and fuel for
one more node than there are does not run out. -/
theorem Scope.Walks.guarded {α : Type} {walk : Node → Eval α} {size fuel : Nat}
    (h : s.Walks fuel walk) (h_closed : s.Closed Member) (h_size : ∀ n, Member n → n.key < size)
    (h_fuel : size < fuel) {n : Node} (h_n : Member n)
    (h_mark : ∀ key, (m.cell key).isVisited = false) : Ends (walk n) m
      (fun _ m' => s.WalkSteps ⟨[], .look n, m⟩ ⟨[], .back, m'⟩)
      fun f m' => s.WalkSteps ⟨[], .look n, m⟩ ⟨[], .fail f, m'⟩ := by
  have h_within : Walk.Within Member ⟨[], .look n, m⟩ := ⟨nofun, h_n⟩
  refine (h [] n m).mono (fun _ _ h_steps => h_steps) fun f m' h_bad => ?_
  rcases h_bad with h_steps | ⟨-, y, h_steps, h_length⟩
  · exact h_steps
  · -- there would be more nodes on the way than there are
    have h_le := ((Walk.Marked.start h_mark _).steps h_steps).length_le
      (h_within.steps h_closed h_steps) h_size
    have h_height : y.stack.length = [].length + fuel := h_length
    simp only [List.length_nil] at h_height
    omega

end Within

end Specimen
