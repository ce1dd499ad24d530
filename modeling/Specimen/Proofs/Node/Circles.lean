import Specimen.Proofs.Dict
import Specimen.Proofs.Node.Looking

/-!
# Circles of links

Collecting the ids of a node follows every link below it, so it notices a circle wherever there is
one: it fails as re-entrant exactly when the links of the node lead to a circle
(`Node.containedIds_reentrant_iff`).

* An answer shows that there is no circle, as every path of links comes to an end then
  (`Node.ends_containedIds_acc`).
* For the converse the walk is watched step by step. Each node on the way leads to whatever is
  looked at next (`Walk.Leads`), so a node that is marked already leads to itself. No other fault
  can arise if every link leads to a node.

Where there is no circle, an answer holds the ids of the nodes to which a path of links leads, and
no others, however many paths lead to one of them (`Node.ends_containedIds_reached`).
-/

namespace Specimen

/-- A node has another one as a part. -/
def Scope.Links (s : Scope) (n n' : Node) : Prop := ∃ link ∈ n.kind.links, s.target? link = some n'

/-- Links of a node lead to a circle. -/
def Scope.LeadsToCircle (s : Scope) (n : Node) : Prop :=
  ∃ k, Relation.ReflTransGen s.Links n k ∧ Relation.TransGen s.Links k k

variable {s : Scope} {n : Node} {m : Memory}

/-! ### Answers -/

/-- A node that leads to a circle has a part that does. -/
theorem Scope.LeadsToCircle.exists_part (h : s.LeadsToCircle n) :
    ∃ n', s.Links n n' ∧ s.LeadsToCircle n' := by
  obtain ⟨k, h_path, h_circle⟩ := h
  rcases Relation.ReflTransGen.cases_head h_path with rfl | ⟨n', h_first, h_rest⟩
  · -- the node is on the circle itself, and so is the next one
    obtain ⟨n', h_first, h_rest⟩ := Relation.TransGen.head'_iff.1 h_circle
    exact ⟨n', h_first, n, h_rest, h_circle⟩
  · exact ⟨n', h_first, k, h_rest, h_circle⟩

/-- Where all paths come to an end there is no circle. -/
theorem Scope.not_leadsToCircle_of_acc (h : Acc (fun b a => s.Links a b) n) :
    ¬ s.LeadsToCircle n := by
  induction h with
  | intro n _ ih =>
    intro h_circle
    obtain ⟨n', h_link, h_circle'⟩ := h_circle.exists_part
    exact ih n' h_link h_circle'

/-- If all parts are gone through, the paths from each of them come to an end. -/
theorem Scope.ends_reached_acc {contained : Node → Eval NameSet}
    (h : ∀ n m, Ends (contained n) m (fun _ _ => Acc (fun b a => s.Links a b) n) fun _ _ => True)
    (links : List Link) (ids : NameSet) (m : Memory) : Ends (s.reached contained links ids) m
      (fun _ _ => ∀ link ∈ links, ∀ n, s.target? link = some n →
        Acc (fun b a => s.Links a b) n) fun _ _ => True := by
  induction links generalizing ids m with
  | nil => exact fun _ h_link => absurd h_link List.not_mem_nil
  | cons link links ih =>
    simp only [Scope.reached, ends_bind, Scope.ends_resolve]
    refine ⟨fun n h_target => ?_, fun _ _ _ => trivial⟩
    refine (h n m).mono (fun more m' h_n => ?_) fun _ _ _ => trivial
    refine (ih _ m').mono (fun _ _ h_rest => ?_) fun _ _ _ => trivial
    refine List.forall_mem_cons.2 ⟨fun n' h_target' => ?_, h_rest⟩
    exact Option.some.inj (h_target.symm.trans h_target') ▸ h_n

/-- **An answer shows that every path of links comes to an end.** -/
theorem Node.ends_containedIds_acc : ∀ fuel n m, Ends (Node.containedIds s fuel n) m
    (fun _ _ => Acc (fun b a => s.Links a b) n) fun _ _ => True
  | 0, _, _ => trivial
  | fuel + 1, n, m => by
    have h_leaf : n.kind.links = [] → Acc (fun b a => s.Links a b) n := by
      rintro h_none
      refine ⟨_, fun n' ⟨link, h_link, _⟩ => ?_⟩
      rw [h_none] at h_link
      exact absurd h_link List.not_mem_nil
    unfold Node.containedIds
    split
    · next h_kind => exact h_leaf (by rw [h_kind]; rfl)
    · next h_kind => exact h_leaf (by rw [h_kind]; rfl)
    · refine ends_traverse_answer ?_
      refine (s.ends_reached_acc (Node.ends_containedIds_acc fuel) _ _ _).mono ?_
        fun _ _ _ => trivial
      exact fun _ _ h_parts => ⟨_, fun n' ⟨link, h_link, h_target⟩ =>
        h_parts link h_link n' h_target⟩

/-! ### Failures -/

/-- The failure is that a node was re-entered. -/
def Failure.IsReentrant : Failure → Prop
  | .fault f => f.isReentrant = true
  | _ => False

/-- Naming a node in a failure does not change its cause. -/
theorem Failure.IsReentrant.inNode {f : Failure} (h : f.IsReentrant) (node : String) :
    (f.inNode node).IsReentrant := by
  cases f with
  | fault f => exact h
  | crash _ => exact h.elim
  | tooDeep => exact h.elim

/-- On a walk from a node every node on the way leads to those further inside and to what is looked
at. If the walk fails, then because it has come round. -/
structure Walk.Leads (s : Scope) (origin : Node) (x : Walk) : Prop where
  reached : ∀ n ∈ x.stack, Relation.ReflTransGen s.Links origin n
  inwards : x.stack.Pairwise fun inner outer => Relation.TransGen s.Links outer inner
  look : ∀ n, x.control = .look n → Relation.ReflTransGen s.Links origin n ∧
    ∀ outer ∈ x.stack, Relation.TransGen s.Links outer n
  fail : ∀ f, x.control = .fail f → f.IsReentrant ∧ s.LeadsToCircle origin

namespace Walk.Leads

variable {origin : Node} {x y : Walk} {Member : Node → Prop}

theorem start (s : Scope) (n : Node) (m : Memory) : Leads s n ⟨[], .look n, m⟩ where
  reached := nofun
  inwards := .nil
  look _ h := by
    cases h
    exact ⟨.refl, nofun⟩
  fail := nofun

/-- **One step.** -/
theorem step (h : x.Leads s origin) (h_marked : x.Marked m) (h_within : x.Within Member)
    (h_keys : ∀ n n', Member n → Member n' → n.key = n'.key → n = n')
    (h_targets : ∀ n link, Member n → link ∈ n.kind.links → ∃ n', s.target? link = some n')
    (h_step : s.WalkStep x y) : y.Leads s origin := by
  cases h_step with
  | leaf _ => exact ⟨h.reached, h.inwards, nofun, nofun⟩
  | @marked st n k _ h_mark =>
    -- what is marked is on the way, and leads to what is looked at: itself
    obtain ⟨n', h_n', h_key⟩ := (h_marked.visited_iff n.key).1 h_mark
    obtain rfl := h_keys n' n (h_within.stack n' h_n') h_within.control h_key
    obtain ⟨h_origin, h_look⟩ := h.look n' rfl
    refine ⟨h.reached, h.inwards, nofun, fun f h_f => ?_⟩
    cases h_f
    exact ⟨rfl, n', h_origin, h_look n' h_n'⟩
  | @enter st n k _ _ =>
    obtain ⟨h_origin, h_look⟩ := h.look n rfl
    exact ⟨List.forall_mem_cons.2 ⟨h_origin, h.reached⟩, List.pairwise_cons.2 ⟨h_look, h.inwards⟩,
      nofun, nofun⟩
  | @follow st n link n' k h_link h_target =>
    have h_next : s.Links n n' := ⟨link, h_link, h_target⟩
    have h_inwards := List.pairwise_cons.1 h.inwards
    refine ⟨h.reached, h.inwards, fun k h_k => ?_, nofun⟩
    cases h_k
    refine ⟨(h.reached n List.mem_cons_self).tail h_next,
      List.forall_mem_cons.2 ⟨.single h_next, fun outer h_outer => ?_⟩⟩
    exact (h_inwards.1 outer h_outer).tail h_next
  | @lost st n id k h_link h_lost =>
    -- every link leads to a node
    obtain ⟨n', h_target⟩ := h_targets n _ (h_within.stack n List.mem_cons_self) h_link
    cases h_lost.symm.trans h_target
  | leave =>
    exact ⟨(List.forall_mem_cons.1 h.reached).2, (List.pairwise_cons.1 h.inwards).2, nofun, nofun⟩
  | @fail st n f k =>
    obtain ⟨h_reentrant, h_circle⟩ := h.fail f rfl
    refine ⟨(List.forall_mem_cons.1 h.reached).2, (List.pairwise_cons.1 h.inwards).2, nofun,
      fun f' h_f' => ?_⟩
    cases h_f'
    exact ⟨h_reentrant.inNode _, h_circle⟩

/-- **All steps.** -/
theorem steps (h : x.Leads s origin) (h_marked : x.Marked m) (h_within : x.Within Member)
    (h_closed : s.Closed Member)
    (h_keys : ∀ n n', Member n → Member n' → n.key = n'.key → n = n')
    (h_targets : ∀ n link, Member n → link ∈ n.kind.links → ∃ n', s.target? link = some n')
    (h_steps : s.WalkSteps x y) : y.Leads s origin := by
  induction h_steps with
  | refl => exact h
  | tail h_before h_step ih =>
    exact ih.step (h_marked.steps h_before) (h_within.steps h_closed h_before) h_keys h_targets
      h_step

end Walk.Leads

section Noticed

variable {Member : Node → Prop} {size fuel : Nat}

/-- Take nodes that are told apart by their keys, each of whose links leads to one of them, and a
memory in which none is marked. A failure of whatever kind is due to a circle then, whatever one of
them is looked through for. -/
theorem Scope.Walks.failure {α : Type} {walk : Node → Eval α} {f : Failure} {m' : Memory}
    (h : s.Walks fuel walk) (h_closed : s.Closed Member) (h_size : ∀ n, Member n → n.key < size)
    (h_fuel : size < fuel)
    (h_keys : ∀ n n', Member n → Member n' → n.key = n'.key → n = n')
    (h_targets : ∀ n link, Member n → link ∈ n.kind.links → ∃ n', s.target? link = some n')
    (h_n : Member n) (h_mark : ∀ key, (m.cell key).isVisited = false)
    (h_error : walk n m = (.error f, m')) : f.IsReentrant ∧ s.LeadsToCircle n := by
  have h_steps := h.guarded h_closed h_size h_fuel h_n h_mark
  have h_leads := (Walk.Leads.start s n m).steps (Walk.Marked.start h_mark _) ⟨nofun, h_n⟩
    h_closed h_keys h_targets (h_steps.of_error h_error)
  exact h_leads.fail f rfl

theorem Node.containedIds_error {f : Failure} {m' : Memory}
    (h_closed : s.Closed Member) (h_size : ∀ n, Member n → n.key < size) (h_fuel : size < fuel)
    (h_keys : ∀ n n', Member n → Member n' → n.key = n'.key → n = n')
    (h_targets : ∀ n link, Member n → link ∈ n.kind.links → ∃ n', s.target? link = some n')
    (h_n : Member n) (h_mark : ∀ key, (m.cell key).isVisited = false)
    (h_error : n.containedIds s fuel m = (.error f, m')) :
    f.IsReentrant ∧ s.LeadsToCircle n :=
  (Node.containedIds_walks s fuel).failure h_closed h_size h_fuel h_keys h_targets h_n h_mark
    h_error

/-- **Circles are noticed.** Take nodes that are told apart by their keys, each of whose links leads
to one of them, and a memory in which none is marked. Collecting the ids of one of them fails as
re-entrant exactly when it leads to a circle. -/
theorem Node.containedIds_reentrant_iff
    (h_closed : s.Closed Member) (h_size : ∀ n, Member n → n.key < size) (h_fuel : size < fuel)
    (h_keys : ∀ n n', Member n → Member n' → n.key = n'.key → n = n')
    (h_targets : ∀ n link, Member n → link ∈ n.kind.links → ∃ n', s.target? link = some n')
    (h_n : Member n) (h_mark : ∀ key, (m.cell key).isVisited = false) :
    (∃ f m', n.containedIds s fuel m = (.error f, m') ∧ f.IsReentrant) ↔ s.LeadsToCircle n := by
  constructor
  · rintro ⟨f, m', h_error, -⟩
    exact (Node.containedIds_error h_closed h_size h_fuel h_keys h_targets h_n h_mark h_error).2
  · intro h_circle
    rcases h_eq : n.containedIds s fuel m with ⟨f | ids, m'⟩
    · exact ⟨f, m', rfl,
        (Node.containedIds_error h_closed h_size h_fuel h_keys h_targets h_n h_mark h_eq).1⟩
    · have h_acc := (Node.ends_containedIds_acc fuel n m).of_ok h_eq
      exact absurd h_circle (Scope.not_leadsToCircle_of_acc h_acc)

end Noticed

/-! ### Ordered nodes -/

section Ordered

variable {Member : Node → Prop} {rank : Nat → Nat} {size fuel : Nat}

/-- Where links lead to lower ranks only, they lead to no circle. -/
theorem Scope.Ordered.not_leadsToCircle (h : s.Ordered Member rank) (h_n : Member n) :
    ¬ s.LeadsToCircle n := by
  refine Scope.not_leadsToCircle_of_acc ?_
  induction h_rank : rank n.key using Nat.strongRecOn generalizing n with
  | ind r ih =>
    refine ⟨_, fun n' ⟨link, h_link, h_target⟩ => ?_⟩
    obtain ⟨k, h_k, h_member, h_lt⟩ := h.target n link h_n h_link
    obtain rfl := Option.some.inj (h_target.symm.trans h_k)
    exact ih _ (h_rank ▸ h_lt) h_member rfl

/-- **Looking through ordered nodes** answers and changes nothing, whatever it is done for. -/
theorem Scope.Walks.settles {α : Type} {expected : Crash → Prop} {walk : Node → Eval α}
    (h : s.Walks fuel walk) (h_ordered : s.Ordered Member rank) (h_closed : s.Closed Member)
    (h_size : ∀ n, Member n → n.key < size) (h_fuel : size < fuel)
    (h_keys : ∀ n n', Member n → Member n' → n.key = n'.key → n = n') (h_n : Member n)
    (h_mark : ∀ key, (m.cell key).isVisited = false) : Settles expected (walk n) m := by
  have h_targets : ∀ n link, Member n → link ∈ n.kind.links →
      ∃ n', s.target? link = some n' := by
    intro n link h_n h_link
    obtain ⟨n', h_target, -⟩ := h_ordered.target n link h_n h_link
    exact ⟨n', h_target⟩
  refine ends_iff.2 ⟨fun a m' h_ok => ?_, fun f m' h_error => ?_⟩
  · have h_steps := (h.guarded h_closed h_size h_fuel h_n h_mark).of_ok h_ok
    exact .of_cells (((Walk.Marked.start h_mark _).steps h_steps).cell_eq rfl h_mark)
  · -- a failure would be due to a circle
    have h_circle := (h.failure h_closed h_size h_fuel h_keys h_targets h_n h_mark h_error).2
    exact absurd h_circle (h_ordered.not_leadsToCircle h_n)

end Ordered

/-! ### Ids below a node -/

/-- Links lead from a node to one with an id. -/
def Scope.ReachesId (s : Scope) (n : Node) (id : String) : Prop :=
  ∃ k, Relation.ReflTransGen s.Links n k ∧ k.id = some id

/-- An id that is reached is the own one or is reached from a part. -/
theorem Scope.reachesId_iff {id : String} : s.ReachesId n id ↔
    n.id = some id ∨ ∃ link ∈ n.kind.links, ∃ n', s.target? link = some n' ∧ s.ReachesId n' id := by
  constructor
  · rintro ⟨k, h_path, h_id⟩
    rcases Relation.ReflTransGen.cases_head h_path with rfl | ⟨n', ⟨link, h_link, h_target⟩, h_rest⟩
    · exact .inl h_id
    · exact .inr ⟨link, h_link, n', h_target, k, h_rest, h_id⟩
  · rintro (h_id | ⟨link, h_link, n', h_target, k, h_rest, h_id⟩)
    · exact ⟨n, .refl, h_id⟩
    · exact ⟨k, .head ⟨link, h_link, h_target⟩ h_rest, h_id⟩

theorem Node.contains_ownIds {id : String} : n.ownIds.contains id = true ↔ n.id = some id := by
  rw [← Dict.mem_keys_iff, Node.ownIds, NameSet.mem_ofNames, Option.mem_toList]

/-- If each part answers the ids that it reaches, those of all parts are added. -/
theorem Scope.ends_reached_ids {contained : Node → Eval NameSet}
    (h : ∀ n m, Ends (contained n) m
      (fun ids _ => ∀ id, ids.contains id = true ↔ s.ReachesId n id) fun _ _ => True)
    (links : List Link) (ids : NameSet) (m : Memory) : Ends (s.reached contained links ids) m
      (fun all _ => ∀ id, all.contains id = true ↔ ids.contains id = true ∨
        ∃ link ∈ links, ∃ n, s.target? link = some n ∧ s.ReachesId n id) fun _ _ => True := by
  induction links generalizing ids m with
  | nil => exact fun id => by simp
  | cons link links ih =>
    simp only [Scope.reached, ends_bind, Scope.ends_resolve]
    refine ⟨fun n h_target => ?_, fun _ _ _ => trivial⟩
    refine (h n m).mono (fun more m' h_more => ?_) fun _ _ _ => trivial
    refine (ih _ m').mono (fun all _ h_all id => ?_) fun _ _ _ => trivial
    -- the ids that the first part reaches are those that it has answered
    have h_first : (∃ n', s.target? link = some n' ∧ s.ReachesId n' id) ↔ id ∈ more.keys := by
      rw [Dict.mem_keys_iff, h_more id, h_target]
      constructor
      · rintro ⟨n', h_n', h_reached⟩
        exact Option.some.inj h_n' ▸ h_reached
      · exact fun h_reached => ⟨n, rfl, h_reached⟩
    rw [h_all id, NameSet.contains_foldl_insert, List.exists_mem_cons_iff, h_first, or_assoc]

/-- **An answer holds the ids that are reached**, and no others. -/
theorem Node.ends_containedIds_reached : ∀ fuel n m, Ends (Node.containedIds s fuel n) m
    (fun ids _ => ∀ id, ids.contains id = true ↔ s.ReachesId n id) fun _ _ => True
  | 0, _, _ => trivial
  | fuel + 1, n, m => by
    -- a node without parts reaches its own id only
    have h_leaf : n.kind.links = [] → ∀ id, n.ownIds.contains id = true ↔ s.ReachesId n id := by
      intro h_none id
      rw [Node.contains_ownIds, Scope.reachesId_iff, h_none]
      simp
    unfold Node.containedIds
    split
    · next h_kind => exact h_leaf (by rw [h_kind]; rfl)
    · next h_kind => exact h_leaf (by rw [h_kind]; rfl)
    · refine ends_traverse_answer ?_
      refine (s.ends_reached_ids (Node.ends_containedIds_reached fuel) _ _ _).mono ?_
        fun _ _ _ => trivial
      intro ids _ h_ids id
      rw [h_ids id, Node.contains_ownIds, Scope.reachesId_iff]

end Specimen
