import Mathlib.Algebra.Ring.Nat
import Mathlib.Data.Finset.Card
import Mathlib.Data.Finset.Dedup
import Specimen.Proofs.Field
import Specimen.Proofs.Node.Circles

/-!
# Counted cases and how many there are

Numbers of cases are those of 64 bits and stay at the greatest one. Beside them stands the number
that has no limit (`Scope.HasCases`): an optional node has twice the cases of its child and one
more, so that a few dozen of them below each other exceed any machine number.

Cutting a number off commutes with what is done to numbers of cases (`saturated_max`,
`saturated_optional`). Hence what is counted for a node is the number without limit, cut off once
(`Node.ends_countCases`). Counting can fail only because of a circle (`Scope.Walks.failure`), and
where there is none the number is there and counted (`Node.exists_countCases`). Whatever else is
said of counted numbers of cases follows from what is said of the numbers without limit.
-/

namespace Specimen

/-! ### Cutting off -/

theorem saturated_eq_min (k : Nat) : saturated k = min (2 ^ 64 - 1) k := Nat.min_comm _ _

theorem saturated_le_saturated {k k' : Nat} (h : k ≤ k') : saturated k ≤ saturated k' := by
  simp only [saturated]
  omega

theorem saturated_max (a b : Nat) : saturated (max a b) = max (saturated a) (saturated b) := by
  simp only [saturated]
  omega

/-- Cutting off twice on the way is cutting off once at the end. -/
theorem saturated_optional (k : Nat) :
    saturated (saturated (2 * saturated k) + 1) = saturated (2 * k + 1) := by
  simp only [saturated]
  omega

/-! ### Numbers without a limit -/

mutual

/-- A node has a number of cases, however great it is. -/
inductive Scope.HasCases (s : Scope) : Node → Nat → Prop where
  | constant {n value} (h_kind : n.kind = .constant value) : HasCases s n 1
  | field {n f set} (h_kind : n.kind = .field f set) :
    HasCases s n (FieldCase.boundaries.map f.position).toFinset.card
  | combined {n parts separator k} (h_kind : n.kind = .combined parts separator)
    (h : PartsHaveCases s parts k) : HasCases s n k
  | optional {n n' child rule k} (h_kind : n.kind = .optional child rule)
    (h_target : s.target? child = some n') (h : HasCases s n' k) : HasCases s n (2 * k + 1)
  | source {n n' child k} (h_kind : n.kind = .source child)
    (h_target : s.target? child = some n') (h : HasCases s n' k) : HasCases s n k

/-- A number is the greatest of one and those of some parts. -/
inductive Scope.PartsHaveCases (s : Scope) : List Link → Nat → Prop where
  | nil : PartsHaveCases s [] 1
  | cons {link links n k most} (h_target : s.target? link = some n) (h : HasCases s n k)
    (h_rest : PartsHaveCases s links most) : PartsHaveCases s (link :: links) (max k most)

end

variable {s : Scope} {n n' : Node} {k k' : Nat}

namespace Scope.HasCases

theorem of_constant {value : String} (h : s.HasCases n k) (h_kind : n.kind = .constant value) :
    k = 1 := by
  cases h with
  | constant _ => rfl
  | field h | combined h _ | optional h _ _ | source h _ _ => cases h_kind.symm.trans h

theorem of_field {f : Field} {set : CharacterSet} (h : s.HasCases n k)
    (h_kind : n.kind = .field f set) :
    k = (FieldCase.boundaries.map f.position).toFinset.card := by
  cases h with
  | field h =>
    cases h_kind.symm.trans h
    rfl
  | constant h | combined h _ | optional h _ _ | source h _ _ => cases h_kind.symm.trans h

theorem of_combined {parts : List Link} {separator : String} (h : s.HasCases n k)
    (h_kind : n.kind = .combined parts separator) : s.PartsHaveCases parts k := by
  cases h with
  | combined h h_parts =>
    cases h_kind.symm.trans h
    exact h_parts
  | constant h | field h | optional h _ _ | source h _ _ => cases h_kind.symm.trans h

theorem of_optional {child : Link} {rule : Config.Mandatory} (h : s.HasCases n k)
    (h_kind : n.kind = .optional child rule) (h_target : s.target? child = some n') :
    ∃ k', s.HasCases n' k' ∧ k = 2 * k' + 1 := by
  cases h with
  | optional h h_target' h_child =>
    cases h_kind.symm.trans h
    obtain rfl := Option.some.inj (h_target.symm.trans h_target')
    exact ⟨_, h_child, rfl⟩
  | constant h | field h | combined h _ | source h _ _ => cases h_kind.symm.trans h

theorem of_source {child : Link} (h : s.HasCases n k) (h_kind : n.kind = .source child)
    (h_target : s.target? child = some n') : s.HasCases n' k := by
  cases h with
  | source h h_target' h_child =>
    cases h_kind.symm.trans h
    obtain rfl := Option.some.inj (h_target.symm.trans h_target')
    exact h_child
  | constant h | field h | combined h _ | optional h _ _ => cases h_kind.symm.trans h

end Scope.HasCases

mutual

/-- A node has one number of cases. -/
theorem Scope.HasCases.unique : ∀ {n k k'}, s.HasCases n k → s.HasCases n k' → k = k'
  | _, _, _, .constant h_kind, h' => (h'.of_constant h_kind).symm
  | _, _, _, .field h_kind, h' => (h'.of_field h_kind).symm
  | _, _, _, .combined h_kind h_parts, h' => h_parts.unique (h'.of_combined h_kind)
  | _, _, _, .optional h_kind h_target h, h' => by
    obtain ⟨k', h_child, rfl⟩ := h'.of_optional h_kind h_target
    rw [h.unique h_child]
  | _, _, _, .source h_kind h_target h, h' => h.unique (h'.of_source h_kind h_target)

theorem Scope.PartsHaveCases.unique : ∀ {links k k'}, s.PartsHaveCases links k →
    s.PartsHaveCases links k' → k = k'
  | _, _, _, .nil, .nil => rfl
  | _, _, _, .cons h_target h h_rest, .cons h_target' h' h_rest' => by
    obtain rfl := Option.some.inj (h_target.symm.trans h_target')
    rw [h.unique h', h_rest.unique h_rest']

end

/-- Parts have one case, and so has what has none. -/
theorem Scope.PartsHaveCases.pos : ∀ {links k}, s.PartsHaveCases links k → 1 ≤ k
  | _, _, .nil => Nat.le_refl 1
  | _, _, .cons _ _ h_rest => Nat.le_trans h_rest.pos (Nat.le_max_right _ _)

/-- A part has no more cases than what it is a part of. -/
theorem Scope.PartsHaveCases.of_mem : ∀ {links k link}, s.PartsHaveCases links k → link ∈ links →
    ∃ n k', s.target? link = some n ∧ s.HasCases n k' ∧ k' ≤ k
  | _, _, _, .cons h_target h h_rest, h_link => by
    rcases List.mem_cons.1 h_link with rfl | h_link
    · exact ⟨_, _, h_target, h, Nat.le_max_left _ _⟩
    · obtain ⟨n, k', h_target', h_k', h_le⟩ := h_rest.of_mem h_link
      exact ⟨n, k', h_target', h_k', Nat.le_trans h_le (Nat.le_max_right _ _)⟩

/-- What has more than one case has a part with as many. -/
theorem Scope.PartsHaveCases.exists_part : ∀ {links k}, s.PartsHaveCases links k → k = 1 ∨
    ∃ link ∈ links, ∃ n, s.target? link = some n ∧ s.HasCases n k
  | _, _, .nil => .inl rfl
  | _, _, @Scope.PartsHaveCases.cons _ _ _ _ k most h_target h h_rest => by
    rcases Nat.le_total most k with h_le | h_le
    · rw [Nat.max_eq_left h_le]
      exact .inr ⟨_, List.mem_cons_self, _, h_target, h⟩
    · rw [Nat.max_eq_right h_le]
      refine h_rest.exists_part.imp_right fun ⟨link, h_link, h_part⟩ => ?_
      exact ⟨link, List.mem_cons_of_mem _ h_link, h_part⟩

/-! ### Counting -/

/-- As many boundaries are listed as there are different positions of boundaries. -/
theorem Field.length_boundaries (f : Field) :
    f.boundaries.length = (FieldCase.boundaries.map f.position).toFinset.card := by
  have h_nodup : (f.boundaries.map (·.2)).Nodup :=
    List.pairwise_map.2 (f.boundaries_ascending.imp fun h => Int.ne_of_lt h)
  have h_set : (f.boundaries.map (·.2)).toFinset =
      (FieldCase.boundaries.map f.position).toFinset := by
    ext p
    simp only [List.mem_toFinset, List.mem_map]
    constructor
    · rintro ⟨b, h_b, rfl⟩
      obtain ⟨h_boundary, h_position⟩ := Field.eq_of_mem_boundaries h_b
      exact ⟨b.1, List.elem_iff.1 h_boundary, h_position.symm⟩
    · rintro ⟨c, h_c, rfl⟩
      exact f.exists_mem_boundaries (List.elem_iff.2 h_c)
  rw [← h_set, List.toFinset_card_of_nodup h_nodup, List.length_map]

/-- A node is counted rightly, if it is counted. -/
abbrev Scope.CountsExactly (s : Scope) (count : Node → Eval Nat) : Prop :=
  ∀ n m, Ends (count n) m (fun c _ => ∃ k, s.HasCases n k ∧ c = saturated k) fun _ _ => True

/-- The greatest number is kept, beginning with one that is not zero. -/
theorem Scope.CountsExactly.widest {count : Node → Eval Nat} (h : s.CountsExactly count)
    (links : List Link) (most : Nat) (m : Memory) (h_most : 1 ≤ most) :
    Ends (s.widest count links most) m
      (fun c _ => ∃ k, s.PartsHaveCases links k ∧ c = max most (saturated k))
      fun _ _ => True := by
  induction links generalizing most m with
  | nil => exact ⟨1, .nil, (Nat.max_eq_left h_most).symm⟩
  | cons link links ih =>
    simp only [Scope.widest, ends_bind, Scope.ends_resolve]
    refine ⟨fun n h_target => ?_, fun _ _ _ => trivial⟩
    refine (h n m).mono (fun c m' h_c => ?_) fun _ _ _ => trivial
    obtain ⟨k, h_k, rfl⟩ := h_c
    refine (ih _ m' (Nat.le_trans h_most (Nat.le_max_left _ _))).mono ?_ fun _ _ _ => trivial
    rintro total _ ⟨rest, h_rest, rfl⟩
    exact ⟨max k rest, .cons h_target h_k h_rest, by rw [saturated_max, Nat.max_assoc]⟩

/-- **What is counted** is the number of cases without limit, cut off once. -/
theorem Node.ends_countCases (s : Scope) : ∀ fuel, s.CountsExactly (Node.countCases s fuel)
  | 0, _, _ => trivial
  | fuel + 1, n, m => by
    have h_count := Node.ends_countCases s fuel
    unfold Node.countCases
    split
    · next h_kind => exact ⟨1, .constant h_kind, rfl⟩
    · next f set h_kind =>
      refine ⟨_, .field h_kind, ?_⟩
      rw [← f.length_boundaries]
      exact (Nat.min_eq_left (Nat.le_trans f.length_boundaries_le (by decide))).symm
    · next parts separator h_kind =>
      refine ends_traverse_answer ((h_count.widest parts 1 _ (Nat.le_refl 1)).mono ?_
        fun _ _ _ => trivial)
      rintro _ _ ⟨k, h_k, rfl⟩
      -- The walk starts at one, and no part has fewer cases than that.
      have h_pos : 1 ≤ saturated k := Nat.le_min.2 ⟨h_k.pos, by decide⟩
      exact ⟨k, .combined h_kind h_k, Nat.max_eq_right h_pos⟩
    · next child rule h_kind =>
      refine ends_traverse_answer ?_
      simp only [ends_bind, Scope.ends_resolve]
      refine ⟨fun n' h_target => (h_count n' _).mono ?_ fun _ _ _ => trivial, fun _ _ _ => trivial⟩
      rintro _ _ ⟨k, h_k, rfl⟩
      exact ⟨2 * k + 1, .optional h_kind h_target h_k, saturated_optional k⟩
    · next child h_kind =>
      refine ends_traverse_answer ?_
      simp only [ends_bind, Scope.ends_resolve]
      refine ⟨fun n' h_target => (h_count n' _).mono ?_ fun _ _ _ => trivial, fun _ _ _ => trivial⟩
      rintro _ _ ⟨k, h_k, rfl⟩
      exact ⟨k, .source h_kind h_target h_k, rfl⟩

/-- **Cases are counted.** Take nodes that are told apart by their keys, each of whose links leads
to one of them, and a memory in which none is marked. One of them that does not lead to a circle has
a number of cases, and it is counted as far as numbers go. -/
theorem Node.exists_countCases {Member : Node → Prop} {size fuel : Nat} {m : Memory}
    (h_closed : s.Closed Member) (h_size : ∀ n, Member n → n.key < size) (h_fuel : size < fuel)
    (h_keys : ∀ n n', Member n → Member n' → n.key = n'.key → n = n')
    (h_targets : ∀ n link, Member n → link ∈ n.kind.links → ∃ n', s.target? link = some n')
    (h_n : Member n) (h_mark : ∀ key, (m.cell key).isVisited = false)
    (h_none : ¬ s.LeadsToCircle n) :
    ∃ k m', s.HasCases n k ∧ n.countCases s fuel m = (.ok (saturated k), m') := by
  rcases h_eq : n.countCases s fuel m with ⟨f | c, m'⟩
  · exact absurd ((Node.countCases_walks s fuel).failure h_closed h_size h_fuel h_keys h_targets
      h_n h_mark h_eq).2 h_none
  · obtain ⟨k, h_k, rfl⟩ := (Node.ends_countCases s fuel n m).of_ok h_eq
    exact ⟨k, m', h_k, rfl⟩

end Specimen
