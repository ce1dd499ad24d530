import Mathlib.Data.List.Nodup

/-!
# Places in trees

Constraints are trees, and so are the nodes that are built from them. A place says where
something stands in a tree: which part leads to it at every level, from the outside inwards.

Labels of trees (ids, keys) are listed by walking through a tree: first its own, then those of its
parts. The two lemmas here take one step of such a walk. From what is known of the parts they get
that the labels listed are those that stand somewhere (`mem_labels_step`), and that none is listed
twice exactly when none stands at two places (`nodup_labels_step`).
-/

namespace Specimen

/-- Where something stands in a tree or in a list of trees: the position of each part that leads
to it. -/
abbrev Place := List Nat

variable {P L : Type} {own : List L} {parts : List P} {labels : P → List L}
  {PartHolds : P → Place → L → Prop} {Holds : Place → L → Prop}

theorem mem_labels_step (h_nil : ∀ l, Holds [] l ↔ l ∈ own)
    (h_cons : ∀ i p l, Holds (i :: p) l ↔ ∃ c, parts[i]? = some c ∧ PartHolds c p l)
    (h_mem : ∀ c ∈ parts, ∀ l, l ∈ labels c ↔ ∃ p, PartHolds c p l) (l : L) :
    l ∈ own ++ parts.flatMap labels ↔ ∃ p, Holds p l := by
  rw [List.mem_append, List.mem_flatMap]
  constructor
  · rintro (h_own | ⟨c, h_c, h_l⟩)
    · exact ⟨[], (h_nil l).2 h_own⟩
    · obtain ⟨p, h_p⟩ := (h_mem c h_c l).1 h_l
      obtain ⟨i, h_i⟩ := List.getElem?_of_mem h_c
      exact ⟨i :: p, (h_cons i p l).2 ⟨c, h_i, h_p⟩⟩
  · rintro ⟨_ | ⟨i, p⟩, h⟩
    · exact .inl ((h_nil l).1 h)
    · obtain ⟨c, h_i, h_p⟩ := (h_cons i p l).1 h
      have h_c := List.mem_of_getElem? h_i
      exact .inr ⟨c, h_c, (h_mem c h_c l).2 ⟨p, h_p⟩⟩

/-- No label is listed twice among the parts exactly when none stands at two places of them. -/
theorem nodup_flatMap_iff
    (h_mem : ∀ c ∈ parts, ∀ l, l ∈ labels c ↔ ∃ p, PartHolds c p l)
    (h_nodup : ∀ c ∈ parts, (labels c).Nodup ↔
      ∀ p q l, PartHolds c p l → PartHolds c q l → p = q) :
    (parts.flatMap labels).Nodup ↔ ∀ (i j : Nat) c d p q l, parts[i]? = some c →
      parts[j]? = some d → PartHolds c p l → PartHolds d q l → i = j ∧ p = q := by
  rw [List.nodup_flatMap, List.pairwise_iff_getElem]
  constructor
  · rintro ⟨h_each, h_apart⟩ i j c d p q l h_c h_d h_p h_q
    obtain ⟨h_i, rfl⟩ := List.getElem?_eq_some_iff.1 h_c
    obtain ⟨h_j, rfl⟩ := List.getElem?_eq_some_iff.1 h_d
    have h_pl : l ∈ labels parts[i] := (h_mem _ (List.getElem_mem h_i) l).2 ⟨p, h_p⟩
    have h_ql : l ∈ labels parts[j] := (h_mem _ (List.getElem_mem h_j) l).2 ⟨q, h_q⟩
    -- Two parts at different places share no label; within one part its own labels decide.
    rcases Nat.lt_trichotomy i j with h_lt | rfl | h_lt
    · exact absurd h_ql (h_apart i j h_i h_j h_lt h_pl)
    · have h_mem_i := List.getElem_mem h_i
      exact ⟨rfl, (h_nodup _ h_mem_i).1 (h_each _ h_mem_i) p q l h_p h_q⟩
    · exact absurd h_pl (h_apart j i h_j h_i h_lt h_ql)
  · intro h
    refine ⟨fun c h_c => ?_, fun i j h_i h_j h_lt l h_il h_jl => ?_⟩
    · obtain ⟨i, h_i⟩ := List.getElem?_of_mem h_c
      exact (h_nodup c h_c).2 fun p q l h_p h_q => (h i i c c p q l h_i h_i h_p h_q).2
    · obtain ⟨p, h_p⟩ := (h_mem _ (List.getElem_mem h_i) l).1 h_il
      obtain ⟨q, h_q⟩ := (h_mem _ (List.getElem_mem h_j) l).1 h_jl
      have h_eq := (h i j _ _ p q l (List.getElem?_eq_getElem h_i) (List.getElem?_eq_getElem h_j)
        h_p h_q).1
      omega

/-- **Labels that stand at one place.** If for each part no label is listed twice exactly when none
stands at two places, then so it is for the whole. -/
theorem nodup_labels_step (h_own : own.Nodup) (h_nil : ∀ l, Holds [] l ↔ l ∈ own)
    (h_cons : ∀ i p l, Holds (i :: p) l ↔ ∃ c, parts[i]? = some c ∧ PartHolds c p l)
    (h_mem : ∀ c ∈ parts, ∀ l, l ∈ labels c ↔ ∃ p, PartHolds c p l)
    (h_nodup : ∀ c ∈ parts, (labels c).Nodup ↔
      ∀ p q l, PartHolds c p l → PartHolds c q l → p = q) :
    (own ++ parts.flatMap labels).Nodup ↔ ∀ p q l, Holds p l → Holds q l → p = q := by
  rw [List.nodup_append, nodup_flatMap_iff h_mem h_nodup]
  constructor
  · rintro ⟨-, h_parts, h_apart⟩ p q l h_p h_q
    -- a label of the whole itself stands nowhere below it
    have h_below : ∀ i r, Holds [] l → ¬ Holds (i :: r) l := by
      intro i r h_l h_r
      obtain ⟨c, h_c, h_d⟩ := (h_cons i r l).1 h_r
      have h_mem_c := List.mem_of_getElem? h_c
      exact h_apart l ((h_nil l).1 h_l) l
        (List.mem_flatMap.2 ⟨c, h_mem_c, (h_mem c h_mem_c l).2 ⟨r, h_d⟩⟩) rfl
    match p, q with
    | [], [] => rfl
    | [], j :: q => exact absurd h_q (h_below j q h_p)
    | i :: p, [] => exact absurd h_p (h_below i p h_q)
    | i :: p, j :: q =>
      obtain ⟨c, h_c, h_cp⟩ := (h_cons i p l).1 h_p
      obtain ⟨d, h_d, h_dq⟩ := (h_cons j q l).1 h_q
      obtain ⟨rfl, rfl⟩ := h_parts i j c d p q l h_c h_d h_cp h_dq
      rfl
  · intro h
    refine ⟨h_own, ?_, ?_⟩
    · intro i j c d p q l h_c h_d h_p h_q
      exact List.cons.inj (h (i :: p) (j :: q) l ((h_cons i p l).2 ⟨c, h_c, h_p⟩)
        ((h_cons j q l).2 ⟨d, h_d, h_q⟩))
    · rintro l h_l l' h_l' rfl
      obtain ⟨c, h_c, h_cl⟩ := List.mem_flatMap.1 h_l'
      obtain ⟨p, h_p⟩ := (h_mem c h_c l).1 h_cl
      obtain ⟨i, h_i⟩ := List.getElem?_of_mem h_c
      have h_eq := h [] (i :: p) l ((h_nil l).2 h_l) ((h_cons i p l).2 ⟨c, h_i, h_p⟩)
      exact absurd h_eq (List.cons_ne_nil i p).symm

end Specimen
