import Specimen.Proofs.Config.Mentions

/-!
# Cycles of ids and cycles of places

The check looks for cycles among the ids, where what stands below a constraint without an id
counts for the nearest id above it. Here these cycles are compared with those of the places
themselves (`Config.Leads`), on which every constraint has a place of its own, named or not.

* Going from a place to the next one, the nearest id either stays the same, and then the place
  lies deeper, or the old one needs the new one (`Leads.needs`).
* When an id needs another, the place of the first leads to that of the second
  (`exists_leads_of_needs`).
* `dependencies_isAcyclic_iff`: if all ids are declared once, the ids have a cycle exactly when
  the places have one.
-/

namespace Specimen.Config

variable {c : Config}

/-! ### The nearest id of a place -/

theorem Stands.ne_nil {p : Place} {owner : Option String} {x : Constraint}
    (h : c.Stands p owner x) : p ≠ [] := by
  cases h with
  | top _ => exact List.cons_ne_nil _ _
  | part _ _ => exact List.append_ne_nil_of_right_ne_nil _ (List.cons_ne_nil _ _)

theorem Stands.owner_unique {p : Place} {owner owner' : Option String} {x x' : Constraint}
    (h : c.Stands p owner x) (h' : c.Stands p owner' x') : owner = owner' := by
  induction h generalizing owner' x' with
  | @top i x _ =>
    generalize h_q : [i] = q at h'
    cases h' with
    | top _ => rfl
    | part h_above _ =>
      have h_empty := (List.append_eq_singleton_iff.1 h_q.symm).resolve_right
        fun h => absurd h.2 (List.cons_ne_nil _ _)
      exact absurd h_empty.1 h_above.ne_nil
  | @part p owner x i y h_x _ ih =>
    generalize h_q : p ++ [i] = q at h'
    cases h' with
    | top _ =>
      have h_empty := (List.append_eq_singleton_iff.1 h_q).resolve_right
        fun h => absurd h.2 (List.cons_ne_nil _ _)
      exact absurd h_empty.1 h_x.ne_nil
    | part h_above _ =>
      obtain ⟨rfl, -⟩ := List.append_inj' h_q rfl
      have h_same : x = _ := Option.some.inj (h_x.at?.symm.trans h_above.at?)
      rw [ih h_above, h_same]

/-- An id is that of a place, or else the nearest one above it. -/
def Owns (c : Config) (p : Place) (id : String) : Prop :=
  ∃ owner x, c.Stands p owner x ∧ x.owns owner = some id

theorem Owns.unique {p : Place} {id id' : String} (h : c.Owns p id) (h' : c.Owns p id') :
    id = id' := by
  obtain ⟨owner, x, h_x, h_id⟩ := h
  obtain ⟨owner', x', h_x', h_id'⟩ := h'
  rw [h_x.owner_unique h_x', Option.some.inj (h_x.at?.symm.trans h_x'.at?)] at h_id
  exact Option.some.inj (h_id.symm.trans h_id')

theorem Declares.owns {p : Place} {id : String} (h : c.Declares p id) : c.Owns p id := by
  obtain ⟨x, h_x, h_id⟩ := h
  obtain ⟨owner, h_stands⟩ := at?_iff_stands.1 h_x
  exact ⟨owner, x, h_stands, by rw [Constraint.owns, h_id, Option.some_or]⟩

/-- If the constraints of the top level have ids, there is one at or above every place. -/
theorem Stands.exists_owns (h_top : ∀ x ∈ c.constraints, x.id.isSome) {p : Place}
    {owner : Option String} {x : Constraint} (h : c.Stands p owner x) : ∃ id, c.Owns p id := by
  have h_some : (x.owns owner).isSome := by
    induction h with
    | top h_x =>
      rw [Constraint.owns, Option.or_none]
      exact h_top _ (List.mem_of_getElem? h_x)
    | part _ _ ih => rw [Constraint.owns, Option.isSome_or, ih, Bool.or_true]
  obtain ⟨id, h_id⟩ := Option.isSome_iff_exists.1 h_some
  exact ⟨id, owner, x, h, h_id⟩

/-! ### From places to ids -/

/-- What a place leads to by an id is a place that declares the id. -/
theorem Declares.owns_of_named {p q : Place} {w id : String} {x y : Constraint}
    (h_w : c.Owns p w) (h : c.at? p = some x) (h_named : id ∈ x.named) (h_at : c.at? q = some y)
    (h_id : y.id = some id) : c.Owns q id ∧ c.dependencies.Needs w id := by
  obtain ⟨owner, x', h_x', h_own⟩ := h_w
  obtain rfl : x = x' := Option.some.inj (h.symm.trans h_x'.at?)
  refine ⟨Declares.owns ⟨y, h_at, h_id⟩, needs_dependencies.2 (.inr ?_)⟩
  exact ⟨p, owner, x, h_x', h_own, h_named⟩

/-- **One step between places.** The nearest id stays and the place gets deeper, or the nearest
id of the first place needs that of the second. -/
theorem Leads.needs {p q : Place} (h : c.Leads p q) {w : String} (h_w : c.Owns p w) :
    ∃ w', c.Owns q w' ∧ (c.dependencies.Needs w w' ∨ (w' = w ∧ p.length < q.length)) := by
  cases h with
  | @embedding i x y h_x h_part =>
    obtain ⟨owner, x', h_x', h_own⟩ := h_w
    obtain rfl : x = x' := Option.some.inj (h_x.symm.trans h_x'.at?)
    have h_y := h_x'.part h_part
    cases h_id : y.id with
    | none =>
      refine ⟨w, ⟨_, y, h_y, by rw [Constraint.owns, h_id, Option.none_or]; exact h_own⟩, .inr ?_⟩
      simp
    | some id =>
      refine ⟨id, Declares.owns ⟨y, h_y.at?, h_id⟩, .inl (needs_dependencies.2 (.inl ?_))⟩
      exact ⟨p ++ [i], y, h_own ▸ h_y, h_id⟩
  | @reference _ x y id h_x h_ref h_at h_id =>
    obtain ⟨h_q, h_needs⟩ :=
      Declares.owns_of_named h_w h_x (Constraint.mem_named.2 (.inr h_ref)) h_at h_id
    exact ⟨id, h_q, .inl h_needs⟩
  | @rule _ x y id h_x h_rule h_at h_id =>
    obtain ⟨h_q, h_needs⟩ :=
      Declares.owns_of_named h_w h_x (Constraint.mem_named.2 (.inl h_rule)) h_at h_id
    exact ⟨id, h_q, .inl h_needs⟩

/-- The same for a path of places. -/
theorem transGen_needs_of_leads {p q : Place} (h : Relation.TransGen c.Leads p q) {w : String}
    (h_w : c.Owns p w) : ∃ w', c.Owns q w' ∧
      (Relation.TransGen c.dependencies.Needs w w' ∨ (w' = w ∧ p.length < q.length)) := by
  induction h with
  | single h =>
    obtain ⟨w', h_w', h_needs | h_deeper⟩ := h.needs h_w
    · exact ⟨w', h_w', .inl (.single h_needs)⟩
    · exact ⟨w', h_w', .inr h_deeper⟩
  | tail _ h ih =>
    obtain ⟨w', h_w', h_path⟩ := ih
    obtain ⟨w'', h_w'', h_step⟩ := h.needs h_w'
    refine ⟨w'', h_w'', ?_⟩
    rcases h_path, h_step with ⟨h_needs | ⟨rfl, h_lt⟩, h_needs' | ⟨rfl, h_lt'⟩⟩
    · exact .inl (h_needs.tail h_needs')
    · exact .inl h_needs
    · exact .inl (.single h_needs')
    · exact .inr ⟨rfl, h_lt.trans h_lt'⟩

/-! ### From ids to places -/

/-- The place that declares the nearest id above a place leads there. -/
theorem Stands.exists_leads {q : Place} {owner : Option String} {x : Constraint}
    (h : c.Stands q owner x) {id : String} (h_owner : owner = some id) :
    ∃ p, c.Declares p id ∧ Relation.TransGen c.Leads p q := by
  induction h with
  | top _ => cases h_owner
  | @part p owner x i y h_x h_part ih =>
    have h_leads : c.Leads p (p ++ [i]) := .embedding h_x.at? h_part
    cases h_id : x.id with
    | some id' =>
      rw [h_id, Option.some_or] at h_owner
      exact ⟨p, ⟨x, h_x.at?, h_id.trans h_owner⟩, .single h_leads⟩
    | none =>
      rw [h_id, Option.none_or] at h_owner
      obtain ⟨p', h_declares, h_path⟩ := ih h_owner
      exact ⟨p', h_declares, h_path.tail h_leads⟩

theorem Stands.exists_leads_of_owns {q : Place} {owner : Option String} {x : Constraint}
    (h : c.Stands q owner x) {id : String} (h_own : x.owns owner = some id) :
    ∃ p, c.Declares p id ∧ Relation.ReflTransGen c.Leads p q := by
  cases h_id : x.id with
  | some id' =>
    rw [Constraint.owns, h_id, Option.some_or] at h_own
    exact ⟨q, ⟨x, h.at?, h_id.trans h_own⟩, .refl⟩
  | none =>
    rw [Constraint.owns, h_id, Option.none_or] at h_own
    obtain ⟨p, h_declares, h_path⟩ := h.exists_leads h_own
    exact ⟨p, h_declares, h_path.to_reflTransGen⟩

/-- What a place names leads there. -/
theorem leads_of_named {p q : Place} {x : Constraint} {id : String} (h : c.at? p = some x)
    (h_named : id ∈ x.named) (h_q : c.Declares q id) : c.Leads p q := by
  obtain ⟨y, h_y, h_id⟩ := h_q
  rcases Constraint.mem_named.1 h_named with h_rule | h_ref
  · exact .rule h h_rule h_y h_id
  · exact .reference h h_ref h_y h_id

/-- **One need of an id.** The place of the id leads to that of the needed one. -/
theorem exists_leads_of_needs
    (h_named : ∀ p x id, c.at? p = some x → id ∈ x.named → id ∈ c.ids) {id needed : String}
    (h : c.dependencies.Needs id needed) :
    ∃ p q, c.Declares p id ∧ c.Declares q needed ∧ Relation.TransGen c.Leads p q := by
  obtain ⟨q, x, h_x, h_id⟩ | ⟨r, owner, x, h_x, h_own, h_mem⟩ := needs_dependencies.1 h
  · obtain ⟨p, h_p, h_path⟩ := h_x.exists_leads rfl
    exact ⟨p, q, h_p, ⟨x, h_x.at?, h_id⟩, h_path⟩
  · obtain ⟨p, h_p, h_path⟩ := h_x.exists_leads_of_owns h_own
    obtain ⟨q, h_q⟩ := mem_ids.1 (h_named r x needed h_x.at? h_mem)
    exact ⟨p, q, h_p, h_q, .tail' h_path (leads_of_named h_x.at? h_mem h_q)⟩

theorem exists_leads_of_transGen_needs (h_unique : c.ids.Nodup)
    (h_named : ∀ p x id, c.at? p = some x → id ∈ x.named → id ∈ c.ids) {id needed : String}
    (h : Relation.TransGen c.dependencies.Needs id needed) :
    ∃ p q, c.Declares p id ∧ c.Declares q needed ∧ Relation.TransGen c.Leads p q := by
  induction h with
  | single h => exact exists_leads_of_needs h_named h
  | tail _ h ih =>
    obtain ⟨p, q, h_p, h_q, h_path⟩ := ih
    obtain ⟨q', r, h_q', h_r, h_path'⟩ := exists_leads_of_needs h_named h
    -- the id in between is declared at one place only
    obtain rfl : q = q' := ids_nodup_iff.1 h_unique q q' _ h_q h_q'
    exact ⟨p, r, h_p, h_r, h_path.trans h_path'⟩

/-! ### Cycles -/

/-- **Cycles.** If the constraints of the top level have ids, every id is declared once, and
all that are named are declared, no id needs itself exactly when no place leads to itself. -/
theorem dependencies_isAcyclic_iff (h_top : ∀ x ∈ c.constraints, x.id.isSome)
    (h_unique : c.ids.Nodup)
    (h_named : ∀ p x id, c.at? p = some x → id ∈ x.named → id ∈ c.ids) :
    c.dependencies.IsAcyclic ↔ ∀ p, ¬ Relation.TransGen c.Leads p p := by
  constructor
  · intro h_acyclic p h_cycle
    obtain ⟨q, h_step, -⟩ := Relation.TransGen.head'_iff.1 h_cycle
    obtain ⟨x, h_x⟩ : ∃ x, c.at? p = some x := by
      cases h_step with
      | embedding h _ => exact ⟨_, h⟩
      | reference h _ _ _ => exact ⟨_, h⟩
      | rule h _ _ _ => exact ⟨_, h⟩
    obtain ⟨owner, h_stands⟩ := at?_iff_stands.1 h_x
    obtain ⟨w, h_w⟩ := h_stands.exists_owns h_top
    obtain ⟨w', h_w', h_needs | ⟨-, h_lt⟩⟩ := transGen_needs_of_leads h_cycle h_w
    · exact h_acyclic w (h_w.unique h_w' ▸ h_needs)
    · exact absurd h_lt (lt_irrefl _)
  · intro h_acyclic id h_cycle
    obtain ⟨p, q, h_p, h_q, h_path⟩ := exists_leads_of_transGen_needs h_unique h_named h_cycle
    obtain rfl : p = q := ids_nodup_iff.1 h_unique p q id h_p h_q
    exact h_acyclic p h_path

end Specimen.Config
