import Specimen.Proofs.Generator.Midway
import Specimen.Proofs.Node.Heeding

/-!
# Rules in the data set

A rule that names a root is heeded in the data set: if it holds a text for this root that is
present, it holds a text for the root with the rule (`Generator.generate_heeds`). The two may stand
in any order, and the root that is named may be anything, left out itself or shared: the rule hears
what is fixed for the rest of the pass, and this is what the data set gets.
-/

namespace Specimen

namespace Config

/-- A root with one id is optional: a constant or a field of its own has to be there when another id
is present. Nothing refers to this root. -/
structure Heeds (c : Config) (id named : String) (x y : Constraint) : Prop where
  root : x ∈ c.constraints
  own_id : x.id = some id
  kind : x.kind = .optional (.embedded y) (.whenPresent named)
  child_id : y.id = none
  child_kind : (∃ value, y.kind = .constant value) ∨ ∃ spec, y.kind = .field spec
  unnamed : ∀ p z, c.at? p = some z → .reference id ∉ z.children

end Config

namespace Generator

namespace Represents

variable {g : Generator} {c : Config} {tops : List Node} {id named : String}
  {x y : Config.Constraint}

/-- The node of such a root, and its child. -/
structure Ruled (g : Generator) (tops : List Node) (named : String) (i : Nat) (n e : Node) :
    Prop where
  place : Specimen.nodeAt? tops [i] = some n
  kind : n.kind = .optional (.embedded e) (.whenPresent named)
  leaf : e.kind.isLeaf = true
  child_id : e.id = none
  unlinked : ∀ k, Member tops k → ∀ link ∈ k.kind.links, g.scope.target? link ≠ some n

theorem Ruled.child_place {i : Nat} {n e : Node} (h : Ruled g tops named i n e) :
    Specimen.nodeAt? tops ([i] ++ [0]) = some e :=
  nodeAt?_part h.place (by rw [h.kind]; rfl)

variable (h : g.Represents c tops)
include h

theorem exists_ruled (h_x : c.Heeds id named x y) :
    ∃ i n e, g.graph.nodes.get? id = some n ∧ Ruled g tops named i n e := by
  obtain ⟨n, i, h_place, h_get, h_mirrors⟩ := h.exists_get?_top h_x.root h_x.own_id
  have h_unlinked := h.unlinked_of_top h_place h_get h_x.unnamed
  rw [h_x.kind] at h_mirrors
  generalize h_kind : n.kind = kind at h_mirrors
  cases h_mirrors with
  | optional h_link =>
    cases h_link with
    | @embedded _ _ e h_child =>
      have h_leaf : e.kind.isLeaf = true := by
        have h_mirrored := h_child.kind
        rcases h_x.child_kind with ⟨value, h_y⟩ | ⟨spec, h_y⟩
        all_goals
          rw [h_y] at h_mirrored
          generalize e.kind = child at h_mirrored ⊢
          cases h_mirrored
          rfl
      exact ⟨i, n, e, h_get, h_place, h_kind, h_leaf, h_child.id_eq.trans h_x.child_id, h_unlinked⟩

/-- A node without an id is not registered. -/
theorem get?_ne_of_id {e : Node} (h_id : e.id = none) (id : String) :
    g.graph.nodes.get? id ≠ some e := by
  intro h_get
  cases h_id.symm.trans (h.get?_iff.1 h_get).2

/-- Nobody else asks the child. -/
theorem Ruled.secluded {i : Nat} {n e : Node} (h_ruled : Ruled g tops named i n e) :
    g.scope.Secluded (Member tops) n (· = e) where
  member := ⟨_, h_ruled.place⟩
  stateful := by rw [h_ruled.kind]; rfl
  unlinked := h_ruled.unlinked
  own_member := by
    rintro _ rfl
    exact ⟨_, h_ruled.child_place⟩
  caller := by
    rintro k _ ⟨p, h_p⟩ h_calls rfl
    rcases h_calls with ⟨link, h_link, h_target⟩ | ⟨id', -, h_get⟩
    · cases link with
      | reference id' => exact absurd h_target (h.get?_ne_of_id h_ruled.child_id id')
      | embedded e' =>
        -- it stands at one place only, so it is embedded in one node only
        obtain rfl := Option.some.inj h_target
        obtain ⟨j, h_j⟩ := List.getElem?_of_mem h_link
        have h_same := nodeAt?_unique h.keys_nodup (nodeAt?_part h_p h_j) h_ruled.child_place rfl
        obtain ⟨rfl, -⟩ := List.append_inj' h_same rfl
        exact Option.some.inj (h_p.symm.trans h_ruled.place)
    · exact absurd h_get (h.get?_ne_of_id h_ruled.child_id id')

theorem Ruled.rootsUphold {i : Nat} {n e : Node} (h_ruled : Ruled g tops named i n e) :
    RootsUphold g tops .normal (g.scope.Heeds n e named) := by
  refine h.rootsUphold (h_ruled.secluded h) Scope.heeds_concerns (by decide) ?_ ?_
  · exact Scope.heeds_upheldBy (fun _ _ => h.member_of_calls) ⟨_, h_ruled.place⟩ h_ruled.kind
      h_ruled.leaf (h.get?_ne_of_id h_ruled.child_id named)
  · rintro t h_t rfl
    obtain ⟨j, h_j⟩ := List.getElem?_of_mem h_t
    have h_same := nodeAt?_unique h.keys_nodup (nodeAt?_cons.2 ⟨t, h_j, t.at?_nil⟩)
      h_ruled.child_place rfl
    cases h_same

end Represents

/-- **Rules are heeded.** At any point of a session and without overrides, if a pass gives a data
set that holds a text that is present for the id that a rule names, it holds a text for the root
with the rule. The id that is named is not indexed. -/
theorem generate_heeds {c : Config} {o : GeneratorOptions} {random : UInt64} {g : Generator}
    (h : ofConfig c o random = .ok g) {id named : String} {x y : Config.Constraint}
    (h_x : c.Heeds id named x y) (h_indexed : g.indexed.contains named = false) {m m' : Memory}
    (h_m : g.Reachable m) (h_free : Unfixed m) {d : DataSet}
    (h_pass : g.generate .normal m = (.ok d, m')) {text : String}
    (h_text : d.values.get? named = some (some text)) (h_present : Text.isPresent text = true) :
    ∃ v, d.values.get? id = some (some v) := by
  obtain ⟨⟨tops, h_of⟩, -⟩ := ofConfig_represents h
  obtain ⟨i, n, e, h_get, h_ruled⟩ := h_of.exists_ruled h_x
  have h_start : g.scope.Heeds n e named (Generator.passBegun tops m) := by
    have h_settled := settled_passBegun tops m
    have h_n := Represents.cell_passBegun (m := m) ⟨_, h_ruled.place⟩
    have h_e := Represents.cell_passBegun (m := m) ⟨_, h_ruled.child_place⟩
    refine ⟨fun h_null => ?_, fun _ => by rw [h_e]; rfl, h_free.of_settled h_settled e.key⟩
    rw [h_n] at h_null
    cases h_null
  obtain ⟨⟨last, h_last, h_d⟩, h_all⟩ := h_of.generate_midway (h_ruled.rootsUphold h_of) h_start
    h_m h_free h_pass
  -- the rule has heard what the data set holds
  have h_heard : ∀ {k hops v}, g.scope.nodes.get? named = some k →
      g.scope.Fixed last hops k .normal v → Scope.Answered v = true := by
    intro k hops v h_k h_fixed
    obtain ⟨k', hops', w, h_k', h_fixed', h_stored⟩ := h_d named _ h_text
    obtain rfl := Option.some.inj (h_k.symm.trans h_k')
    rw [stored_of_not_indexed h_indexed] at h_stored
    rw [h_fixed.unique h_fixed', ← h_stored]
    exact h_present
  obtain ⟨v, h_v⟩ := h_all id (h_of.mem_roots_iff.2 ⟨x, h_x.root, h_x.own_id⟩)
  obtain ⟨n', hops, w, h_get', h_fixed, rfl⟩ := h_d id v h_v
  obtain rfl := Option.some.inj (h_get.symm.trans h_get')
  cases h_w : g.stored (m.passes + 1) id w with
  | some t => exact ⟨t, h_w ▸ h_v⟩
  | none =>
    rw [stored_eq_none_iff] at h_w
    subst h_w
    cases h_fixed with
    | overridden h_some _ => cases (h_last.free n.key).symm.trans h_some
    | source _ h_source _ _ => cases h_ruled.kind.symm.trans h_source
    | kept _ _ h_cache =>
      obtain ⟨k, hops, v, h_k, h_fixed, h_absent⟩ := h_last.fact.absent h_cache
      cases (h_heard h_k h_fixed).symm.trans h_absent

/-- A note that has to be there if a number is, which comes after it. -/
def noteAndNumber : Config :=
  ⟨Config.supportedVersion, none, .empty, [
    .mk (some "note") none
      (.optional (.embedded (.mk none none (.constant "x"))) (.whenPresent "number")),
    .mk (some "number") none (.field (.number 0 2))]⟩

theorem heeds_noteAndNumber : ∃ x y, noteAndNumber.Heeds "note" "number" x y := by
  refine ⟨_, _, .head _, rfl, rfl, rfl, .inl ⟨_, rfl⟩, fun p z h_z => ?_⟩
  match p with
  | i :: p =>
    obtain ⟨x, h_x, h_z⟩ := Config.at?_cons.1 h_z
    -- there are no references at all
    refine Config.Constraint.forall_at?_of_parts (P := fun z => .reference "note" ∉ z.children)
      ?_ (fun y h_y => ?_) p z h_z
    all_goals rcases List.mem_pair.1 (List.mem_of_getElem? h_x) with rfl | rfl
    · exact fun h_mem => nomatch List.mem_singleton.1 h_mem
    · exact List.not_mem_nil
    · cases List.mem_singleton.1 h_y
      exact Config.Constraint.forall_at?_of_parts List.not_mem_nil fun _ h_none => nomatch h_none
    · cases h_y

/-- The note is there with the number, though it is asked first. -/
theorem generate_heeds_noteAndNumber : ∃ g d m' x y v, ofConfig noteAndNumber {} 0 = .ok g ∧
    noteAndNumber.Heeds "note" "number" x y ∧ g.indexed.contains "number" = false ∧
    g.Reachable (g.freshMemory.withDraws default) ∧
    Unfixed (g.freshMemory.withDraws default) ∧
    g.generate .normal (g.freshMemory.withDraws default) = (.ok d, m') ∧
    d.values.get? "number" = some (some "0") ∧ Text.isPresent "0" = true ∧
    d.values.get? "note" = some (some v) := by
  have h_run : (ofConfig noteAndNumber {} 0).toOption.map (fun g =>
      (g.indexed.contains "number", (g.generate .normal
        (g.freshMemory.withDraws default)).1.toOption.map (·.values.get? "number"))) =
      some (false, some (some (some "0"))) := by decide +kernel
  obtain ⟨g, h_ok, h_g⟩ := exists_ok_of_map h_run
  obtain ⟨h_indexed, h_g⟩ := Prod.mk.inj h_g
  obtain ⟨d, h_d, h_number⟩ := Option.map_eq_some_iff.1 h_g
  have h_pass := eq_ok_of_toOption h_d
  have h_free : Unfixed (g.freshMemory.withDraws default) := fun _ => rfl
  have h_present : Text.isPresent "0" = true := by decide
  obtain ⟨x, y, h_x⟩ := heeds_noteAndNumber
  obtain ⟨v, h_v⟩ :=
    generate_heeds h_ok h_x h_indexed (.start default) h_free h_pass h_number h_present
  exact ⟨g, d, _, x, y, v, h_ok, h_x, h_indexed, .start default, h_free, h_pass, h_number,
    h_present, h_v⟩

end Generator

end Specimen
