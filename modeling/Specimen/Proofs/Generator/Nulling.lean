import Specimen.Proofs.Generator.Coverage
import Specimen.Proofs.Generator.Stability
import Specimen.Proofs.Node.Nulling

/-!
# Roots that are null

A pass asks the roots in the order of their declaration. A root that is a field keeps null only if
an earlier root has led to an optional node that skipped its child, and the request for null of this
node was the first one to come to the field; there is no other way in which the data set can hold
null for it (`Generator.root_null_iff`). So an optional node can make a root null, if the optional
node is reached first (`Generator.root_null_of_skipped`).
-/

namespace Specimen

namespace Generator

/-- The memory after some ids have been asked for a value. -/
def afterIds (g : Generator) (ids : List String) (m : Memory) : Memory :=
  g.afterValues (ids.map fun id => (id, .normal)) m

/-- The memory of a pass after a number of the roots have been asked. -/
def afterRoots (g : Generator) (m : Memory) (k : Nat) : Memory :=
  g.afterIds (g.roots.take k) (g.beginPass m).2

/-- The node at a place keeps no value when a root is asked in a pass, and null afterwards. -/
def TurnsNull (g : Generator) (m : Memory) (k : Nat) (p : Place) : Prop :=
  ∃ n, g.nodeAt? p = some n ∧ ((g.afterRoots m k).cell n.key).cache = none ∧
    ((g.afterRoots m (k + 1)).cell n.key).cache = some none

/-- The optional node at a place is asked for the first time in a pass when a root is asked, and
skips its child: the rule does not say that it has to be generated, and the choice falls on leaving
it out. -/
def SkipsAt (g : Generator) (m : Memory) (k : Nat) (p : Place) : Prop :=
  ∃ o link rule, g.nodeAt? p = some o ∧ o.kind = .optional link rule ∧
    ((g.afterRoots m k).cell o.key).cache = none ∧
    g.scope.Decided rule ((g.afterRoots m k).cell o.key) ((g.afterRoots m (k + 1)).cell o.key) false

/-- What asking a root for a value makes of the memory. -/
structure AsksRoot (g : Generator) (n : Node) (m m' : Memory) : Prop where
  persists : m.Persists m'
  accounts : g.scope.Accounts (Relation.ReflTransGen g.scope.Calls n) m m'
  kept : n.kind.isStateless = false → (m'.cell n.key).cache ≠ none

namespace Represents

variable {g : Generator} {c : Config} {tops : List Node} {m m' : Memory} {n : Node} {id : String}
  (h : g.Represents c tops)
include h

/-! ### The roots one by one -/

theorem ends_value_asks (h_get : g.graph.nodes.get? id = some n) (h_quiet : m.Quiet)
    (h_free : Unfixed m) : Ends (g.value id .normal) m
      (fun _ m' => g.AsksRoot n m m' ∧ m'.Quiet ∧ Unfixed m') Anyhow := by
  have h_member : Member tops n := (h.get?_iff.1 h_get).1
  rw [value, find_eq h_get, pure_bind]
  have h_settles := h.nodeValue_settles (crashesOnly_true _) h_member .normal h_quiet
  have h_persists := g.nodeValue_persists h_quiet n .normal
  have h_accounts := Node.value_accounts (fun _ _ h_path h_calls => h_path.tail h_calls)
    (fun k k' h_k h_k' => h.eq_of_key_eq (h.member_of_path h_member h_k)
      (h.member_of_path h_member h_k')) (fun key => (h_quiet key).1) h_free g.fuel
    (.refl : Relation.ReflTransGen g.scope.Calls n n)
  have h_kept := Node.ends_value_kept_normal (s := g.scope) (h_free n.key) g.fuel
  refine (h_settles.and (h_persists.and (h_accounts.and h_kept))).mono (fun v m' h_v => ?_)
    fun _ _ _ => trivial
  obtain ⟨h_settled, h_persists, h_accounts, h_kept⟩ := h_v
  refine ⟨⟨h_persists, h_accounts, fun h_kind => ?_⟩, h_settled.quiet h_quiet,
    h_free.of_settled h_settled⟩
  rw [h_kept h_kind]
  exact Option.some_ne_none v

/-- Each root is asked in the memory that the roots before it have left. -/
theorem ends_fill_asks (number : Nat) (ids : List String) (h_ids : ∀ id ∈ ids, id ∈ g.roots)
    (d : DataSet) (h_quiet : m.Quiet) (h_free : Unfixed m) : Ends (g.fill .normal number ids d) m
      (fun _ m' => m' = g.afterIds ids m ∧
        ∀ k id n, ids[k]? = some id → g.graph.nodes.get? id = some n →
          g.AsksRoot n (g.afterIds (ids.take k) m) (g.afterIds (ids.take (k + 1)) m)) Anyhow := by
  induction ids generalizing d m with
  | nil => exact ⟨rfl, nofun⟩
  | cons id ids ih =>
    obtain ⟨n, -, h_get, -⟩ := h.get?_root (h_ids id List.mem_cons_self)
    have h_value := h.ends_value_asks h_get h_quiet h_free
    rcases h_v : g.value id .normal m with ⟨f | v, m₁⟩
    · rw [fill, ends_bind, Ends, h_v]
      trivial
    · obtain ⟨h_asks, h_quiet₁, h_free₁⟩ := h_value.of_ok h_v
      have h_after : ∀ later, g.afterIds (id :: later) m = g.afterIds later m₁ := by
        intro later
        rw [afterIds, List.map_cons, afterValues, h_v, afterIds]
      have h_rest : ∀ id' ∈ ids, id' ∈ g.roots :=
        fun id' h_id' => h_ids id' (List.mem_cons_of_mem _ h_id')
      rw [fill, ends_bind_of_ok h_v]
      refine (ih h_rest _ h_quiet₁ h_free₁).mono (fun d' m' h_m' => ?_) fun _ _ _ => trivial
      obtain ⟨rfl, h_later⟩ := h_m'
      refine ⟨(h_after ids).symm, ?_⟩
      -- The first root has just been asked; the later ones start from where it left off.
      rintro (_ | k) id' n' h_id' h_get'
      · obtain rfl : id = id' := by simpa using h_id'
        obtain rfl := Option.some.inj (h_get.symm.trans h_get')
        rw [List.take_succ_cons, h_after]
        exact h_asks
      · rw [List.take_succ_cons, List.take_succ_cons, h_after, h_after]
        exact h_later k id' n' (by simpa using h_id') h_get'

theorem afterRoots_eq (m : Memory) (k : Nat) :
    g.afterRoots m k = g.afterIds (g.roots.take k) (passBegun tops m) := by
  rw [afterRoots, h.memory_beginPass]

/-- **A pass asks the roots one after the other.** -/
theorem ends_generate_asks (h_quiet : m.Quiet) (h_free : Unfixed m) :
    Ends (g.generate .normal) m (fun _ m' =>
      (∀ key, m'.cell key = (g.afterRoots m g.roots.length).cell key) ∧
        ∀ k id n, g.roots[k]? = some id → g.graph.nodes.get? id = some n →
          g.AsksRoot n (g.afterRoots m k) (g.afterRoots m (k + 1))) Anyhow := by
  have h_settled := settled_passBegun tops m
  simp only [h.afterRoots_eq, List.take_length]
  rw [generate, ends_bind, h.ends_beginPass, ends_bind]
  refine (h.ends_fill_asks (m.passes + 1) g.roots (fun _ h_id => h_id) .empty
    (h_settled.quiet h_quiet) (h_free.of_settled h_settled)).mono (fun d m' h_m' => ?_)
    fun _ _ _ => trivial
  obtain ⟨rfl, h_asks⟩ := h_m'
  exact ⟨fun _ => rfl, h_asks⟩

/-- The node at a position of the top level is registered under the root at this position. -/
theorem exists_root {k : Nat} (h_n : tops[k]? = some n) :
    ∃ id, g.roots[k]? = some id ∧ g.graph.nodes.get? id = some n := by
  have h_id : (tops.map Node.id)[k]? = some n.id := by rw [List.getElem?_map, h_n]; rfl
  rw [h.roots, List.getElem?_map] at h_id
  obtain ⟨id, h_root, h_some⟩ := Option.map_eq_some_iff.1 h_id
  exact ⟨id, h_root, (h.registered id n).2
    ⟨⟨n, List.mem_of_getElem? h_n, n.inside_self⟩, h_some.symm⟩⟩

/-- A field of the top level is a root. -/
theorem exists_root_field {i : Nat} {x : Config.Constraint} {spec : Config.FieldSpec}
    (h_x : c.constraints[i]? = some x) (h_id : x.id = some id) (h_kind : x.kind = .field spec) :
    ∃ n f set, tops[i]? = some n ∧ g.roots[i]? = some id ∧ g.graph.nodes.get? id = some n ∧
      n.kind = .field f set := by
  obtain ⟨n, above, h_n, h_mirrors⟩ :=
    mirrors_nodeAt? h.mirrors (Config.at?_cons.2 ⟨x, h_x, x.at?_nil⟩)
  obtain ⟨n', h_top, h_n'⟩ := nodeAt?_cons.1 h_n
  obtain rfl : n' = n := by simpa using h_n'
  obtain ⟨id', h_root, h_get⟩ := h.exists_root h_top
  obtain rfl : id' = id :=
    Option.some.inj ((h.get?_iff.1 h_get).2.symm.trans (h_mirrors.id_eq.trans h_id))
  have h_mirrored := h_mirrors.kind
  rw [h_kind] at h_mirrored
  generalize h_node : n'.kind = kind at h_mirrored
  cases h_mirrored with
  | field _ _ => exact ⟨n', _, _, h_top, h_root, h_get, h_node⟩

omit h in
/-- A field asks no other node. -/
theorem not_calls_of_field {f : Field} {set : CharacterSet} (h_kind : n.kind = .field f set)
    (n' : Node) : ¬ g.scope.Calls n n' := by
  rintro (⟨link, h_link, -⟩ | ⟨id, h_rule, -⟩)
  · rw [h_kind] at h_link
    exact absurd h_link List.not_mem_nil
  · rw [h_kind] at h_rule
    cases h_rule

theorem leads_of_reach {p : Place} {n' : Node} (h_p : Specimen.nodeAt? tops p = some n)
    (h_path : Relation.ReflTransGen g.scope.Calls n n') :
    ∃ q, Specimen.nodeAt? tops q = some n' ∧ Relation.ReflTransGen c.Leads p q := by
  rcases Relation.reflTransGen_iff_eq_or_transGen.1 h_path with rfl | h_path
  · exact ⟨p, h_p, .refl⟩
  · obtain ⟨q, h_q, h_leads⟩ := h.leads_of_path h_p h_path
    exact ⟨q, h_q, h_leads.to_reflTransGen⟩

section Pass

variable (h_asks : ∀ k t, tops[k]? = some t →
  g.AsksRoot t (g.afterRoots m k) (g.afterRoots m (k + 1)))
include h_asks

omit h in
/-- What is kept when a root is asked is kept for the rest of the pass. -/
theorem persists_afterRoots {k k' : Nat} (h_le : k ≤ k') (h_k' : k' ≤ tops.length) :
    (g.afterRoots m k).Persists (g.afterRoots m k') := by
  induction k', h_le using Nat.le_induction with
  | base => exact .refl _
  | succ k' _ ih =>
    exact (ih (Nat.le_of_succ_le h_k')).trans (h_asks k' _ (List.getElem?_eq_getElem h_k')).persists

/-- **The turn.** A root that is a field and keeps null in the end turns null when a root before it
is asked. -/
theorem exists_turnsNull {i : Nat} {f : Field} {set : CharacterSet} (h_n : tops[i]? = some n)
    (h_kind : n.kind = .field f set)
    (h_null : ((g.afterRoots m tops.length).cell n.key).cache = some none) :
    ∃ k < i, ((g.afterRoots m k).cell n.key).cache = none ∧
      ((g.afterRoots m (k + 1)).cell n.key).cache = some none := by
  have h_i : i < tops.length := (List.getElem?_eq_some_iff.1 h_n).1
  -- at the beginning nothing is kept
  have h_start : ¬ ((g.afterRoots m 0).cell n.key).cache = some none := by
    have h_member : Member tops n := member_iff.2 ⟨n, List.mem_of_getElem? h_n, n.inside_self⟩
    rw [h.afterRoots_eq, List.take_zero, afterIds, List.map_nil, afterValues,
      cell_passBegun h_member]
    exact nofun
  obtain ⟨k, h_k, h_before, h_after⟩ :=
    exists_turn (P := fun k => ((g.afterRoots m k).cell n.key).cache = some none) h_start h_null
  have h_unasked : ((g.afterRoots m k).cell n.key).cache = none := by
    cases h_some : ((g.afterRoots m k).cell n.key).cache with
    | none => rfl
    | some w =>
      have h_kept := (h_asks k _ (List.getElem?_eq_getElem h_k)).persists.cache n.key w h_some
      rw [h_after] at h_kept
      exact absurd (h_some.trans h_kept.symm) h_before
  refine ⟨k, ?_, h_unasked, h_after⟩
  by_contra h_le
  rcases Nat.eq_or_lt_of_le (Nat.le_of_not_lt h_le) with rfl | h_lt
  · -- when it is asked itself, it reaches no optional node
    obtain ⟨o, h_o⟩ := (h_asks i n h_n).accounts.fields n f set .refl h_kind h_unasked h_after
    obtain ⟨h_path, child, rule, h_optional⟩ := h_o.nulls.source
    rcases h_path.cases_head with rfl | ⟨n', h_calls, -⟩
    · rw [h_kind] at h_optional
      cases h_optional
    · exact not_calls_of_field h_kind n' h_calls
  · -- afterwards it keeps a value
    have h_kept := (h_asks i n h_n).kept (by rw [h_kind]; rfl)
    obtain ⟨w, h_w⟩ := Option.ne_none_iff_exists'.1 h_kept
    have h_persists := persists_afterRoots h_asks h_lt (Nat.le_of_lt h_k)
    rw [h_persists.cache n.key w h_w] at h_unasked
    cases h_unasked

/-- **Why it turns.** Asking that root leads to an optional node that skips its child, and whose
request for null is passed on to the field. -/
theorem exists_skipsAt {k : Nat} {f : Field} {set : CharacterSet} {p : Place}
    (h_k : k < tops.length) (h_p : g.nodeAt? p = some n) (h_kind : n.kind = .field f set)
    (h_turns : g.TurnsNull m k p) : g.ignoreOptional = false ∧
      ∃ q, Relation.ReflTransGen c.Leads [k] q ∧ c.Nulls q p ∧ g.SkipsAt m k q := by
  obtain ⟨n', h_n', h_unasked, h_null⟩ := h_turns
  obtain rfl := Option.some.inj (h_p.symm.trans h_n')
  have h_t := h_asks k _ (List.getElem?_eq_getElem h_k)
  rw [h.nodeAt?_eq] at h_p
  have h_top : Specimen.nodeAt? tops [k] = some tops[k] :=
    nodeAt?_cons.2 ⟨_, List.getElem?_eq_getElem h_k, Node.at?_nil _⟩
  -- the field was asked while the root was
  have h_reached : Relation.ReflTransGen g.scope.Calls tops[k] n := by
    by_contra h_not
    have h_cell := h_t.accounts.outside n.key fun k' h_k' h_key =>
      h_not (h.eq_of_key_eq (h.member_of_path ⟨_, h_top⟩ h_k') ⟨p, h_p⟩ h_key ▸ h_k')
    rw [h_cell, h_unasked] at h_null
    cases h_null
  obtain ⟨o, h_o⟩ := h_t.accounts.fields n f set h_reached h_kind h_unasked h_null
  obtain ⟨q, h_q, h_leads⟩ := h.leads_of_reach h_top h_o.nulls.source.1
  obtain ⟨p', h_p', h_nulls⟩ := h.nulls_of_nulls
    (h_o.nulls.mono fun _ h_path => h.member_of_path ⟨_, h_top⟩ h_path) h_q
  obtain rfl := nodeAt?_unique h.keys_nodup h_p h_p' rfl
  obtain ⟨child, rule, h_optional, h_decided⟩ := h_o.decided
  exact ⟨h_o.nulls.heeds, q, h_leads, h_nulls, o, child, rule, h.nodeAt?_eq q ▸ h_q, h_optional,
    h_o.unasked, h_decided⟩

end Pass

end Represents

/-- **Roots that are null.** Let a pass give a data set, at any point of a session and without
overrides. The data set has an entry for each root that is a field, and it is null just in case the
field turns null when an earlier root is asked.

It only does so if optional nodes are heeded. Then the earlier root leads to an optional node that
is asked for the first time in the pass and skips its child, and the request for null is passed on
from this node to the field, by combined nodes and sources only. -/
theorem root_null_iff {c : Config} {o : GeneratorOptions} {random : UInt64} {g : Generator}
    (h_ok : ofConfig c o random = .ok g) {m m' : Memory} {d : DataSet} (h_reachable : g.Reachable m)
    (h_free : Unfixed m) (h_pass : g.generate .normal m = (.ok d, m')) {i : Nat}
    {x : Config.Constraint} {id : String} {spec : Config.FieldSpec}
    (h_x : c.constraints[i]? = some x) (h_id : x.id = some id) (h_kind : x.kind = .field spec) :
    ∃ v, d.values.get? id = some v ∧ (v = none ↔ ∃ k < i, g.TurnsNull m k [i]) ∧
      ∀ k < i, g.TurnsNull m k [i] → o.ignoreOptional = false ∧
        ∃ p, Relation.ReflTransGen c.Leads [k] p ∧ c.Nulls p [i] ∧ g.SkipsAt m k p := by
  obtain ⟨⟨tops, h_of⟩, h_ignore, -⟩ := ofConfig_represents h_ok
  have h_quiet := h_of.quiet_of_reachable h_reachable
  obtain ⟨h_last, h_asks⟩ := (h_of.ends_generate_asks h_quiet h_free).of_ok h_pass
  obtain ⟨-, h_stores⟩ := (h_of.ends_generate_fields h_quiet h_free).of_ok h_pass
  obtain ⟨n, f, set, h_n, h_root, h_get, h_node⟩ := h_of.exists_root_field h_x h_id h_kind
  have h_roots : ∀ k t, tops[k]? = some t →
      g.AsksRoot t (g.afterRoots m k) (g.afterRoots m (k + 1)) := by
    intro k t h_t
    obtain ⟨id, h_id, h_get⟩ := h_of.exists_root h_t
    exact h_asks k id t h_id h_get
  obtain ⟨w, h_w, h_value⟩ :=
    h_stores id (List.mem_of_getElem? h_root) n h_get (by rw [h_node]; rfl)
  have h_length : g.roots.length = tops.length := by
    simpa using (congrArg List.length h_of.roots).symm
  rw [h_last, h_length] at h_w
  have h_i : i < tops.length := (List.getElem?_eq_some_iff.1 h_n).1
  have h_place : g.nodeAt? [i] = some n := by
    rw [h_of.nodeAt?_eq]
    exact nodeAt?_cons.2 ⟨n, h_n, n.at?_nil⟩
  refine ⟨_, h_value, stored_eq_none_iff.trans ⟨?_, ?_⟩, fun k h_k h_turns => ?_⟩
  · rintro rfl
    obtain ⟨k, h_k, h_before, h_after⟩ := h_of.exists_turnsNull h_roots h_n h_node h_w
    exact ⟨k, h_k, n, h_place, h_before, h_after⟩
  · rintro ⟨k, h_k, n', h_n', -, h_after⟩
    obtain rfl := Option.some.inj (h_place.symm.trans h_n')
    -- what the field keeps then it keeps to the end
    have h_kept := (Represents.persists_afterRoots h_roots (Nat.lt_of_lt_of_le h_k
      (Nat.le_of_lt h_i)) (Nat.le_refl _)).cache n.key none h_after
    exact Option.some.inj (h_w.symm.trans h_kept)
  · rw [← h_ignore]
    exact h_of.exists_skipsAt h_roots (Nat.lt_trans h_k h_i) h_place h_node h_turns

/-- A number, and before it a choice whether to show it. -/
def choiceAndNumber : Config :=
  ⟨Config.supportedVersion, none, .empty, [
    .mk (some "choice") none (.optional (.reference "number") (.fixed false)),
    .mk (some "number") none (.field (.number 0 2))]⟩

/-- Draws by which a choice falls on leaving out. -/
def leavingOut : Draws := ⟨fun _ => 0x8000_0000, 0⟩

theorem exists_generate_choiceAndNumber : ∃ g d m', ofConfig choiceAndNumber {} 0 = .ok g ∧
    g.generate .normal (g.freshMemory.withDraws leavingOut) = (.ok d, m') ∧
    d.values.get? "number" = some none := by
  have h_run : (ofConfig choiceAndNumber {} 0).toOption.map (fun g =>
      (g.generate .normal (g.freshMemory.withDraws leavingOut)).1.toOption.map
        (·.values.get? "number")) = some (some (some none)) := by decide +kernel
  obtain ⟨g, h_ok, h_g⟩ := exists_ok_of_map h_run
  rcases h_pass : g.generate .normal (g.freshMemory.withDraws leavingOut) with ⟨f | d, m'⟩
  · rw [h_pass] at h_g
    cases h_g
  · rw [h_pass] at h_g
    exact ⟨g, d, m', h_ok, h_pass, Option.some.inj h_g⟩

/-- The number turns null when the choice is asked, because that leaves it out. -/
theorem root_null_iff_choiceAndNumber : ∃ g d m' p, ofConfig choiceAndNumber {} 0 = .ok g ∧
    g.Reachable (g.freshMemory.withDraws leavingOut) ∧
    Unfixed (g.freshMemory.withDraws leavingOut) ∧
    g.generate .normal (g.freshMemory.withDraws leavingOut) = (.ok d, m') ∧
    g.TurnsNull (g.freshMemory.withDraws leavingOut) 0 [1] ∧
    choiceAndNumber.Nulls p [1] ∧ g.SkipsAt (g.freshMemory.withDraws leavingOut) 0 p := by
  obtain ⟨g, d, m', h_ok, h_pass, h_null⟩ := exists_generate_choiceAndNumber
  have h_free : Unfixed (g.freshMemory.withDraws leavingOut) := fun _ => rfl
  obtain ⟨v, h_v, h_iff, h_why⟩ := root_null_iff h_ok (.start leavingOut) h_free h_pass
    (i := 1) rfl rfl rfl
  obtain rfl := Option.some.inj (h_v.symm.trans h_null)
  obtain ⟨k, h_k, h_turns⟩ := h_iff.1 rfl
  obtain rfl : k = 0 := Nat.lt_one_iff.1 h_k
  obtain ⟨-, p, -, h_nulls, h_skips⟩ := h_why 0 h_k h_turns
  exact ⟨g, d, m', p, h_ok, .start leavingOut, h_free, h_pass, h_turns, h_nulls, h_skips⟩

/-- **A root that is null.** The choice leaves the number out, and the data set holds null for the
number as well. -/
theorem root_null_of_skipped : ∃ g d m' x spec, ofConfig choiceAndNumber {} 0 = .ok g ∧
    g.Reachable (g.freshMemory.withDraws leavingOut) ∧
    Unfixed (g.freshMemory.withDraws leavingOut) ∧
    g.generate .normal (g.freshMemory.withDraws leavingOut) = (.ok d, m') ∧
    choiceAndNumber.constraints[1]? = some x ∧ x.id = some "number" ∧ x.kind = .field spec ∧
      d.values.get? "number" = some none := by
  obtain ⟨g, d, m', h_ok, h_pass, h_null⟩ := exists_generate_choiceAndNumber
  exact ⟨g, d, m', _, _, h_ok, .start leavingOut, fun _ => rfl, h_pass, rfl, rfl, rfl, h_null⟩

end Generator

end Specimen
