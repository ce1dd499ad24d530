import Specimen.Proofs.Generator.Coverage
import Specimen.Proofs.Generator.Indexing

/-!
# Boundaries below optional nodes

Looking for cases that are left comes to an optional node's child only if the node is not known to
be free to leave it out; for a node that is, it only looks at which sides the choice has shown. So
an enumeration that comes to its end covers the boundaries of the fields below optional nodes as far
as these are known to be bound to generate them, and the choices of the others have shown both sides
(`Generator.enumerate_covers_bound`). Below those a field may have boundaries left
(`Generator.boundary_left_out`).

In any case a field has served as many of its boundaries as it has held a text in passes, from the
lowest on.
-/

namespace Specimen

/-- If a node has cases left, so has one in which it stands, unless an optional node in between is
known to be free to leave its child out. -/
theorem Scope.Pending.of_at? {s : Scope} {cells : Nat → Cell} {n : Node} {p : Place} :
    ∀ {t : Node}, t.at? p = some n → (∀ q o child rule, q <+: p → q ≠ p → t.at? q = some o →
      o.kind = .optional child rule → s.knownMandatory (cells o.key) rule ≠ some false) →
        s.Pending cells n → s.Pending cells t := by
  induction p with
  | nil =>
    intro t h_p _ h
    rw [Node.at?_nil] at h_p
    exact Option.some.inj h_p ▸ h
  | cons i p ih =>
    intro t h_p h_bound h
    obtain ⟨k, h_i, h_p⟩ := Node.at?_cons.1 h_p
    have h_link := List.mem_of_getElem? h_i
    have h_k : s.Pending cells k := by
      refine ih h_p (fun q o child rule h_q h_ne h_o => ?_) h
      refine h_bound (i :: q) o child rule ?_ (fun h_eq => h_ne (List.cons.inj h_eq).2) ?_
      · exact (List.prefix_cons_inj i).2 h_q
      · exact Node.at?_cons.2 ⟨k, h_i, h_o⟩
    -- Only an optional node can keep its part back, and `h_bound` says that this one does not.
    cases h_kind : t.kind with
    | optional child rule =>
      rw [h_kind] at h_link
      obtain rfl := List.mem_singleton.1 h_link
      have h_known :=
        h_bound [] t _ rule List.nil_prefix (List.cons_ne_nil i p).symm t.at?_nil h_kind
      exact .child h_kind h_known rfl h_k
    | constant _ | field _ _ | combined _ _ | source _ =>
      exact .part (by rw [h_kind]; rfl) h_link rfl h_k

namespace Generator

/-- No optional node above a place is known to be free to leave its child out. -/
def BoundAbove (g : Generator) (m : Memory) (p : Place) : Prop :=
  ∀ q o child rule, q <+: p → q ≠ p → g.nodeAt? q = some o → o.kind = .optional child rule →
    g.scope.knownMandatory (m.cell o.key) rule ≠ some false

/-- In how many of the first passes of an enumeration a node has a text in the end. -/
def texts (g : Generator) (m : Memory) (n : Node) (k : Nat) : Nat :=
  (List.range k).countP fun i => ((g.afterPasses m (i + 1)).cell n.key).cache.join.isSome

theorem texts_succ (g : Generator) (m : Memory) (n : Node) (k : Nat) : g.texts m n (k + 1) =
    g.texts m n k + if ((g.afterPasses m (k + 1)).cell n.key).cache.join.isSome then 1 else 0 := by
  rw [texts, List.range_succ, List.countP_append, List.countP_singleton, texts]

namespace Represents

variable {g : Generator} {c : Config} {tops : List Node} {m m' : Memory} {n : Node} {p : Place}
  (h : g.Represents c tops)
include h

theorem member_of_nodeAt? (h_n : g.nodeAt? p = some n) : Member tops n := by
  rw [h.nodeAt?_eq] at h_n
  exact ⟨p, h_n⟩

/-- An optional constraint stands at the place where it was declared. -/
theorem exists_optional {x : Config.Constraint} {child : Config.Child} {rule : Config.Mandatory}
    (h_x : c.at? p = some x) (h_kind : x.kind = .optional child rule) :
    ∃ n link, g.nodeAt? p = some n ∧ n.kind = .optional link rule := by
  obtain ⟨n, above, h_n, h_mirrors⟩ := mirrors_nodeAt? h.mirrors h_x
  have h_mirrored := h_mirrors.kind
  rw [h_kind] at h_mirrored
  generalize h_node : n.kind = kind at h_mirrored
  cases h_mirrored with
  | optional _ =>
    refine ⟨n, _, ?_, h_node⟩
    rw [h.nodeAt?_eq]
    exact h_n

/-- An optional node has the rule of its constraint. -/
theorem optional_of_nodeAt? {link : Link} {rule : Config.Mandatory} (h_n : g.nodeAt? p = some n)
    (h_kind : n.kind = .optional link rule) :
    ∃ x child, c.at? p = some x ∧ x.kind = .optional child rule := by
  rw [h.nodeAt?_eq] at h_n
  exact h.optional_at h_n h_kind

/-- If a node that is not to be left out has cases left, then a root has. -/
theorem anyLeft_of_bound (h_n : g.nodeAt? p = some n) (h_bound : g.BoundAbove m p)
    (h_pending : g.scope.Pending m.cell n) : g.AnyLeft tops m := by
  unfold BoundAbove at h_bound
  simp only [h.nodeAt?_eq] at h_n h_bound
  cases p with
  | nil => cases h_n
  | cons i p =>
    obtain ⟨t, h_i, h_p⟩ := nodeAt?_cons.1 h_n
    refine ⟨t, List.mem_of_getElem? h_i,
      .of_at? h_p (fun q o child rule h_q h_ne h_o => ?_) h_pending⟩
    refine h_bound (i :: q) o child rule ((List.prefix_cons_inj i).2 h_q)
      (fun h_eq => h_ne (List.cons.inj h_eq).2) ?_
    exact nodeAt?_cons.2 ⟨t, h_i, h_o⟩

/-- **What a field has served.** After some passes of an enumeration these are as many boundaries,
from the lowest on, as the field has held a text in passes. -/
theorem served_afterPasses (h_quiet : m.Quiet) (h_free : Unfixed m) {f : Field} {set : CharacterSet}
    (h_n : Member tops n) (h_kind : n.kind = .field f set) {k : Nat}
    (h_passes : ∀ i < k, ∃ d, g.PassGives m i d) (p : Int) :
    p ∈ ((g.afterPasses m k).cell n.key).served ↔
      p ∈ (f.boundaries.take (g.texts m n k)).map (·.2) := by
  induction k generalizing p with
  | zero =>
    rw [h.served_afterPasses_zero h_n]
    simp [texts]
  | succ k ih =>
    have h_before := ih fun i h_i => h_passes i (Nat.lt_succ_of_lt h_i)
    have h_pending := pendingCase?_of_served h_before
    obtain ⟨d, h_pass⟩ := h_passes k (Nat.lt_succ_self k)
    rw [texts_succ]
    -- the field has a text in the pass if it has served the next boundary, or none was left
    cases (h.pass h_quiet h_free h_pass).1 n f set h_n h_kind with
    | unasked h_cache h_served | nulled h_cache h_served =>
      rw [h_served, h_cache]
      exact h_before p
    | @served c t draws h_next _ h_cache h_served =>
      rw [h_next] at h_pending
      obtain ⟨b, h_b, rfl⟩ := Option.map_eq_some_iff.1 h_pending.symm
      have h_position := (Field.eq_of_mem_boundaries (List.mem_of_getElem? h_b)).2
      rw [h_served, h_cache, h_before p]
      simp [List.take_add_one, h_b, h_position, or_comm]
    | drawn h_none _ h_cache h_served =>
      rw [h_none] at h_pending
      have h_all := List.getElem?_eq_none_iff.1 (Option.map_eq_none_iff.1 h_pending.symm)
      rw [h_served, h_before p, List.take_of_length_le h_all]
      rw [List.take_of_length_le (Nat.le_add_right_of_le h_all)]

/-- **Both sides are shown.** A choice that has no side left at the end of an enumeration has shown
each side first in one of the passes. -/
theorem exists_first_shown {limit : Nat} {ds : List DataSet} (h_quiet : m.Quiet)
    (h_ok : g.enumerate limit m = (.ok ds, m')) (h_n : Member tops n)
    (h_none : (m'.cell n.key).choice.hasNext = false) :
    (∃ k < ds.length, ((g.afterPasses m k).cell n.key).choice.seenTrue = false ∧
      ((g.afterPasses m (k + 1)).cell n.key).choice.seenTrue = true) ∧
    ∃ k < ds.length, ((g.afterPasses m k).cell n.key).choice.seenFalse = false ∧
      ((g.afterPasses m (k + 1)).cell n.key).choice.seenFalse = true := by
  have h_fresh : ((g.afterPasses m 0).cell n.key).choice = .fresh := by
    rw [h.afterPasses_zero, cell_casesReset h_n]
    rfl
  rw [h.cell_enumerate h_quiet h_ok, FairChoice.hasNext] at h_none
  obtain ⟨h_true, h_false⟩ : ((g.afterPasses m ds.length).cell n.key).choice.seenTrue = true ∧
      ((g.afterPasses m ds.length).cell n.key).choice.seenFalse = true := by simpa using h_none
  constructor
  · obtain ⟨k, h_k, h_before, h_after⟩ := exists_turn
      (P := fun k => ((g.afterPasses m k).cell n.key).choice.seenTrue = true)
      (by rw [h_fresh]; simp [FairChoice.fresh]) h_true
    exact ⟨k, h_k, by simpa using h_before, h_after⟩
  · obtain ⟨k, h_k, h_before, h_after⟩ := exists_turn
      (P := fun k => ((g.afterPasses m k).cell n.key).choice.seenFalse = true)
      (by rw [h_fresh]; simp [FairChoice.fresh]) h_false
    exact ⟨k, h_k, by simpa using h_before, h_after⟩

end Represents

/-- **Boundaries below optional nodes.** Take any reachable memory without overrides and any limit,
and let an enumeration come to its end with no case left.

Then a field has served each of its boundaries in a pass of the enumeration, unless an optional node
above it is known to be free to leave its child out: its rule says so, or says so of the latest
pass in which it was heard. The choice of an optional node that is not known to be bound to generate
its child has shown in the enumeration both that the child is there and that it is not. And any
field has served as many of its boundaries, from the lowest on, as there were passes in which it had
a text. -/
theorem enumerate_covers_bound {c : Config} {o : GeneratorOptions} {random : UInt64} {g : Generator}
    (h : ofConfig c o random = .ok g) {m : Memory} (h_m : g.Reachable m) (h_free : Unfixed m)
    {limit : Nat} {ds : List DataSet} {m' : Memory} (h_ok : g.enumerate limit m = (.ok ds, m'))
    {m'' : Memory} (h_over : g.hasNextCase m' = (.ok false, m'')) :
    (∀ p n f set, g.nodeAt? p = some n → n.kind = .field f set → g.BoundAbove m' p →
      ∀ b ∈ f.boundaries, ∃ k d, ds[k]? = some d ∧ g.PassGives m k d ∧
        b.2 ∉ ((g.afterPasses m k).cell n.key).served ∧
          b.2 ∈ ((g.afterPasses m (k + 1)).cell n.key).served) ∧
    (∀ p n child rule, g.nodeAt? p = some n → n.kind = .optional child rule → g.BoundAbove m' p →
      g.scope.knownMandatory (m'.cell n.key) rule ≠ some true →
      (∃ k < ds.length, ((g.afterPasses m k).cell n.key).choice.seenTrue = false ∧
        ((g.afterPasses m (k + 1)).cell n.key).choice.seenTrue = true) ∧
      ∃ k < ds.length, ((g.afterPasses m k).cell n.key).choice.seenFalse = false ∧
        ((g.afterPasses m (k + 1)).cell n.key).choice.seenFalse = true) ∧
    ∀ p n f set, g.nodeAt? p = some n → n.kind = .field f set → ∀ q,
      q ∈ (m'.cell n.key).served ↔ q ∈ (f.boundaries.take (g.texts m n ds.length)).map (·.2) := by
  obtain ⟨⟨tops, h_of⟩, -⟩ := ofConfig_represents h
  have h_quiet := h_of.quiet_of_reachable h_m
  have h_none := h_of.not_anyLeft h_quiet h_ok h_over
  refine ⟨fun p n f set h_n h_kind h_bound b h_b => ?_,
    fun p n child rule h_n h_kind h_bound h_known => ?_, fun p n f set h_n h_kind q => ?_⟩
  · refine h_of.exists_pass_of_served h_quiet h_ok (h_of.member_of_nodeAt? h_n) ?_ h_b
    by_contra h_pending
    exact h_none (h_of.anyLeft_of_bound h_n h_bound (.field h_kind h_pending))
  · refine h_of.exists_first_shown h_quiet h_ok (h_of.member_of_nodeAt? h_n) ?_
    by_contra h_next
    refine h_none (h_of.anyLeft_of_bound h_n h_bound (.choice h_kind h_known ?_))
    simpa using h_next
  · rw [h_of.cell_enumerate h_quiet h_ok]
    refine h_of.served_afterPasses h_quiet h_free (h_of.member_of_nodeAt? h_n) h_kind
      (fun k h_k => ?_) q
    exact ⟨_, ((g.ends_enumerate_passes limit m).of_ok h_ok).1 k _ (List.getElem?_eq_getElem h_k)⟩

/-- A number that has to be there, and one that need not. -/
def boundAndFree : Config :=
  ⟨Config.supportedVersion, none, .empty, [
    .mk (some "bound") none
      (.optional (.embedded (.mk none none (.field (.number 0 2)))) (.fixed true)),
    .mk (some "free") none
      (.optional (.embedded (.mk none none (.field (.number 0 2)))) (.fixed false))]⟩

/-- Three passes come to the end of the first number, and the second number is there in two of
them. -/
theorem exists_enumerate_boundAndFree : ∃ g ds m' m'', ofConfig boundAndFree {} 0 = .ok g ∧
    g.enumerate 10 (g.freshMemory.withDraws default) = (.ok ds, m') ∧
    g.hasNextCase m' = (.ok false, m'') ∧
    (g.nodeAt? [1, 0]).map (fun n => (m'.cell n.key).served) = some [1, 0] := by
  have h_run : (ofConfig boundAndFree {} 0).toOption.map (fun g =>
      let (result, m') := g.enumerate 10 (g.freshMemory.withDraws default)
      (result.toOption.map List.length, (g.hasNextCase m').1.toOption,
        (g.nodeAt? [1, 0]).map fun n => (m'.cell n.key).served)) =
      some (some 3, some false, some [1, 0]) := by decide +kernel
  obtain ⟨g, h_ok, h_g⟩ := exists_ok_of_map h_run
  rcases h_enumerate : g.enumerate 10 (g.freshMemory.withDraws default) with ⟨f | ds, m'⟩
  · rw [h_enumerate] at h_g
    cases h_g
  · rw [h_enumerate] at h_g
    obtain ⟨-, h_rest⟩ := Prod.mk.inj h_g
    obtain ⟨h_next, h_served⟩ := Prod.mk.inj h_rest
    rcases h_over : g.hasNextCase m' with ⟨f | more, m''⟩
    · rw [h_over] at h_next
      cases h_next
    · rw [h_over] at h_next
      cases h_next
      exact ⟨g, ds, m', m'', h_ok, h_enumerate, h_over, h_served⟩

/-- The first number serves its greatest value in one of the passes, and in one the second number is
left out. -/
theorem enumerate_covers_boundAndFree : ∃ g ds m' m'' n o,
    ofConfig boundAndFree {} 0 = .ok g ∧ g.Reachable (g.freshMemory.withDraws default) ∧
    Unfixed (g.freshMemory.withDraws default) ∧
    g.enumerate 10 (g.freshMemory.withDraws default) = (.ok ds, m') ∧
    g.hasNextCase m' = (.ok false, m'') ∧ g.nodeAt? [0, 0] = some n ∧ g.nodeAt? [1] = some o ∧
    (∃ k d, ds[k]? = some d ∧
      2 ∈ ((g.afterPasses (g.freshMemory.withDraws default) (k + 1)).cell n.key).served) ∧
    ∃ k < ds.length, ((g.afterPasses (g.freshMemory.withDraws default) (k + 1)).cell
      o.key).choice.seenFalse = true := by
  obtain ⟨g, ds, m', m'', h_ok, h_enumerate, h_over, -⟩ := exists_enumerate_boundAndFree
  obtain ⟨⟨tops, h_of⟩, h_ignore, -⟩ := ofConfig_represents h_ok
  have h_free : Unfixed (g.freshMemory.withDraws default) := fun _ => rfl
  obtain ⟨n, set, h_n, -, -, h_kind⟩ := h_of.exists_field (p := [0, 0])
    (x := .mk none none (.field (.number 0 2))) rfl rfl rfl
  obtain ⟨o, link, h_o, h_rule⟩ := h_of.exists_optional (p := [1])
    (x := .mk (some "free") none
      (.optional (.embedded (.mk none none (.field (.number 0 2)))) (.fixed false))) rfl rfl
  -- the rule of the optional node above the first number says that it has to be there
  have h_bound : g.BoundAbove m' [0, 0] := by
    intro q o child rule h_q h_ne h_o h_kind
    obtain ⟨x, child', h_x, h_spec⟩ := h_of.optional_of_nodeAt? h_o h_kind
    obtain rfl | rfl : q = [] ∨ q = [0] := by
      have h_cases : q = [] ∨ q = [0] ∨ q = [0, 0] := by
        simpa using (List.mem_inits _ _).2 h_q
      simpa [h_ne] using h_cases
    · cases h_o
    · cases h_x
      cases h_spec
      simp [Scope.knownMandatory]
  have h_top : g.BoundAbove m' [1] := by
    intro q o child rule h_q h_ne h_o
    obtain rfl : q = [] := by
      have h_cases : q = [] ∨ q = [1] := by simpa using (List.mem_inits _ _).2 h_q
      exact h_cases.resolve_right h_ne
    cases h_o
  obtain ⟨h_covers, h_shows, -⟩ := enumerate_covers_bound h_ok (.start default) h_free h_enumerate
    h_over
  obtain ⟨k, d, h_d, -, -, h_served⟩ := h_covers [0, 0] n _ set h_n h_kind h_bound (.max, 2)
    (by decide)
  obtain ⟨-, i, h_i, -, h_false⟩ := h_shows [1] o link _ h_o h_rule h_top
    (by simp [Scope.knownMandatory, scope, h_ignore])
  exact ⟨g, ds, m', m'', n, o, h_ok, .start default, h_free, h_enumerate, h_over, h_n, h_o,
    ⟨k, d, h_d, h_served⟩, i, h_i, h_false⟩

/-- **A boundary that is left out.** The enumeration ends with no case left, and the second number
has not served its greatest value. -/
theorem boundary_left_out : ∃ g ds m' m'' n f set, ∃ b : FieldCase × Int,
    ofConfig boundAndFree {} 0 = .ok g ∧ g.Reachable (g.freshMemory.withDraws default) ∧
    Unfixed (g.freshMemory.withDraws default) ∧
    g.enumerate 10 (g.freshMemory.withDraws default) = (.ok ds, m') ∧
    g.hasNextCase m' = (.ok false, m'') ∧
    g.nodeAt? [1, 0] = some n ∧ n.kind = .field f set ∧ b ∈ f.boundaries ∧
      b.2 ∉ (m'.cell n.key).served := by
  obtain ⟨g, ds, m', m'', h_ok, h_enumerate, h_over, h_served⟩ := exists_enumerate_boundAndFree
  obtain ⟨⟨tops, h_of⟩, -⟩ := ofConfig_represents h_ok
  obtain ⟨n, set, h_n, -, -, h_kind⟩ := h_of.exists_field (p := [1, 0])
    (x := .mk none none (.field (.number 0 2))) rfl rfl rfl
  rw [h_n, Option.map_some] at h_served
  refine ⟨g, ds, m', m'', n, _, set, (.max, 2), h_ok, .start default, fun _ => rfl, h_enumerate,
    h_over, h_n, h_kind, ?_, ?_⟩
  · decide
  · rw [Option.some.inj h_served]
    decide

end Generator

end Specimen
