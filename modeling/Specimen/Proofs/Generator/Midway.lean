import Specimen.Proofs.Generator.Constraints
import Specimen.Proofs.Node.Upholding

/-!
# What holds at the end of a pass

Between two roots of a pass nothing is being evaluated, and what the roots so far have answered is
fixed. So at the end of the pass there is a memory in which all roots have fixed answers, and these
are what the data set holds (`Represents.generate_midway`); they hold together with any fact about
the memory that all roots uphold.

The node of a root to which nothing refers is asked by the pass itself and by rules only, as no link
leads to it (`Represents.unlinked_of_top`). Facts about such nodes are the ones to be upheld.
-/

namespace Specimen

namespace Generator

/-- Where no node is overridden, no override changes. -/
theorem Unfixed.constantOverrides {m : Memory} (h : Unfixed m) : m.ConstantOverrides := by
  intro key values h_values
  cases (h key).symm.trans h_values

namespace Represents

variable {g : Generator} {c : Config} {tops : List Node} {case : FieldCase} {m m' : Memory}
  {I : Memory → Prop} {number : Nat}

/-- Between two roots of a pass nothing is being evaluated, no node is overridden and a fact
holds. -/
structure Midway (I : Memory → Prop) (m : Memory) : Prop where
  stack : m.HasStack []
  free : Unfixed m
  fact : I m

/-- The values of a data set are stored for the fixed answers of nodes that are registered. -/
def Fixes (g : Generator) (case : FieldCase) (number : Nat) (d : DataSet) (m : Memory) : Prop :=
  ∀ id v, d.values.get? id = some v → ∃ n hops w, g.graph.nodes.get? id = some n ∧
    g.scope.Fixed m hops n case w ∧ v = g.stored number id w

theorem Fixes.persists {d : DataSet} (h : Fixes g case number d m) (h_persists : m.Persists m') :
    Fixes g case number d m' := by
  intro id v h_v
  obtain ⟨n, hops, w, h_get, h_fixed, h_stored⟩ := h id v h_v
  exact ⟨n, hops, w, h_get, h_fixed.persists h_persists, h_stored⟩

/-- The roots uphold a fact in passes for a case. -/
def RootsUphold (g : Generator) (tops : List Node) (case : FieldCase) (I : Memory → Prop) : Prop :=
  ∀ n ∈ tops, ∀ m m' v, Scope.Holds I [] m → g.nodeValue n case m = (.ok v, m') → I m'

variable (h : g.Represents c tops)
include h

/-- The roots uphold what one evaluation of a secluded node upholds. -/
theorem rootsUphold {k : Node} {Own : Node → Prop}
    (h_secluded : g.scope.Secluded (Member tops) k Own)
    (h_concerns : Memory.Concerns (fun n => n = k ∨ Own n) I) (h_case : case ≠ .blank)
    (h_upheld : g.scope.UpheldBy (Member tops) k Own case I) (h_own : ∀ n ∈ tops, ¬ Own n) :
    RootsUphold g tops case I := by
  intro n h_top m m' v h_m h_value
  have h_upholds : g.scope.Upholds (Member tops) k Own case I g.fuel :=
    Scope.upholds (fun _ _ => h.member_of_calls) (fun _ _ => h.eq_of_key_eq) h_secluded h_concerns
      h_case h_upheld g.fuel
  exact (h_upholds (member_iff.2 ⟨n, h_top, n.inside_self⟩) (h_own n h_top) (.inl rfl) h_m
    h_value).fact

/-- **One root.** When a root has answered, its answer is fixed, and it can be put into the data
set. -/
theorem value_midway (h_upheld : RootsUphold g tops case I) {id : String} (h_id : id ∈ g.roots)
    {d : DataSet} {v : Option String} (h_value : g.value id case m = (.ok v, m'))
    (h_m : Midway I m) (h_d : Fixes g case number d m) :
    Midway I m' ∧ Fixes g case number (d.put id (g.stored number id v)) m' := by
  obtain ⟨n, h_top, h_get, -⟩ := h.get?_root h_id
  rw [value, find_eq h_get, pure_bind] at h_value
  obtain ⟨h_stack, h_persists⟩ := h_m.stack.value h_value
  obtain ⟨hops, h_fixed⟩ := h_m.stack.fixed h_m.free.constantOverrides h_value
  refine ⟨⟨h_stack, fun key => (h_persists.override key).trans (h_m.free key), ?_⟩, ?_⟩
  · exact h_upheld n h_top m m' v ⟨h_m.stack, h_m.free.constantOverrides, h_m.fact⟩ h_value
  · exact forall_put (P := fun id v => ∃ n hops w, g.graph.nodes.get? id = some n ∧
      g.scope.Fixed m' hops n case w ∧ v = g.stored number id w)
      ⟨n, hops, v, h_get, h_fixed, rfl⟩ (h_d.persists h_persists)

/-- **A pass.** When all roots have been asked, the data set holds their fixed answers. -/
theorem generate_midway (h_upheld : RootsUphold g tops case I) (h_start : I (passBegun tops m))
    (h_m : g.Reachable m) (h_free : Unfixed m) {d : DataSet}
    (h_pass : g.generate case m = (.ok d, m')) :
    (∃ last, Midway I last ∧ Fixes g case (m.passes + 1) d last) ∧
      ∀ id ∈ g.roots, ∃ v, d.values.get? id = some v := by
  have h_settled := settled_passBegun tops m
  exact h.generate_keeps (I := fun m₁ d => Midway I m₁ ∧ Fixes g case (m.passes + 1) d m₁)
    (fun id h_id d k v k' h_value h_k => h.value_midway h_upheld h_id h_value h_k.1 h_k.2)
    ⟨⟨.start (h_settled.quiet (h.quiet_of_reachable h_m)), h_free.of_settled h_settled, h_start⟩,
      fun _ _ h_v => by cases h_v⟩ h_pass

omit h in
/-- What the data set holds for a root is stored for its fixed answer. -/
theorem get?_of_fixed {d : DataSet} (h_d : Fixes g case number d m)
    (h_all : ∀ id ∈ g.roots, ∃ v, d.values.get? id = some v) {id : String} (h_id : id ∈ g.roots)
    {n : Node} (h_get : g.graph.nodes.get? id = some n) {hops : Nat} {v : Option String}
    (h_fixed : g.scope.Fixed m hops n case v) :
    d.values.get? id = some (g.stored number id v) := by
  obtain ⟨w, h_w⟩ := h_all id h_id
  obtain ⟨n', hops', v', h_get', h_fixed', rfl⟩ := h_d id w h_w
  obtain rfl := Option.some.inj (h_get.symm.trans h_get')
  rw [h_w, h_fixed.unique h_fixed']

/-! ### Roots -/

/-- The node of a constraint of the top level is registered under its id. -/
theorem exists_get?_top {x : Config.Constraint} (h_x : x ∈ c.constraints) {id : String}
    (h_id : x.id = some id) : ∃ n i, nodeAt? tops [i] = some n ∧
      g.graph.nodes.get? id = some n ∧
        NodeKind.Mirrors g.graph.charsets n.identity x.kind n.kind := by
  obtain ⟨i, h_i⟩ := List.getElem?_of_mem h_x
  obtain ⟨n, above, h_n, h_mirrors⟩ :=
    mirrors_nodeAt? h.mirrors (Config.at?_cons.2 ⟨x, h_i, x.at?_nil⟩)
  exact ⟨n, i, h_n, h.get?_iff.2 ⟨⟨[i], h_n⟩, h_mirrors.id_eq.trans h_id⟩, h_mirrors.kind⟩

/-- If nothing refers to a constraint of the top level, no link leads to its node. -/
theorem unlinked_of_top {n : Node} {i : Nat} (h_place : nodeAt? tops [i] = some n) {id : String}
    (h_get : g.graph.nodes.get? id = some n)
    (h_unnamed : ∀ p y, c.at? p = some y → .reference id ∉ y.children) :
    ∀ k, Member tops k → ∀ link ∈ k.kind.links, g.scope.target? link ≠ some n := by
  rintro k ⟨p, h_p⟩ link h_link h_target
  obtain ⟨-, h_own⟩ := h.get?_iff.1 h_get
  obtain ⟨y, above, h_y, h_above⟩ := mirrors_of_nodeAt? h.mirrors h_p
  obtain ⟨j, h_j⟩ := List.getElem?_of_mem h_link
  obtain ⟨child, h_child, h_part⟩ := h_above.links.part h_j
  cases h_part with
  | @reference _ id' =>
    obtain ⟨-, h_own'⟩ := h.get?_iff.1 h_target
    obtain rfl := Option.some.inj (h_own.symm.trans h_own')
    exact h_unnamed p y h_y (List.mem_of_getElem? h_child)
  | @embedded _ _ m _ =>
    -- what is embedded does not stand at the top
    obtain rfl : m = n := Option.some.inj h_target
    have h_same := nodeAt?_unique h.keys_nodup (nodeAt?_part h_p h_j) h_place rfl
    obtain ⟨rfl, -⟩ | ⟨-, h_nil⟩ := List.append_eq_singleton_iff.1 h_same
    · cases h_p
    · cases h_nil

end Represents

end Generator

end Specimen
