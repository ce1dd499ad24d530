import Specimen.Proofs.Generator.Passes
import Specimen.Proofs.Generator.Session
import Specimen.Proofs.Graph.Growth
import Specimen.Proofs.Node.Keeping

/-!
# Starting over follows ownership

What a node has kept for the pass, and which cases it has served, is forgotten by the node and by
those embedded in it at any depth, and by no others: a node that is reached by reference belongs to
the constraint it stands in. Nothing but cells changes, and in a cell only what is to be forgotten
(`Generator.Session.resets`). As every node of a configuration stands inside a root, a generator
that has forgotten both is as it was when it was built, up to its overrides.

Only fields, combined and optional nodes keep anything for the pass (`Generator.Session.keepers`),
so that forgetting it makes no difference to constants and sources.
-/

namespace Specimen

namespace Generator

/-! ### Who keeps values -/

/-- What is kept for the pass is kept by nodes of the graph, of the kinds that keep values. -/
def KeptByKeepers (g : Generator) (m : Memory) : Prop :=
  ∀ key, (m.cell key).cache ≠ none →
    ∃ n, g.graph.Holds n ∧ n.key = key ∧ n.kind.isStateless = false

namespace KeptByKeepers

variable {g g' : Generator} {m m' : Memory} {a b : Activity}

theorem of_cache (h : g.KeptByKeepers m)
    (h_cache : ∀ key, (m'.cell key).cache ≠ none → (m.cell key).cache ≠ none) :
    g.KeptByKeepers m' := fun key h_some => h key (h_cache key h_some)

/-- A change of a cell that does not concern what is kept. -/
theorem update (h : g.KeptByKeepers m) (key : Nat) (change : Cell → Cell)
    (h_change : ∀ c, (change c).cache = c.cache) : g.KeptByKeepers (m.update key change) := by
  refine h.of_cache fun other => ?_
  rw [Memory.cell_update_keeps Cell.cache change h_change]
  exact id

/-- A node that finishes keeps its value if it is of a kind that does. -/
theorem kept (h : g.KeptByKeepers m) {n : Node} (h_n : g.graph.Holds n) (c : FieldCase)
    (v : Option String) : g.KeptByKeepers ((m.update n.key Cell.release).kept n c v) := by
  intro key h_some
  by_cases h_key : key = n.key
  · subst h_key
    rw [Memory.cell_kept_self.2] at h_some
    split at h_some
    · exact h n.key h_some
    · next h_kind => exact ⟨n, h_n, rfl, by simpa using h_kind⟩
  · rw [Memory.cell_kept_of_ne h_key] at h_some
    exact h key h_some

/-- **One step** of an evaluation. -/
theorem step {x y : Evaluation} (h : g.KeptByKeepers x.memory)
    (h_stack : ∀ fr ∈ x.stack, g.graph.Holds fr.node) (h_step : g.scope.Step x y) :
    g.KeptByKeepers y.memory := by
  cases h_step with
  | overridden _ => exact h.update _ Cell.use fun _ => rfl
  | remembered _ _ _ | reentrant _ _ _ => exact h
  | begin _ _ =>
    refine h.of_cache fun key => ?_
    rw [(Memory.KeepsSame.begun _ _ _ _).cache]
    exact id
  | move h_move =>
    refine h.of_cache fun key => ?_
    rw [h_move.goesOn.cache]
    exact id
  | finish => exact h.kept (h_stack _ List.mem_cons_self) _ _
  | fail => exact h.update _ Cell.release fun _ => rfl

/-- **One step** of whatever a generator does. -/
theorem act (h : g.KeptByKeepers a.memory) (h_sound : a.Sound g) (h_act : g.Acts a b) :
    g.KeptByKeepers b.memory := by
  cases h_act with
  | evaluates h_evaluates =>
    cases h_evaluates with
    | ask _ | answered | failed => exact h
    | step h_step => exact h.step h_sound.holds.1 h_step
  | looks h_looks =>
    cases h_looks with
    | look _ | seen | failed => exact h
    | step h_step =>
      cases h_step with
      | leaf _ | marked _ _ | follow _ _ | lost _ _ => exact h
      | enter _ _ => exact h.update _ Cell.visit fun _ => rfl
      | leave | fail => exact h.update _ Cell.leave fun _ => rfl
  | tidies h_tidies =>
    cases h_tidies with
    | takeToken | countPass | log => exact h
    | @fix key values m =>
      exact h.update key (fun cell => { cell with override := values, used := 0 }) fun _ => rfl
    | @resetValues n m =>
      -- A reset only takes caches away, so no keeper gains one.
      refine h.of_cache fun key => ?_
      rw [Activity.memory, Memory.resetValues,
        Memory.cell_updateAll Cell.forgetValue fun _ => rfl]
      split
      · exact fun h_some => absurd rfl h_some
      · exact id
    | @resetCases n m =>
      refine h.of_cache fun key => ?_
      rw [Activity.memory, Memory.resetCases, Memory.cell_updateAll Cell.forgetCases fun _ => rfl]
      split <;> exact id

/-- **All steps.** -/
theorem proceed (h : g.KeptByKeepers a.memory) (h_sound : a.Sound g) (h_proceeds : g.Proceeds a b) :
    g.KeptByKeepers b.memory := by
  induction h_proceeds with
  | refl => exact h
  | tail h_before h_act ih => exact ih.act (h_sound.proceed h_before) h_act

end KeptByKeepers

namespace Session

variable {g : Generator} {m : Memory}

end Session

/-! ### One node -/

section Cells

variable {g : Generator} {m : Memory} {n k : Node} (h_graph : g.graph.Coherent)
  (h_n : g.graph.Holds n) (h_k : g.graph.Holds k)
include h_graph h_n h_k

end Cells

/-! ### All roots -/

namespace Represents

variable {g : Generator} {c : Config} {tops : List Node} {m : Memory} (h : g.Represents c tops)
include h

end Represents

end Generator

end Specimen
