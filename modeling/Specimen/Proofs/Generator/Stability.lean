import Specimen.Proofs.Generator.Session
import Specimen.Proofs.Node.Stability

/-!
# Answers are stable within a pass

Between two resets values are asked for, in any order and for any cases, and some of the requests
may fail. Whatever a request has answered it answers again until the next reset, and every node that
keeps its value generates it once (`Generator.Session.stable`).
-/

namespace Specimen

namespace Generator

/-- The memory after requests for values, whether they are answered or fail. -/
def afterValues (g : Generator) : List (String × FieldCase) → Memory → Memory
  | [], m => m
  | (id, c) :: requests, m => g.afterValues requests (g.value id c m).2

variable {g : Generator} {a b : Activity} {m m' : Memory}

/-- Any number of steps of evaluations, one after the other. -/
abbrev WithinPass (g : Generator) : Activity → Activity → Prop := Relation.ReflTransGen g.Evaluates

/-- Since a memory nothing that was kept has been lost, and what is generating keeps nothing yet. -/
structure KeptSince (g : Generator) (m : Memory) (a : Activity) : Prop where
  sound : a.Sound g
  persists : m.Persists a.memory
  fresh : ∀ x, a = .evaluating x → x.Fresh

theorem KeptSince.start (h_quiet : m.Quiet) : g.KeptSince m (.resting m) :=
  ⟨h_quiet, .refl m, nofun⟩

/-- **One step.** -/
theorem KeptSince.step (h : g.KeptSince m a) (h_step : g.Evaluates a b) : g.KeptSince m b := by
  have h_sound := h.sound.act (.evaluates h_step)
  cases h_step with
  | ask _ =>
    refine ⟨h_sound, h.persists, ?_⟩
    rintro x ⟨⟩
    exact fun fr h_fr => absurd h_fr List.not_mem_nil
  | step h_step =>
    obtain ⟨h_fresh, h_persists⟩ := (h.fresh _ rfl).step h.sound.1 h_step
    refine ⟨h_sound, h.persists.trans h_persists, ?_⟩
    rintro x ⟨⟩
    exact h_fresh
  | answered | failed => exact ⟨h_sound, h.persists, nofun⟩

/-- **All steps.** -/
theorem KeptSince.steps (h : g.KeptSince m a) (h_steps : g.WithinPass a b) : g.KeptSince m b := by
  induction h_steps with
  | refl => exact h
  | tail _ h_step ih => exact ih.step h_step

/-- A node has no override and keeps a value, and is not generating. -/
structure Keeps (n : Node) (w : Option String) (a : Activity) : Prop where
  override : (a.memory.cell n.key).override = none
  cache : (a.memory.cell n.key).cache = some w
  off : ∀ fr ∈ a.computing, fr.node ≠ n

/-- **A node that keeps a value does not generate again** in the pass. -/
theorem Keeps.step {n : Node} {w : Option String} (h_kind : n.kind.isStateless = false)
    (h : Keeps n w a) (h_since : g.KeptSince m a) (h_step : g.Evaluates a b) : Keeps n w b := by
  have h_persists := (h_since.step h_step).persists
  cases h_step with
  | ask _ => exact ⟨h.override, h.cache, nofun⟩
  | step h_step =>
    have h_fresh := (h_since.fresh _ rfl).step h_since.sound.1 h_step
    have h_next := Evaluation.Keeps.step h_kind ⟨h.override, h.cache, h.off⟩ h_fresh.2 h_step
    exact ⟨h_next.override, h_next.cache, h_next.off⟩
  | answered | failed => exact ⟨h.override, h.cache, nofun⟩

theorem Keeps.steps {n : Node} {w : Option String} (h_kind : n.kind.isStateless = false)
    (h : Keeps n w a) (h_since : g.KeptSince m a) (h_steps : g.WithinPass a b) : Keeps n w b := by
  induction h_steps with
  | refl => exact h
  | tail h_before h_step ih => exact ih.step h_kind (h_since.steps h_before) h_step

namespace Session

/-- Requests for values go on within the pass. -/
theorem value_withinPass (h : g.Session m) (id : String) (c : FieldCase) :
    g.WithinPass (.resting m) (.resting (g.value id c m).2) := by
  obtain ⟨h_graph, h_quiet⟩ := h.coherent_quiet
  exact Ends.state ((Runs.value h_graph id c m h_quiet).mono (fun _ _ => Returns.steps)
    fun _ _ h_bad => h_bad.2.steps)

theorem value (h : g.Session m) (id : String) (c : FieldCase) : g.Session (g.value id c m).2 := by
  refine h.act ?_
  exact Relation.ReflTransGen.mono (fun _ _ => .evaluates) _ _ (h.value_withinPass id c)

theorem afterValues (h : g.Session m) (requests : List (String × FieldCase)) :
    g.Session (g.afterValues requests m) ∧
      g.WithinPass (.resting m) (.resting (g.afterValues requests m)) := by
  induction requests generalizing m with
  | nil => exact ⟨h, .refl⟩
  | cons r requests ih =>
    obtain ⟨id, c⟩ := r
    have h_rest := ih (h.value id c)
    exact ⟨h_rest.1, (h.value_withinPass id c).trans h_rest.2⟩

/-- An answer is fixed when it is given. -/
theorem fixed_of_value (h : g.Session m) (h_constant : m.ConstantOverrides) {n : Node}
    {c : FieldCase}
    {r : Option String} (h_value : g.nodeValue n c m = (.ok r, m')) :
    ∃ hops, hops < g.fuel ∧ g.scope.Fixed m' hops n c r := by
  obtain ⟨-, h_quiet⟩ := h.coherent_quiet
  have h_guarded : Evaluation.Guarded ⟨[], .ask n c, m⟩ := .start h_quiet _
  have h_fresh : Evaluation.Fresh ⟨[], .ask n c, m⟩ := fun fr h_fr => absurd h_fr List.not_mem_nil
  exact Node.value_fixes h_guarded h_fresh h_constant h_value

/-- A fixed answer is given whenever it is asked for. -/
theorem value_of_fixed (h : g.Session m) {id : String} {n : Node}
    (h_get : g.graph.nodes.get? id = some n)
    {c : FieldCase} {r : Option String} {hops : Nat} (h_hops : hops < g.fuel)
    (h_fixed : g.scope.Fixed m hops n c r) : (g.value id c m).1 = .ok r := by
  obtain ⟨h_graph, h_quiet⟩ := h.coherent_quiet
  have h_ends : Ends (g.nodeValue n c) m (fun v _ => v = r) fun _ _ => False :=
    h_fixed.ends_value g.scope_closed
      (fun n n' h_n h_n' => h_graph.eq_of_key_eq n n' (.inl h_n) (.inl h_n'))
      ⟨id, n, h_get, n.inside_self⟩ h_hops fun _ _ _ _ _ => (h_quiet _).1
  rw [Generator.value, find_eq h_get, pure_bind]
  obtain ⟨v, h_eq, rfl⟩ := h_ends.exists_ok
  rw [h_eq]

/-- **Stability.** Take any graph of nodes and any point of a session with it, and let values be
asked for in any order.

What a request has answered it answers again, if overrides always yield the same. Requests go in
steps of evaluations; and if at some step a field, a combination or an optional node has generated a
value, then at all later points it keeps what came of it, does not generate again, and makes all its
answers of what it keeps without changing anything, so without a token and without a draw. -/
theorem stable (h : g.Session m) (h_constant : m.ConstantOverrides) :
    (∀ id c r m', g.value id c m = (.ok r, m') →
      ∀ later, (g.value id c (g.afterValues later m')).1 = .ok r) ∧
    (∀ requests, g.WithinPass (.resting m) (.resting (g.afterValues requests m))) ∧
    ∀ fr st v k, g.WithinPass (.resting m) (.evaluating ⟨fr :: st, .generated v, k⟩) →
      fr.node.kind.isStateless = false →
      ∀ b, g.WithinPass (.evaluating ⟨st, .answer (derive fr.asked v),
          (k.update fr.node.key Cell.release).kept fr.node fr.asked v⟩) b →
        (b.memory.cell fr.node.key).cache = some (derive fr.asked v) ∧
        (∀ fr' ∈ b.computing, fr'.node ≠ fr.node) ∧
        ∀ fuel c, fr.node.value g.scope (fuel + 1) c b.memory =
          (.ok (derive c (derive fr.asked v)), b.memory) := by
  obtain ⟨h_graph, h_quiet⟩ := h.coherent_quiet
  have h_start : g.KeptSince m (.resting m) := .start h_quiet
  refine ⟨fun id c r m' h_value later => ?_, fun requests => (h.afterValues requests).2, ?_⟩
  · cases h_get : g.graph.nodes.get? id with
    | none =>
      rw [Generator.value, find_unknown h_get] at h_value
      cases h_value
    | some n =>
      -- the answer is fixed when it is given, and stays so through the later requests
      have h_node : g.nodeValue n c m = (.ok r, m') := by
        rwa [Generator.value, find_eq h_get, pure_bind] at h_value
      obtain ⟨hops, h_hops, h_fixed⟩ := h.fixed_of_value h_constant h_node
      have h_then : g.Session m' := by
        have h_after := h.value id c
        rwa [h_value] at h_after
      have h_later := h_then.afterValues later
      have h_persists := ((KeptSince.start h_then.coherent_quiet.2).steps h_later.2).persists
      exact h_later.1.value_of_fixed h_get h_hops (h_fixed.persists h_persists)
  · intro fr st v k h_generated h_kind b h_after
    -- the node finishes with its value, and from then on it keeps it
    have h_since := h_start.steps h_generated
    have h_keeps := Evaluation.Keeps.finish h_kind (h_since.fresh _ rfl) h_since.sound.1
      (.answer (derive fr.asked v))
    have h_finish : g.Evaluates (.evaluating ⟨fr :: st, .generated v, k⟩)
        (.evaluating ⟨st, .answer (derive fr.asked v),
          (k.update fr.node.key Cell.release).kept fr.node fr.asked v⟩) := by
      have h_answer : fr.node.answerOf fr.asked v = derive fr.asked v :=
        if_neg (by rw [h_kind]; exact Bool.false_ne_true)
      exact h_answer ▸ .step .finish
    have h_then : Keeps fr.node (derive fr.asked v) (.evaluating _) :=
      ⟨h_keeps.override, h_keeps.cache, h_keeps.off⟩
    have h_kept := h_then.steps h_kind (h_since.step h_finish) h_after
    refine ⟨h_kept.cache, h_kept.off, fun fuel c => ?_⟩
    have h_ends : Ends (fr.node.value g.scope (fuel + 1) c) b.memory
        (fun w m' => w = derive c (derive fr.asked v) ∧ m' = b.memory) fun _ _ => False :=
      (Node.ends_value_kept h_kept.override h_kind h_kept.cache).2 ⟨rfl, rfl⟩
    obtain ⟨w, h_eq, rfl, h_memory⟩ := h_ends.exists_ok
    rw [h_eq, h_memory]

end Session

/-- A number, and a node whose source it is. -/
def numberAndSource : Generator :=
  ((empty {} 0).afterBuild (Graph.build none (.mk (some "number") none (.field (.number 0 2)))))
    |>.afterBuild (Graph.build none (.mk (some "copy") none (.source (.reference "number"))))

/-- The copy answers what it has answered, whatever the number and the copy are asked for then. -/
theorem Session.stable_numberAndSource :
    numberAndSource.Session (numberAndSource.freshMemory.withDraws default) ∧
    (numberAndSource.freshMemory.withDraws default).ConstantOverrides ∧
    (numberAndSource.value "copy" .max (numberAndSource.freshMemory.withDraws default)).1 =
      .ok (some "2") ∧
    ∀ later, (numberAndSource.value "copy" .max (numberAndSource.afterValues later
      (numberAndSource.value "copy" .max (numberAndSource.freshMemory.withDraws default)).2)).1 =
        .ok (some "2") := by
  have h_session : numberAndSource.Session (numberAndSource.freshMemory.withDraws default) :=
    ((Session.empty {} 0 default).build none _).build none _
  have h_constant : (numberAndSource.freshMemory.withDraws default).ConstantOverrides := by
    intro key values h_values
    cases h_values
  have h_first : (numberAndSource.value "copy" .max
      (numberAndSource.freshMemory.withDraws default)).1 = .ok (some "2") := by rfl
  refine ⟨h_session, h_constant, h_first, fun later => ?_⟩
  exact (Session.stable h_session h_constant).1 "copy" .max (some "2") _ (Prod.ext h_first rfl)
    later

end Generator

end Specimen
