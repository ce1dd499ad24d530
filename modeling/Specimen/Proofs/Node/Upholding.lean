import Specimen.Proofs.Node.Nesting

/-!
# What one node upholds through a pass

In a pass for a case every request is for this case, or else for null. Requests for null begin at
optional nodes that leave out their child, and are passed on along links; so a node that no link
leads to is asked for the case of the pass only, whoever asks it, and what it keeps comes of one
evaluation.

A fact about what such a node keeps, and about what those nodes keep that only it asks
(`Scope.Secluded`), is therefore upheld by all requests of the pass if this one evaluation upholds
it (`Scope.upholds`). All other nodes leave these cells alone.
-/

namespace Specimen

open Evaluation

/-- A fact concerns what some nodes keep: it stays so while they keep the same and nothing that
others keep is lost. -/
def Memory.Concerns (Of : Node → Prop) (I : Memory → Prop) : Prop :=
  ∀ m m', m.Persists m' → (∀ n, Of n → (m'.cell n.key).cache = (m.cell n.key).cache) → I m → I m'

theorem Memory.Concerns.keepsSame {Of : Node → Prop} {I : Memory → Prop}
    (h : Memory.Concerns Of I) {m m' : Memory} (h_same : m.KeepsSame m') (h_m : I m) : I m' :=
  h m m' h_same.persists (fun n _ => h_same.cache n.key) h_m

/-- While a node generates, the stack stays and nothing that is kept is lost. -/
theorem Memory.HasStack.generates {s : Scope} {st : List Frame} {fuel : Nat} {n : Node}
    {c : FieldCase} {m m' : Memory} {v : Option String} (h : m.HasStack st)
    (h_generates : s.Generates (fun n c m v m' => n.value s fuel c m = (.ok v, m')) n c m v m') :
    m'.HasStack st ∧ m.Persists m' := by
  refine h_generates.keeps (I := fun k => k.HasStack st ∧ m.Persists k) ?_ ?_ ⟨h, .refl _⟩
  · rintro k k' h_on ⟨h_stack, h_persists⟩
    exact ⟨h_stack.goesOn h_on, h_persists.trans (Memory.KeepsSame.goesOn h_on).persists⟩
  · rintro n' c' k w k' - h_value ⟨h_stack, h_persists⟩
    obtain ⟨h_stack', h_persists'⟩ := h_stack.value h_value
    exact ⟨h_stack', h_persists.trans h_persists'⟩

/-- A request in a pass for a case: it is for this case, or for null but not of the node. -/
def Node.AskedIn (n k : Node) (c c' : FieldCase) : Prop := c' = c ∨ c' = .null ∧ n ≠ k

/-- A value is generated for the case that was asked for. -/
theorem Node.AskedIn.computed {n k : Node} {c c' : FieldCase} (h : n.AskedIn k c c')
    (h_c : c ≠ .blank) : c'.computed = c' := by
  have h_blank : c' ≠ .blank := by
    rintro rfl
    rcases h with h_eq | ⟨h_null, -⟩
    · exact h_c h_eq.symm
    · cases h_null
  cases c' with
  | blank => exact absurd rfl h_blank
  | _ => rfl

namespace Scope

variable {s : Scope} {Member Own : Node → Prop} {I : Memory → Prop} {k n n' : Node}
  {c c' c'' : FieldCase} {m m' : Memory} {w : Option String} {st : List Frame}

/-- If no link leads to the node, what is asked on a request of a pass is such a request again. -/
theorem Asks.askedIn (h : s.Asks n c' n' c'')
    (h_unlinked : ∀ link ∈ n.kind.links, s.target? link ≠ some k) (h_asked : n.AskedIn k c c') :
    n'.AskedIn k c c'' := by
  have h_ne : ∀ link ∈ n.kind.links, s.target? link = some n' → n' ≠ k := by
    rintro link h_link h_target rfl
    exact h_unlinked link h_link h_target
  cases h with
  | link h_link h_target => exact h_asked.imp_right fun h_null => ⟨h_null.1, h_ne _ h_link h_target⟩
  | absent h_kind h_target =>
    exact .inr ⟨rfl, h_ne _ (h_kind ▸ List.mem_singleton_self _) h_target⟩
  | rule _ _ =>
    rcases h_asked with h_c | ⟨h_null, -⟩
    · exact .inl h_c
    · cases h_null

/-- A node that keeps values is secluded, with some nodes of its own: no link leads to it, and
nobody else calls these. -/
structure Secluded (s : Scope) (Member : Node → Prop) (k : Node) (Own : Node → Prop) : Prop where
  member : Member k
  stateful : k.kind.isStateless = false
  unlinked : ∀ n, Member n → ∀ link ∈ n.kind.links, s.target? link ≠ some k
  own_member : ∀ n, Own n → Member n
  caller : ∀ n n', Member n → s.Calls n n' → Own n' → n = k

/-- A fact holds in a memory that goes with a stack. -/
structure Holds (I : Memory → Prop) (st : List Frame) (m : Memory) : Prop where
  stack : m.HasStack st
  constant : m.ConstantOverrides
  fact : I m

theorem Holds.keepsSame {Of : Node → Prop} (h : Holds I st m) (h_concerns : Memory.Concerns Of I)
    (h_same : m.KeepsSame m') {st' : List Frame} (h_stack : m'.HasStack st') : Holds I st' m' :=
  ⟨h_stack, h.constant.persists h_same.persists, h_concerns.keepsSame h_same h.fact⟩

theorem Holds.goesOn {Of : Node → Prop} (h : Holds I st m) (h_concerns : Memory.Concerns Of I)
    (h_on : m.GoesOn m') : Holds I st m' :=
  h.keepsSame h_concerns (.goesOn h_on) (h.stack.goesOn h_on)

/-- Requests of a pass for a case uphold a fact, with an amount of fuel. Those to the own nodes of
the secluded one do not count, as it has to be looked at as a whole. -/
def Upholds (s : Scope) (Member : Node → Prop) (k : Node) (Own : Node → Prop) (c : FieldCase)
    (I : Memory → Prop) (fuel : Nat) : Prop :=
  ∀ {st : List Frame} {n : Node} {c' : FieldCase} {m m' : Memory} {v : Option String},
    Member n → ¬ Own n → n.AskedIn k c c' → Holds I st m →
      n.value s fuel c' m = (.ok v, m') → Holds I st m'

/-- One evaluation of the secluded node upholds a fact, if the other nodes that it asks do. -/
def UpheldBy (s : Scope) (Member : Node → Prop) (k : Node) (Own : Node → Prop) (c : FieldCase)
    (I : Memory → Prop) : Prop :=
  ∀ {fuel : Nat} {st : List Frame} {token : Nat} {m m' : Memory} {v : Option String},
    s.Upholds Member k Own c I fuel → Holds I (⟨k, c, token, .begun⟩ :: st) m →
      s.Generates (fun n c m v m' => n.value s fuel c m = (.ok v, m')) k c m v m' →
        I ((m'.update k.key Cell.release).kept k c v)

section Pass

variable (h_closed : s.Closed Member)
  (h_apart : ∀ n n', Member n → Member n' → n.key = n'.key → n = n')
  (h_secluded : s.Secluded Member k Own)
  (h_concerns : Memory.Concerns (fun n => n = k ∨ Own n) I) (h_c : c ≠ .blank)
include h_apart h_secluded h_concerns

/-- What another node makes of the value that it has generated is of no concern. -/
theorem Holds.kept_of_ne {fr : Frame} (h : Holds I (fr :: st) m) (h_n : Member fr.node)
    (h_ne : fr.node ≠ k) (h_own : ¬ Own fr.node) :
    I ((m.update fr.node.key Cell.release).kept fr.node fr.asked w) := by
  refine h_concerns m _ (.kept h.stack.mustCompute fr.asked w) (fun n h_of => ?_) h.fact
  -- nodes are told apart by their keys
  have h_member : Member n := by
    rcases h_of with rfl | h_of
    · exact h_secluded.member
    · exact h_secluded.own_member n h_of
  have h_key : n.key ≠ fr.node.key := by
    intro h_key
    obtain rfl := h_apart n fr.node h_member h_n h_key
    exact h_of.elim h_ne h_own
  rw [Memory.cell_kept_of_ne h_key]

variable (h_upheld : s.UpheldBy Member k Own c I)
include h_closed h_c h_upheld

/-- **One value.** The fact holds of what a node makes of the value that it has generated. -/
theorem Upholds.kept {fuel : Nat} (h_ask : s.Upholds Member k Own c I fuel) (h_n : Member n)
    (h_own : ¬ Own n) (h_asked : n.AskedIn k c c') (h_m : Holds I st m) (h_must : n.MustCompute m)
    (h_token : ∀ held, (m.cell n.key).token = some held → m.tokens ≤ held)
    (h_generates : s.Generates (fun n c m v m' => n.value s fuel c m = (.ok v, m')) n c'
      (m.begun n.key n.identity c') w m') :
    I ((m'.update n.key Cell.release).kept n c' w) := by
  -- while the node generates it is on the stack
  have h_begun : Holds I (⟨n, c', m.tokens, .begun⟩ :: st) (m.begun n.key n.identity c') := by
    have h_stack := h_m.stack.begun (c := c') h_must h_token
    rw [Node.computedCase, h_asked.computed h_c, ite_self] at h_stack
    exact h_m.keepsSame h_concerns (.begun m n.key n.identity c') h_stack
  by_cases h_k : n = k
  · subst h_k
    -- nobody asks the secluded node for null
    obtain rfl : c' = c := h_asked.resolve_right fun h_null => h_null.2 rfl
    exact h_upheld h_ask h_begun h_generates
  · have h_m' : Holds I (⟨n, c', m.tokens, .begun⟩ :: st) m' := by
      refine h_generates.keeps (fun _ _ h_on h => h.goesOn h_concerns h_on) ?_ h_begun
      intro n' c'' m v m' h_asks h_value h
      refine h_ask (h_closed n n' h_n h_asks.calls) (fun h_own' => ?_)
        (h_asks.askedIn (h_secluded.unlinked n h_n) h_asked) h h_value
      exact h_k (h_secluded.caller n n' h_n h_asks.calls h_own')
    exact h_m'.kept_of_ne h_apart h_secluded h_concerns h_n h_k h_own

/-- **A fact is upheld** through a pass if the evaluation of the secluded node upholds it. -/
theorem upholds (fuel : Nat) : s.Upholds Member k Own c I fuel := by
  induction fuel with
  | zero =>
    intro st n c' m m' v _ _ _ _ h_value
    cases h_value
  | succ fuel ih =>
    intro st n c' m m' v h_n h_own h_asked h_m h_value
    obtain ⟨h_stack, h_persists⟩ := h_m.stack.value h_value
    refine ⟨h_stack, h_m.constant.persists h_persists, ?_⟩
    -- only a node that computes can change what is kept
    cases Node.answers_of_value h_value with
    | overridden _ =>
      exact h_concerns.keepsSame (.update m n.key Cell.use fun _ => ⟨rfl, rfl⟩) h_m.fact
    | remembered _ _ _ => exact h_m.fact
    | stateless h_free h_stateless h_computes =>
      obtain ⟨h_token, h_generates⟩ := h_computes
      have h_must := (Node.mustCompute_iff_stateless h_stateless).2 h_free
      have h_fact := ih.kept h_closed h_apart h_secluded h_concerns h_c h_upheld h_n h_own h_asked
        h_m h_must h_token h_generates
      rwa [Memory.kept, if_pos h_stateless] at h_fact
    | computed h_free h_stateful h_cache h_computes =>
      rw [h_asked.computed h_c] at h_computes
      obtain ⟨h_token, h_generates⟩ := h_computes
      have h_fact := ih.kept h_closed h_apart h_secluded h_concerns h_c h_upheld h_n h_own h_asked
        h_m ⟨h_free, fun _ => h_cache⟩ h_token h_generates
      rwa [Memory.kept, if_neg (by simp [h_stateful])] at h_fact

end Pass

end Scope

end Specimen
