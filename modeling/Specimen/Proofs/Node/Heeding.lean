import Specimen.Proofs.Node.Looking
import Specimen.Proofs.Node.Upholding

/-!
# Rules that are heeded

An optional node hears the node that its rule names while it generates, and what it hears is fixed
for the rest of the pass. So if it keeps null, this node answers with no text that is present
(`Scope.Heeds`), provided that the child, when it is not left out, has a text.

A constant or a field has one unless it was asked for null before in the same pass; and if the child
belongs to the optional node alone, nobody but this one asks it (`Scope.heeds_upheldBy`).
-/

namespace Specimen

open Evaluation

/-- A constant or a field that is free and keeps nothing has a text. -/
theorem Node.value_ne_none {s : Scope} {fuel : Nat} {n : Node} {m m' : Memory} {v : Option String}
    (h_leaf : n.kind.isLeaf = true) (h_free : (m.cell n.key).override = none)
    (h_cache : (m.cell n.key).cache = none) (h_value : n.value s fuel .normal m = (.ok v, m')) :
    v ≠ none := by
  cases fuel with
  | zero => cases h_value
  | succ fuel =>
    have h_text : ∀ {m m' v},
        s.Generates (fun n c m v m' => n.value s fuel c m = (.ok v, m')) n .normal m v m' →
          v ≠ none := by
      intro m m' v h_generates
      cases h_generates with
      | constant _ _ _ | field _ _ _ => exact Option.some_ne_none _
      | combined h _ | optionalDecided h _ _ _ | optionalExplicit h _ _ _ _ | source h _ _ =>
        rw [h] at h_leaf
        cases h_leaf
    cases Node.answers_of_value h_value with
    | overridden h_some => cases h_free.symm.trans h_some
    | remembered _ _ h_some => cases h_cache.symm.trans h_some
    | stateless _ _ h_computes =>
      obtain ⟨-, h_generates⟩ := h_computes
      exact h_text h_generates
    | computed _ _ _ h_computes =>
      obtain ⟨-, h_generates⟩ := h_computes
      exact h_text h_generates

namespace Scope

variable {s : Scope} {Member : Node → Prop} {k e n : Node} {t : String} {m m' : Memory}
  {v : Option String}

/-- An answer is a text that is present. -/
def Answered (v : Option String) : Bool := (v.map Text.isPresent).getD false

/-- If the node keeps null, the one that the rule names has a fixed answer that is no text that is
present; and as long as the node keeps nothing, its child does not. -/
structure Heeds (s : Scope) (k e : Node) (t : String) (m : Memory) : Prop where
  absent : (m.cell k.key).cache = some none → ∃ n hops v, s.nodes.get? t = some n ∧
    s.Fixed m hops n .normal v ∧ Answered v = false
  untouched : (m.cell k.key).cache = none → (m.cell e.key).cache = none
  free : (m.cell e.key).override = none

theorem heeds_concerns : Memory.Concerns (fun n => n = k ∨ n = e) (s.Heeds k e t) := by
  intro m m' h_persists h_cache h
  refine ⟨fun h_null => ?_, fun h_none => ?_, (h_persists.override _).trans h.free⟩
  · obtain ⟨n, hops, v, h_get, h_fixed, h_absent⟩ := h.absent (h_cache k (.inl rfl) ▸ h_null)
    exact ⟨n, hops, v, h_get, h_fixed.persists h_persists, h_absent⟩
  · rw [h_cache e (.inr rfl)]
    exact h.untouched (h_cache k (.inl rfl) ▸ h_none)

/-- If the rule does not ask for the child, the node that it names has answered so. -/
theorem Rules.exists_absent {R : Asking} {mandatory : Bool}
    (h : s.Rules R (.whenPresent t) m mandatory m') (h_mandatory : mandatory = false) :
    ∃ n v, s.nodes.get? t = some n ∧ R n .normal m v m' ∧ Answered v = false := by
  cases h with
  | ignoring _ => cases h_mandatory
  | whenPresent _ h_get h_ask => exact ⟨_, _, h_get, h_ask, h_mandatory⟩

/-- If the child is left out, the rule did not ask for it, and then only the choice went on. -/
theorem Decides.exists_absent {R : Asking} {key : Nat} {present : Bool}
    (h : s.Decides R key (.whenPresent t) m present m') (h_present : present = false) :
    ∃ n v m₁, s.nodes.get? t = some n ∧ R n .normal m v m₁ ∧ Answered v = false ∧
      m₁.GoesOn m' := by
  cases h with
  | mandatory _ => cases h_present
  | @chosen m₁ _ choice draws h_rule _ =>
    obtain ⟨n, v, h_get, h_ask, h_absent⟩ := h_rule.exists_absent rfl
    have h_noted : m₁.GoesOn (m₁.update key (Cell.decide false)) :=
      (Memory.GoesOn.refl m₁).update (fun _ => ⟨rfl, rfl, rfl⟩) fun _ => rfl
    exact ⟨n, v, m₁, h_get, h_ask, h_absent,
      (h_noted.withDraws draws).update (fun _ => ⟨rfl, rfl, rfl⟩) fun _ => rfl⟩

/-- **The evaluation.** If the rule does not ask for the child, what the named node has answered is
fixed; and if the child is generated, it has a text. -/
theorem heeds_upheldBy (h_closed : s.Closed Member) (h_k : Member k)
    (h_kind : k.kind = .optional (.embedded e) (.whenPresent t)) (h_leaf : e.kind.isLeaf = true)
    (h_named : s.nodes.get? t ≠ some e) :
    s.UpheldBy Member k (· = e) .normal (s.Heeds k e t) := by
  intro fuel st token m m' v h_ask h_m h_generates
  obtain ⟨h_stack, h_persists⟩ := h_m.stack.generates h_generates
  have h_kept := Memory.Persists.kept h_stack.mustCompute .normal v
  have h_cache : (((m'.update k.key Cell.release).kept k .normal v).cell k.key).cache = some v := by
    rw [Memory.cell_kept_self.2, h_kind]
    rfl
  have h_free := ((h_persists.trans h_kept).override e.key).trans h_m.fact.free
  refine ⟨fun h_null => ?_,
    fun h_none => absurd (h_cache.symm.trans h_none) (Option.some_ne_none v), h_free⟩
  have h_v : v = none := Option.some.inj (h_cache.symm.trans h_null)
  -- the rule asks the node that it names, which is not the child
  have h_rule : ∀ {n : Node} {m m' : Memory} {v : Option String}, s.nodes.get? t = some n →
      n.value s fuel .normal m = (.ok v, m') →
        Holds (s.Heeds k e t) (⟨k, .normal, token, .begun⟩ :: st) m →
          Holds (s.Heeds k e t) (⟨k, .normal, token, .begun⟩ :: st) m' := by
    intro n m m' v h_get h_value h
    have h_asks : s.Asks k .normal n .normal := .rule h_kind h_get
    exact h_ask (h_closed k n h_k h_asks.calls) (fun h_e => h_named (h_e ▸ h_get)) (.inl rfl) h
      h_value
  cases h_generates with
  | @optionalDecided child rule _ child' present m₁ _ _ h_optional h_target h_decides h_child =>
    cases h_kind.symm.trans h_optional
    obtain rfl : e = child' := Option.some.inj h_target
    cases present with
    | true =>
      -- a child that is generated has kept nothing before, so it has a text
      have h_m₁ : Holds (s.Heeds k e t) (⟨k, .normal, token, .begun⟩ :: st) m₁ := by
        refine h_decides.keeps (fun _ _ h_on h => h.goesOn heeds_concerns h_on) ?_ h_m
        rintro id h_id n m v m' h_get h_value h
        cases h_id
        exact h_rule h_get h_value h
      have h_empty := h_m₁.fact.untouched (h_m₁.stack.mustCompute.2 (by rw [h_kind]; rfl))
      exact absurd h_v (Node.value_ne_none h_leaf h_m₁.fact.free h_empty h_child)
    | false =>
      obtain ⟨n, w, m₂, h_get, h_value, h_absent, h_on⟩ := h_decides.exists_absent rfl
      obtain ⟨hops, h_fixed⟩ := h_m.stack.fixed h_m.constant h_value
      -- noting the decision, going on with the choice and asking the child loses nothing
      have h_m₁ := (h_rule h_get h_value h_m).stack.goesOn h_on
      have h_last := (Memory.KeepsSame.goesOn h_on).persists.trans (h_m₁.value h_child).2
      exact ⟨n, hops, w, h_get, h_fixed.persists (h_last.trans h_kept), h_absent⟩
  | optionalExplicit _ _ h_normal _ _ => exact absurd rfl h_normal
  | constant h | field h | combined h | source h => cases h_kind.symm.trans h

end Scope

end Specimen
