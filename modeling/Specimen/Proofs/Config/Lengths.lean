import Mathlib.Algebra.Ring.Nat
import Specimen.Proofs.Config.Boundary
import Specimen.Proofs.Config.Skipping

/-!
# How long values are

In the middle of their ranges fields differ in what they draw, but not in the number of characters:
a text has the middle length, and the other fields that are not patterns have one text there. So
the constraints of a configuration without patterns have one length each, which constants, joining
and references pass on. `Config.Measures` is this recursion over the configuration.

As with texts at a boundary, the length is unique if every id is declared once
(`Measures.unique`), and does not depend on the order of declaration (`Measures.of_perm`).
-/

namespace Specimen

/-- Joined texts are as long as all of them together, and the separators between them. -/
theorem Text.length_intercalate (separator : String) (ts : List String) :
    (separator.intercalate ts).length =
      (ts.map String.length).sum + separator.length * (ts.length - 1) := by
  match ts with
  | [] => simp
  | [t] => simp
  | t :: u :: ts =>
    rw [String.intercalate_cons_cons, String.length_append, String.length_append,
      length_intercalate separator (u :: ts)]
    simp only [List.map_cons, List.sum_cons, List.length_cons, Nat.add_sub_cancel, Nat.mul_add_one]
    omega

/-- What a field other than a pattern shows at a boundary always has the same length. -/
theorem Field.Shows.length_eq {f : Field} {b : FieldCase} {t t' : String} (h : f.Shows b t)
    (h' : f.Shows b t') (h_pattern : ∀ plan, f ≠ .pattern plan) : t.length = t'.length := by
  cases f with
  | text _ _ _ => exact Int.ofNat.inj (Eq.trans h (Eq.symm h'))
  | pattern plan => exact absurd rfl (h_pattern plan)
  | number low high le => rw [Config.textAt_unique (f := number low high le) h h']
  | date first last le format => rw [Config.textAt_unique (f := date first last le format) h h']
  | choice values nonempty => rw [Config.textAt_unique (f := choice values nonempty) h h']

namespace Config

variable (c : Config)

/-- No field of the configuration is a pattern. -/
def PatternFree : Prop := ∀ p x expression maxRepeat, c.at? p = some x →
  x.kind ≠ .field (.pattern expression maxRepeat)

/-- The number of characters that a constraint of a kind has in the middle of the ranges. -/
inductive Measures : Kind → Nat → Prop where
  | constant {value} : Measures (.constant value) value.length
  | field {spec f t} (h_field : Field.ofSpec spec = .ok f) (h_pattern : ∀ plan, f ≠ .pattern plan)
    (h_text : f.Shows .standard t) : Measures (.field spec) t.length
  | combined {parts separator ys} {ns : List Nat} (h_targets : List.Forall₂ c.Target parts ys)
    (h_length : ys.length = ns.length)
    (h_parts : ∀ (i : Nat) y n, ys[i]? = some y → ns[i]? = some n → Measures y.kind n) :
    Measures (.combined parts separator) (ns.sum + separator.length * (ns.length - 1))
  | optional {child rule y n} (h_target : c.Target child y) (h_child : Measures y.kind n) :
    Measures (.optional child rule) n
  | source {child y n} (h_target : c.Target child y) (h_child : Measures y.kind n) :
    Measures (.source child) n

variable {c}

/-- What joins texts of the lengths of its parts has its own length. -/
theorem Measures.joined {parts : List Child} {separator : String} {ys : List Constraint}
    {ts : List String} (h_targets : List.Forall₂ c.Target parts ys)
    (h_length : ys.length = ts.length)
    (h_parts : ∀ (i : Nat) y t, ys[i]? = some y → ts[i]? = some t → c.Measures y.kind t.length) :
    c.Measures (.combined parts separator) (separator.intercalate ts).length := by
  rw [Text.length_intercalate, ← List.length_map String.length]
  refine .combined h_targets (by rw [List.length_map, h_length]) fun i y n h_y h_n => ?_
  rw [List.getElem?_map, Option.map_eq_some_iff] at h_n
  obtain ⟨t, h_t, rfl⟩ := h_n
  exact h_parts i y t h_y h_t

/-- **One length.** A constraint has at most one length in the middle of the ranges. -/
theorem Measures.unique (h_unique : ∀ p q id, c.Declares p id → c.Declares q id → p = q)
    {k : Kind} {n n' : Nat} (h : c.Measures k n) (h' : c.Measures k n') : n = n' := by
  induction h generalizing n' with
  | constant => cases h'; rfl
  | field h_field h_pattern h_text =>
    cases h' with
    | field h_field' _ h_text' =>
      obtain rfl := Except.ok.inj (h_field.symm.trans h_field')
      exact h_text.length_eq h_text' h_pattern
  | @combined parts separator ys ns h_targets h_length _ ih =>
    cases h' with
    | @combined _ _ ys' ns' h_targets' h_length' h_parts' =>
      obtain rfl := forall₂_target_unique h_unique h_targets h_targets'
      have h_lengths : ns = ns' := by
        refine List.ext_getElem (h_length.symm.trans h_length') fun i h_i h_i' => ?_
        have h_y : ys[i]? = some ys[i] := List.getElem?_eq_getElem (h_length ▸ h_i)
        exact ih i _ _ h_y (List.getElem?_eq_getElem h_i)
          (h_parts' i _ _ h_y (List.getElem?_eq_getElem h_i'))
      rw [h_lengths]
  | optional h_target _ ih =>
    cases h' with
    | optional h_target' h_child' =>
      obtain rfl := h_target.unique h_unique h_target'
      exact ih h_child'
  | source h_target _ ih =>
    cases h' with
    | source h_target' h_child' =>
      obtain rfl := h_target.unique h_unique h_target'
      exact ih h_child'

/-- A constraint of the top level has a length under its id. -/
def RootLength (c : Config) (id : String) (n : Nat) : Prop :=
  ∃ x ∈ c.constraints, x.id = some id ∧ c.Measures x.kind n

theorem RootLength.unique (h_unique : ∀ p q id, c.Declares p id → c.Declares q id → p = q)
    {id : String} {n n' : Nat} (h : c.RootLength id n) (h' : c.RootLength id n') : n = n' := by
  obtain ⟨x, h_x, h_id, h_measures⟩ := h
  obtain ⟨y, h_y, h_id', h_measures'⟩ := h'
  obtain rfl := eq_of_top_id h_unique h_x h_y h_id h_id'
  exact h_measures.unique h_unique h_measures'

/-! ### The order of declaration -/

section Perm

variable {d : Config} (h_perm : c.constraints.Perm d.constraints)
include h_perm

/-- **Order does not matter.** Lengths stay the same when the constraints are declared in another
order. -/
theorem Measures.of_perm {k : Kind} {n : Nat} (h : c.Measures k n) : d.Measures k n := by
  induction h with
  | constant => exact .constant
  | field h_field h_pattern h_text => exact .field h_field h_pattern h_text
  | combined h_targets h_length _ ih =>
    exact .combined (h_targets.imp fun _ _ h => h.of_perm h_perm) h_length ih
  | optional h_target _ ih => exact .optional (h_target.of_perm h_perm) ih
  | source h_target _ ih => exact .source (h_target.of_perm h_perm) ih

theorem RootLength.of_perm {id : String} {n : Nat} (h : c.RootLength id n) :
    d.RootLength id n := by
  obtain ⟨x, h_x, h_id, h_measures⟩ := h
  exact ⟨x, h_perm.mem_iff.1 h_x, h_id, h_measures.of_perm h_perm⟩

theorem FieldsRender.of_perm (h : c.FieldsRender) : d.FieldsRender := by
  intro p x spec f h_x
  exact forall_at?_of_perm h_perm (P := fun x => ∀ spec f, x.kind = .field spec →
    Field.ofSpec spec = .ok f → f.Renders) (fun p x h_x spec f => h p x spec f h_x) p x h_x spec f

theorem PatternFree.of_perm (h : c.PatternFree) : d.PatternFree := by
  intro p x expression maxRepeat h_x
  exact forall_at?_of_perm h_perm
    (P := fun x => ∀ expression maxRepeat, x.kind ≠ .field (.pattern expression maxRepeat))
    (fun p x h_x expression maxRepeat => h p x expression maxRepeat h_x) p x h_x expression
    maxRepeat

end Perm

end Config

end Specimen
