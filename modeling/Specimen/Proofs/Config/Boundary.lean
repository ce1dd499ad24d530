import Specimen.Proofs.Config.WellFormed
import Specimen.Proofs.Field

/-!
# What a configuration means at a boundary

If every field is at the same end of its range, or in its middle, the constraints of a configuration
have one text each: constants and fields have theirs, combined constraints join those of their
parts, and the others have that of their child, as if it were always there. `Config.Evaluates` is
this recursion over the configuration, in which a reference stands for what is declared under its
id.

The text is unique if every id is declared once (`Evaluates.unique`), and does not depend on the
order in which the constraints are declared (`Evaluates.of_perm`).
-/

namespace Specimen.Config

variable (c : Config)

/-- A part stands for a constraint: the one that it embeds, or the one with the id that it refers
to. -/
inductive Target : Child → Constraint → Prop where
  | embedded {x} : Target (.embedded x) x
  | reference {id p x} (h : c.at? p = some x) (h_id : x.id = some id) : Target (.reference id) x

/-- What a constraint of a kind has for a text when all fields are at a boundary. -/
inductive Evaluates (b : FieldCase) : Kind → String → Prop where
  | constant {value} : Evaluates b (.constant value) value
  | field {spec f t} (h_field : Field.ofSpec spec = .ok f) (h_text : f.TextAt b t) :
    Evaluates b (.field spec) t
  | combined {parts separator ys ts} (h_targets : List.Forall₂ c.Target parts ys)
    (h_length : ys.length = ts.length)
    (h_parts : ∀ (i : Nat) y t, ys[i]? = some y → ts[i]? = some t → Evaluates b y.kind t) :
    Evaluates b (.combined parts separator) (separator.intercalate ts)
  | optional {child rule y t} (h_target : c.Target child y) (h_child : Evaluates b y.kind t) :
    Evaluates b (.optional child rule) t
  | source {child y t} (h_target : c.Target child y) (h_child : Evaluates b y.kind t) :
    Evaluates b (.source child) t

variable {c}

/-! ### The text is unique -/

theorem Target.unique (h_unique : ∀ p q id, c.Declares p id → c.Declares q id → p = q)
    {child : Child} {x y : Constraint} (h : c.Target child x) (h' : c.Target child y) : x = y := by
  cases h with
  | embedded => cases h'; rfl
  | @reference id p x h_x h_id =>
    cases h' with
    | @reference _ q y h_y h_id' =>
      obtain rfl := h_unique p q id ⟨x, h_x, h_id⟩ ⟨y, h_y, h_id'⟩
      exact Option.some.inj (h_x.symm.trans h_y)

theorem forall₂_target_unique (h_unique : ∀ p q id, c.Declares p id → c.Declares q id → p = q)
    {parts : List Child} {xs ys : List Constraint} (h : List.Forall₂ c.Target parts xs)
    (h' : List.Forall₂ c.Target parts ys) : xs = ys := by
  induction h generalizing ys with
  | nil => cases h'; rfl
  | cons h_head _ ih =>
    cases h' with
    | cons h_head' h_tail' => rw [h_head.unique h_unique h_head', ih h_tail']

theorem textAt_unique {f : Field} {b : FieldCase} {t t' : String} (h : f.TextAt b t)
    (h' : f.TextAt b t') : t = t' := by
  cases f with
  | text _ _ _ | pattern _ => exact h.elim
  | number _ _ _ => exact Eq.trans h (Eq.symm h')
  | date _ _ _ _ =>
    obtain ⟨day, h_day, h_t⟩ := h
    obtain ⟨day', h_day', h_t'⟩ := h'
    obtain rfl := Option.some.inj (h_day.symm.trans h_day')
    exact Option.some.inj (h_t.symm.trans h_t')
  | choice _ _ => exact Option.some.inj (Eq.trans (Eq.symm h) h')

/-- **One text.** A constraint has at most one text at a boundary. -/
theorem Evaluates.unique (h_unique : ∀ p q id, c.Declares p id → c.Declares q id → p = q)
    {b : FieldCase} {k : Kind} {t t' : String} (h : c.Evaluates b k t)
    (h' : c.Evaluates b k t') : t = t' := by
  induction h generalizing t' with
  | constant => cases h'; rfl
  | field h_field h_text =>
    cases h' with
    | field h_field' h_text' =>
      obtain rfl := Except.ok.inj (h_field.symm.trans h_field')
      exact textAt_unique h_text h_text'
  | @combined parts separator ys ts h_targets h_length h_parts ih =>
    cases h' with
    | @combined _ _ ys' ts' h_targets' h_length' h_parts' =>
      obtain rfl := forall₂_target_unique h_unique h_targets h_targets'
      have h_texts : ts = ts' := by
        refine List.ext_getElem (h_length.symm.trans h_length') fun i h_i h_i' => ?_
        have h_y : ys[i]? = some ys[i] := List.getElem?_eq_getElem (h_length ▸ h_i)
        exact ih i _ _ h_y (List.getElem?_eq_getElem h_i)
          (h_parts' i _ _ h_y (List.getElem?_eq_getElem h_i'))
      rw [h_texts]
  | optional h_target _ ih =>
    cases h' with
    | optional h_target' h_child' =>
      obtain rfl := h_target.unique h_unique h_target'
      exact ih h_child'
  | source h_target _ ih =>
    cases h' with
    | source h_target' h_child' =>
      obtain rfl := h_target.unique h_unique h_target'
      exact ih h_child'

/-- A constraint of the top level has a text under its id. -/
def RootText (c : Config) (b : FieldCase) (id t : String) : Prop :=
  ∃ x ∈ c.constraints, x.id = some id ∧ c.Evaluates b x.kind t

/-- Constraints of the top level with the same id are the same. -/
theorem eq_of_top_id (h_unique : ∀ p q id, c.Declares p id → c.Declares q id → p = q)
    {x y : Constraint} (h_x : x ∈ c.constraints) (h_y : y ∈ c.constraints) {id : String}
    (h_id : x.id = some id) (h_id' : y.id = some id) : x = y := by
  obtain ⟨i, h_i⟩ := List.getElem?_of_mem h_x
  obtain ⟨j, h_j⟩ := List.getElem?_of_mem h_y
  have h_at : c.at? [i] = some x := at?_cons.2 ⟨x, h_i, x.at?_nil⟩
  have h_at' : c.at? [j] = some y := at?_cons.2 ⟨y, h_j, y.at?_nil⟩
  rw [h_unique [i] [j] id ⟨x, h_at, h_id⟩ ⟨y, h_at', h_id'⟩] at h_at
  exact Option.some.inj (h_at.symm.trans h_at')

theorem RootText.unique (h_unique : ∀ p q id, c.Declares p id → c.Declares q id → p = q)
    {b : FieldCase} {id t t' : String} (h : c.RootText b id t) (h' : c.RootText b id t') :
    t = t' := by
  obtain ⟨x, h_x, h_id, h_evaluates⟩ := h
  obtain ⟨y, h_y, h_id', h_evaluates'⟩ := h'
  obtain rfl := eq_of_top_id h_unique h_x h_y h_id h_id'
  exact h_evaluates.unique h_unique h_evaluates'

/-! ### The order of declaration -/

theorem exists_at?_iff {x : Constraint} :
    (∃ p, c.at? p = some x) ↔ ∃ y ∈ c.constraints, ∃ p, y.at? p = some x := by
  constructor
  · rintro ⟨_ | ⟨i, p⟩, h⟩
    · cases h
    · obtain ⟨y, h_y, h_x⟩ := at?_cons.1 h
      exact ⟨y, List.mem_of_getElem? h_y, p, h_x⟩
  · rintro ⟨y, h_y, p, h_x⟩
    obtain ⟨i, h_i⟩ := List.getElem?_of_mem h_y
    exact ⟨i :: p, at?_cons.2 ⟨y, h_i, h_x⟩⟩

variable {d : Config} (h_perm : c.constraints.Perm d.constraints)
include h_perm

/-- What all constraints have in common does not depend on the order of declaration. -/
theorem forall_at?_of_perm {P : Constraint → Prop} (h : ∀ p x, c.at? p = some x → P x) (p : Place)
    (x : Constraint) (h_x : d.at? p = some x) : P x := by
  obtain ⟨y, h_y, h_inside⟩ := exists_at?_iff.1 ⟨p, h_x⟩
  obtain ⟨q, h_q⟩ := exists_at?_iff.2 ⟨y, h_perm.mem_iff.2 h_y, h_inside⟩
  exact h q x h_q

theorem Target.of_perm {child : Child} {x : Constraint} (h : c.Target child x) :
    d.Target child x := by
  cases h with
  | embedded => exact .embedded
  | @reference id p x h_x h_id =>
    obtain ⟨y, h_y, h_inside⟩ := exists_at?_iff.1 ⟨p, h_x⟩
    obtain ⟨q, h_q⟩ := exists_at?_iff.2 ⟨y, h_perm.mem_iff.1 h_y, h_inside⟩
    exact .reference h_q h_id

/-- **Order does not matter.** Texts stay the same when the constraints are declared in another
order. -/
theorem Evaluates.of_perm {b : FieldCase} {k : Kind} {t : String} (h : c.Evaluates b k t) :
    d.Evaluates b k t := by
  induction h with
  | constant => exact .constant
  | field h_field h_text => exact .field h_field h_text
  | combined h_targets h_length _ ih =>
    exact .combined (h_targets.imp fun _ _ h => h.of_perm h_perm) h_length ih
  | optional h_target _ ih => exact .optional (h_target.of_perm h_perm) ih
  | source h_target _ ih => exact .source (h_target.of_perm h_perm) ih

theorem RootText.of_perm {b : FieldCase} {id t : String} (h : c.RootText b id t) :
    d.RootText b id t := by
  obtain ⟨x, h_x, h_id, h_evaluates⟩ := h
  exact ⟨x, h_perm.mem_iff.1 h_x, h_id, h_evaluates.of_perm h_perm⟩

end Specimen.Config
