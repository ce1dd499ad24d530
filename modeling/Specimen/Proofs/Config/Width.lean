import Mathlib.Order.MinMax
import Specimen.Field
import Specimen.Proofs.Config.Place

/-!
# The width of a configuration

A constant has a single case, and a field has one for each of its boundaries; the other constraints
have none of their own. The width of a configuration is the greatest number of cases that one of its
constraints has (`Config.lt_width_iff`). References add nothing to it, as what they lead to is
declared somewhere.
-/

namespace Specimen.Config

/-- How many cases a constraint of a kind has of its own. -/
def Kind.ownWidth : Kind → Nat
  | .constant _ => 1
  | .field spec =>
    match Field.ofSpec spec with
    | .ok f => f.boundaries.length
    | .error _ => 0
  | .combined .. | .optional .. | .source _ => 0

mutual

/-- The greatest number of cases of a constraint and those embedded in it. -/
def Constraint.width : Constraint → Nat
  | .mk _ _ kind => max kind.ownWidth kind.partsWidth

/-- The greatest number of cases of the embedded parts of a constraint. -/
def Kind.partsWidth : Kind → Nat
  | .constant _ | .field _ => 0
  | .combined parts _ => Child.listWidth parts
  | .optional child _ | .source child => child.width

/-- The greatest number of cases of a part. -/
def Child.width : Child → Nat
  | .reference _ => 0
  | .embedded constraint => constraint.width

/-- The greatest number of cases of some parts. -/
def Child.listWidth : List Child → Nat
  | [] => 0
  | c :: cs => max c.width (Child.listWidth cs)

end

/-- The greatest number of cases of the constraints of a configuration. -/
def width (c : Config) : Nat := (c.constraints.map Constraint.width).foldr max 0

theorem lt_foldr_max_iff {i : Nat} {ns : List Nat} : i < ns.foldr max 0 ↔ ∃ n ∈ ns, i < n := by
  induction ns with
  | nil => simp
  | cons n ns ih => simp [ih]

theorem Child.lt_listWidth_iff {i : Nat} {cs : List Child} :
    i < Child.listWidth cs ↔ ∃ c ∈ cs, i < c.width := by
  induction cs with
  | nil => simp [Child.listWidth]
  | cons c cs ih => simp [Child.listWidth, ih]

theorem Kind.lt_partsWidth_iff {i : Nat} {k : Kind} :
    i < k.partsWidth ↔ ∃ c ∈ k.children, i < c.width := by
  cases k <;> simp [Kind.partsWidth, Kind.children, Child.lt_listWidth_iff]

/-- One step down in a constraint. -/
theorem Constraint.lt_width_cons {i : Nat} {x : Constraint} :
    i < x.width ↔ i < x.kind.ownWidth ∨ ∃ y, .embedded y ∈ x.children ∧ i < y.width := by
  obtain ⟨id, charset, kind⟩ := x
  rw [Constraint.width, lt_max_iff, Kind.lt_partsWidth_iff]
  refine or_congr Iff.rfl ⟨?_, fun ⟨y, h_y, h_lt⟩ => ⟨.embedded y, h_y, h_lt⟩⟩
  rintro ⟨_ | y, h_c, h_lt⟩
  · exact absurd h_lt (Nat.not_lt_zero _)
  · exact ⟨y, h_c, h_lt⟩

theorem Constraint.lt_width_iff {i : Nat} (x : Constraint) :
    i < x.width ↔ ∃ p y, x.at? p = some y ∧ i < y.kind.ownWidth := by
  -- a place is the constraint itself, or lies in one of its embedded parts
  induction x using Constraint.partInduction with
  | h x ih =>
    rw [Constraint.lt_width_cons]
    constructor
    · rintro (h_own | ⟨y, h_y, h_lt⟩)
      · exact ⟨[], x, x.at?_nil, h_own⟩
      · obtain ⟨p, z, h_z, h_lt⟩ := (ih y h_y).1 h_lt
        obtain ⟨j, h_j⟩ := List.getElem?_of_mem h_y
        exact ⟨j :: p, z, Constraint.at?_cons.2 ⟨y, h_j, h_z⟩, h_lt⟩
    · rintro ⟨_ | ⟨j, p⟩, z, h_z, h_lt⟩
      · rw [Constraint.at?_nil] at h_z
        exact .inl (Option.some.inj h_z ▸ h_lt)
      · obtain ⟨y, h_j, h_z⟩ := Constraint.at?_cons.1 h_z
        have h_y := List.mem_of_getElem? h_j
        exact .inr ⟨y, h_y, (ih y h_y).2 ⟨p, z, h_z, h_lt⟩⟩

/-- **The width is the greatest number of cases** that a constraint at some place has. -/
theorem lt_width_iff {c : Config} {i : Nat} :
    i < c.width ↔ ∃ p x, c.at? p = some x ∧ i < x.kind.ownWidth := by
  rw [width, lt_foldr_max_iff]
  constructor
  · rintro ⟨w, h_w, h_lt⟩
    obtain ⟨x, h_x, rfl⟩ := List.mem_map.1 h_w
    obtain ⟨p, y, h_y, h_lt⟩ := x.lt_width_iff.1 h_lt
    obtain ⟨j, h_j⟩ := List.getElem?_of_mem h_x
    exact ⟨j :: p, y, at?_cons.2 ⟨x, h_j, h_y⟩, h_lt⟩
  · rintro ⟨_ | ⟨j, p⟩, y, h_y, h_lt⟩
    · cases h_y
    · obtain ⟨x, h_j, h_y⟩ := at?_cons.1 h_y
      exact ⟨x.width, List.mem_map_of_mem (List.mem_of_getElem? h_j),
        x.lt_width_iff.2 ⟨p, y, h_y, h_lt⟩⟩

/-- Every optional constraint has to be there always. -/
def AllMandatory (c : Config) : Prop := ∀ p x child rule, c.at? p = some x →
  x.kind = .optional child rule → rule = .fixed true

end Specimen.Config
