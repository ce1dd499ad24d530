import Specimen.Field
import Specimen.Proofs.Config.Place
import Specimen.Proofs.Field

/-!
# Skipped constraints

An optional constraint that is not generated has its child asked for null, and combined constraints
and sources pass this on to their parts (`Config.Nulls`). If two optional constraints can have the
same constraint asked for null, it may depend on the order of requests which of them decides whether
it is generated. `Config.Untangled` says that this order is always the same.
-/

namespace Specimen.Config

/-- A constraint of this kind keeps one value in a pass. -/
def Kind.KeepsValue : Kind → Prop
  | .constant _ | .source _ => False
  | .field _ | .combined .. | .optional .. => True

variable (c : Config)

/-- The constraint at a place has the one at another place as a part. -/
inductive HasPart : Place → Place → Prop where
  | embedding {p i x y} (h : c.at? p = some x) (h_part : x.children[i]? = some (.embedded y)) :
    HasPart p (p ++ [i])
  | reference {p q x y id} (h : c.at? p = some x) (h_ref : .reference id ∈ x.children)
    (h_at : c.at? q = some y) (h_id : y.id = some id) : HasPart p q

/-- A constraint is optional. -/
def IsOptional (p : Place) : Prop :=
  ∃ x child rule, c.at? p = some x ∧ x.kind = .optional child rule

/-- An optional constraint that is not generated has another constraint asked for null. -/
inductive Nulls (p : Place) : Place → Prop where
  | child {x child rule q} (h : c.at? p = some x) (h_kind : x.kind = .optional child rule)
    (h_rule : rule ≠ .fixed true) (h_part : c.HasPart p q) : Nulls p q
  | part {q r} (h : Nulls p q) (h_passes : ¬ c.IsOptional q) (h_part : c.HasPart q r) : Nulls p r

/-- If two optional constraints can have a constraint asked for null that keeps its value, then none
of the optional constraints above it can be asked for null itself. -/
def Untangled : Prop := ∀ p p' q x, c.Nulls p q → c.Nulls p' q → p ≠ p' → c.at? q = some x →
  x.kind.KeepsValue → ∀ o r, c.Nulls o r → c.IsOptional r → ¬ Relation.TransGen c.Leads r q

/-- Every field can write all its values. -/
def FieldsRender : Prop := ∀ p x spec f, c.at? p = some x → x.kind = .field spec →
  Field.ofSpec spec = .ok f → f.Renders

variable {c}

theorem HasPart.leads {p q : Place} (h : c.HasPart p q) : c.Leads p q := by
  cases h with
  | embedding h h_part => exact .embedding h h_part
  | reference h h_ref h_at h_id => exact .reference h h_ref h_at h_id

/-- Only optional constraints have others asked for null. -/
theorem Nulls.isOptional {p q : Place} (h : c.Nulls p q) : c.IsOptional p := by
  induction h with
  | @child x child rule _ h h_kind => exact ⟨x, child, rule, h, h_kind⟩
  | part _ _ _ ih => exact ih

/-- One optional constraint has no other one that could get in its way. -/
theorem untangled_of_unique (h_unique : ∀ p p', c.IsOptional p → c.IsOptional p' → p = p') :
    c.Untangled := fun p p' _ _ h_nulls h_nulls' h_ne =>
  absurd (h_unique p p' h_nulls.isOptional h_nulls'.isOptional) h_ne

/-- Only optional constraints have rules. -/
theorem isOptional_of_ruleId? {p : Place} {x : Constraint} {id : String} (h : c.at? p = some x)
    (h_rule : x.kind.ruleId? = some id) : c.IsOptional p := by
  cases h_kind : x.kind with
  | optional child rule => exact ⟨x, child, rule, h, h_kind⟩
  | _ => rw [h_kind] at h_rule; cases h_rule

end Specimen.Config
