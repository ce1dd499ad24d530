import Mathlib.Logic.Relation
import Specimen.Config.Survey
import Specimen.Proofs.Place

/-!
# The constraints of a configuration by their places

Constraints that look alike are still different constraints when they stand at different places
of a configuration. `Config.at?` finds the constraint at a place, and `Config.Leads` says which
places a constraint leads to: those of its embedded parts, and those where the ids that it names
in references and in its rule are declared.

* `Constraint.partInduction` proves something for all constraints from their embedded parts.
* `Config.Stands` adds the nearest id above a place; `at?_iff_stands` ties it to `Config.at?`.
* `Config.ids_nodup_iff`: no id is listed twice exactly when none is declared at two places.
-/

namespace Specimen.Config

/-! ### Constraints inside constraints -/

/-- The id of a reference. -/
def Child.reference? : Child → Option String
  | .reference id => some id
  | .embedded _ => none

/-- The id that the rule of a constraint names. -/
def Kind.ruleId? : Kind → Option String
  | .optional _ (.whenPresent id) => some id
  | _ => none

/-- The ids that a constraint names: in its rule and in its references. -/
def Constraint.named (x : Constraint) : List String :=
  x.kind.ruleId?.toList ++ x.children.filterMap Child.reference?

/-- The constraint at a place inside another one. -/
def Constraint.at? : Constraint → Place → Option Constraint
  | x, [] => some x
  | x, i :: p =>
    match x.children[i]? with
    | some (.embedded y) => y.at? p
    | _ => none

@[simp] theorem Constraint.at?_nil (x : Constraint) : x.at? [] = some x := by
  rw [Constraint.at?]

theorem Constraint.at?_cons {x y : Constraint} {i : Nat} {p : Place} :
    x.at? (i :: p) = some y ↔ ∃ z, x.children[i]? = some (.embedded z) ∧ z.at? p = some y := by
  rw [Constraint.at?]
  split
  · next z h => simp [h]
  · next h =>
    simp only [reduceCtorEq, false_iff, not_exists, not_and]
    exact fun z h_z => absurd h_z (h z)

theorem Constraint.at?_append {x y z : Constraint} {p q : Place} (h : x.at? p = some y) :
    x.at? (p ++ q) = some z ↔ y.at? q = some z := by
  induction p generalizing x with
  | nil => rw [Constraint.at?_nil] at h; rw [Option.some.inj h, List.nil_append]
  | cons i p ih =>
    obtain ⟨w, h_w, h_y⟩ := Constraint.at?_cons.1 h
    rw [List.cons_append, Constraint.at?_cons]
    constructor
    · rintro ⟨w', h_w', h_z⟩
      obtain rfl : w = w' := by simpa [h_w] using h_w'
      exact (ih h_y).1 h_z
    · exact fun h_z => ⟨w, h_w, (ih h_y).2 h_z⟩

/-- What holds of a constraint, and at all places of its parts, holds at all its places. -/
theorem Constraint.forall_at?_of_parts {P : Constraint → Prop} {x : Constraint} (h_own : P x)
    (h_parts : ∀ z, .embedded z ∈ x.children → ∀ p y, z.at? p = some y → P y) :
    ∀ p y, x.at? p = some y → P y := by
  intro p y h_y
  cases p with
  | nil => exact Option.some.inj (x.at?_nil.symm.trans h_y) ▸ h_own
  | cons i p =>
    obtain ⟨z, h_z, h_y⟩ := Constraint.at?_cons.1 h_y
    exact h_parts z (List.mem_of_getElem? h_z) p y h_y

/-- A constraint that embeds no other one is the only one at its places. -/
theorem Constraint.at?_of_flat {x y : Constraint} {p : Place}
    (h_flat : ∀ z, .embedded z ∉ x.children) (h : x.at? p = some y) : p = [] ∧ x = y := by
  cases p with
  | nil => exact ⟨rfl, Option.some.inj (x.at?_nil.symm.trans h)⟩
  | cons i p =>
    obtain ⟨z, h_z, -⟩ := Constraint.at?_cons.1 h
    exact absurd (List.mem_of_getElem? h_z) (h_flat z)

mutual

/-- **Induction over parts.** What holds of a constraint whenever it holds of its embedded parts
holds of all constraints. -/
theorem Constraint.partInduction {P : Constraint → Prop}
    (h : ∀ x, (∀ y, .embedded y ∈ x.children → P y) → P x) : ∀ x, P x
  | .mk _ _ kind => h _ (Kind.partInduction h kind)

theorem Kind.partInduction {P : Constraint → Prop}
    (h : ∀ x, (∀ y, .embedded y ∈ x.children → P y) → P x) :
    ∀ k : Kind, ∀ y, .embedded y ∈ k.children → P y
  | .constant _, _, h_y | .field _, _, h_y => absurd h_y List.not_mem_nil
  | .combined parts _, y, h_y => Child.listPartInduction h parts y h_y
  | .optional child _, y, h_y | .source child, y, h_y =>
    Child.partInduction h child y (List.mem_singleton.1 h_y)

theorem Child.partInduction {P : Constraint → Prop}
    (h : ∀ x, (∀ y, .embedded y ∈ x.children → P y) → P x) :
    ∀ c : Child, ∀ y, .embedded y = c → P y
  | .embedded x, _, h_y => Child.embedded.inj h_y ▸ Constraint.partInduction h x

theorem Child.listPartInduction {P : Constraint → Prop}
    (h : ∀ x, (∀ y, .embedded y ∈ x.children → P y) → P x) :
    ∀ cs : List Child, ∀ y, .embedded y ∈ cs → P y
  | c :: cs, y, h_y =>
    (List.mem_cons.1 h_y).elim (Child.partInduction h c y) (Child.listPartInduction h cs y)

end

/-! ### Ids -/

mutual

/-- The ids that a constraint and those embedded in it declare, in the order of the text. -/
def Constraint.ids : Constraint → List String
  | .mk id _ kind => id.toList ++ kind.ids

/-- The ids that the embedded parts of a constraint declare. -/
def Kind.ids : Kind → List String
  | .constant _ | .field _ => []
  | .combined parts _ => Child.listIds parts
  | .optional child _ | .source child => child.ids

/-- The ids that a part declares. -/
def Child.ids : Child → List String
  | .reference _ => []
  | .embedded constraint => constraint.ids

/-- The ids that some parts declare. -/
def Child.listIds : List Child → List String
  | [] => []
  | c :: cs => c.ids ++ Child.listIds cs

end

theorem Child.listIds_eq_flatMap : ∀ cs : List Child, Child.listIds cs = cs.flatMap Child.ids
  | [] => by rw [Child.listIds, List.flatMap_nil]
  | c :: cs => by rw [Child.listIds, Child.listIds_eq_flatMap cs, List.flatMap_cons]

theorem Constraint.ids_eq (x : Constraint) :
    x.ids = x.id.toList ++ x.children.flatMap Child.ids := by
  obtain ⟨id, charset, kind⟩ := x
  cases kind <;>
    simp [Constraint.ids, Kind.ids, Constraint.id, Constraint.children, Constraint.kind,
      Kind.children, Child.listIds_eq_flatMap]

/-- An id is declared at a place inside a constraint. -/
def Constraint.Declares (x : Constraint) (p : Place) (id : String) : Prop :=
  ∃ y, x.at? p = some y ∧ y.id = some id

/-- An id is declared at a place inside a part. -/
def Child.Declares : Child → Place → String → Prop
  | .reference _, _, _ => False
  | .embedded x, p, id => x.Declares p id

theorem Constraint.declares_cons {x : Constraint} {i : Nat} {p : Place} {id : String} :
    x.Declares (i :: p) id ↔ ∃ c, x.children[i]? = some c ∧ c.Declares p id := by
  constructor
  · rintro ⟨y, h_y, h_id⟩
    obtain ⟨z, h_z, h_y⟩ := Constraint.at?_cons.1 h_y
    exact ⟨.embedded z, h_z, y, h_y, h_id⟩
  · rintro ⟨_ | z, h_c, h⟩
    · exact h.elim
    · obtain ⟨y, h_y, h_id⟩ := h
      exact ⟨y, Constraint.at?_cons.2 ⟨z, h_c, h_y⟩, h_id⟩

theorem Constraint.declares_nil {x : Constraint} {id : String} :
    x.Declares [] id ↔ id ∈ x.id.toList := by
  rw [Constraint.Declares, Constraint.at?_nil, Option.mem_toList]
  exact ⟨fun ⟨_, h_y, h_id⟩ => Option.some.inj h_y ▸ h_id, fun h => ⟨x, rfl, h⟩⟩

/-- The walk from the parts of a constraint to the constraint. -/
theorem Child.mem_ids_of_parts {c : Child}
    (h : ∀ y, c = .embedded y → ∀ id, id ∈ y.ids ↔ ∃ p, y.Declares p id) (id : String) :
    id ∈ c.ids ↔ ∃ p, c.Declares p id := by
  cases c with
  | reference _ => simp [Child.ids, Child.Declares]
  | embedded y => rw [Child.ids]; exact h y rfl id

theorem Constraint.mem_ids (x : Constraint) (id : String) :
    id ∈ x.ids ↔ ∃ p, x.Declares p id := by
  induction x using Constraint.partInduction generalizing id with
  | h x ih =>
    rw [Constraint.ids_eq]
    exact mem_labels_step (fun _ => Constraint.declares_nil) (fun _ _ _ => Constraint.declares_cons)
      (fun c h_c => Child.mem_ids_of_parts fun y h_y => ih y (h_y ▸ h_c)) id

theorem Child.mem_ids (c : Child) (id : String) : id ∈ c.ids ↔ ∃ p, c.Declares p id :=
  Child.mem_ids_of_parts (fun y _ => y.mem_ids) id

theorem Constraint.ids_nodup_iff (x : Constraint) :
    x.ids.Nodup ↔ ∀ p q id, x.Declares p id → x.Declares q id → p = q := by
  induction x using Constraint.partInduction with
  | h x ih =>
    have h_own : x.id.toList.Nodup := by cases x.id <;> simp
    rw [Constraint.ids_eq]
    refine nodup_labels_step h_own (fun _ => Constraint.declares_nil)
      (fun _ _ _ => Constraint.declares_cons) (fun c _ => c.mem_ids) fun c h_c => ?_
    cases c with
    | reference _ => simp [Child.ids, Child.Declares]
    | embedded y => rw [Child.ids]; exact ih y h_c

/-! ### Places of a configuration -/

variable (c : Config)

/-- The constraint at a place of a configuration. -/
def at? : Place → Option Constraint
  | [] => none
  | i :: p =>
    match c.constraints[i]? with
    | some x => x.at? p
    | none => none

/-- A constraint stands at a place, with an owner: the nearest id above it. -/
inductive Stands : Place → Option String → Constraint → Prop where
  | top {i x} (h : c.constraints[i]? = some x) : Stands [i] none x
  | part {p owner x i y} (h : Stands p owner x) (h_part : x.children[i]? = some (.embedded y)) :
    Stands (p ++ [i]) (x.id.or owner) y

/-- One place leads to another: the constraint there embeds the other one as a part, or names
its id in a reference or in its rule. -/
inductive Leads : Place → Place → Prop where
  | embedding {p i x y} (h : c.at? p = some x) (h_part : x.children[i]? = some (.embedded y)) :
    Leads p (p ++ [i])
  | reference {p q x y id} (h : c.at? p = some x) (h_ref : .reference id ∈ x.children)
    (h_at : c.at? q = some y) (h_id : y.id = some id) : Leads p q
  | rule {p q x y id} (h : c.at? p = some x) (h_rule : x.kind.ruleId? = some id)
    (h_at : c.at? q = some y) (h_id : y.id = some id) : Leads p q

/-- An id is declared at a place. -/
def Declares (p : Place) (id : String) : Prop := ∃ x, c.at? p = some x ∧ x.id = some id

/-- All ids that a configuration declares, in the order of the text. -/
def ids : List String := c.constraints.flatMap Constraint.ids

variable {c}

theorem at?_cons {i : Nat} {p : Place} {x : Constraint} :
    c.at? (i :: p) = some x ↔ ∃ y, c.constraints[i]? = some y ∧ y.at? p = some x := by
  rw [at?]
  cases c.constraints[i]? with
  | none => simp
  | some y => simp

theorem at?_part {p : Place} {x y : Constraint} {i : Nat} (h : c.at? p = some x)
    (h_part : x.children[i]? = some (.embedded y)) : c.at? (p ++ [i]) = some y := by
  match p with
  | j :: p =>
    obtain ⟨z, h_z, h_x⟩ := at?_cons.1 h
    refine at?_cons.2 ⟨z, h_z, (Constraint.at?_append h_x).2 ?_⟩
    exact Constraint.at?_cons.2 ⟨y, h_part, Constraint.at?_nil y⟩

theorem Stands.at? {p : Place} {owner : Option String} {x : Constraint} (h : c.Stands p owner x) :
    c.at? p = some x := by
  induction h with
  | top h => exact at?_cons.2 ⟨_, h, Constraint.at?_nil _⟩
  | part _ h_part ih => exact at?_part ih h_part

/-- Whatever is inside a standing constraint stands, too. -/
theorem Stands.inside {p : Place} {owner : Option String} {x y : Constraint} {q : Place}
    (h : c.Stands p owner x) (h_at : x.at? q = some y) : ∃ owner', c.Stands (p ++ q) owner' y := by
  induction q generalizing p owner x with
  | nil =>
    rw [Constraint.at?_nil] at h_at
    exact ⟨owner, by rw [List.append_nil, ← Option.some.inj h_at]; exact h⟩
  | cons i q ih =>
    obtain ⟨z, h_z, h_y⟩ := Constraint.at?_cons.1 h_at
    obtain ⟨owner', h'⟩ := ih (h.part h_z) h_y
    exact ⟨owner', by rw [List.append_assoc] at h'; exact h'⟩

theorem at?_iff_stands {p : Place} {x : Constraint} :
    c.at? p = some x ↔ ∃ owner, c.Stands p owner x := by
  constructor
  · intro h
    match p with
    | i :: p =>
      obtain ⟨y, h_y, h_x⟩ := at?_cons.1 h
      exact (Stands.top h_y).inside h_x
  · rintro ⟨owner, h⟩
    exact h.at?

theorem declares_cons {i : Nat} {p : Place} {id : String} :
    c.Declares (i :: p) id ↔ ∃ x, c.constraints[i]? = some x ∧ x.Declares p id := by
  constructor
  · rintro ⟨y, h_y, h_id⟩
    obtain ⟨x, h_x, h_y⟩ := at?_cons.1 h_y
    exact ⟨x, h_x, y, h_y, h_id⟩
  · rintro ⟨x, h_x, y, h_y, h_id⟩
    exact ⟨y, at?_cons.2 ⟨x, h_x, h_y⟩, h_id⟩

theorem declares_nil {id : String} : c.Declares [] id ↔ id ∈ ([] : List String) := by
  simp [Declares, Config.at?]

theorem ids_eq : c.ids = [] ++ c.constraints.flatMap Constraint.ids := rfl

theorem mem_ids {id : String} : id ∈ c.ids ↔ ∃ p, c.Declares p id := by
  rw [ids_eq]
  exact mem_labels_step (fun _ => declares_nil) (fun _ _ _ => declares_cons)
    (fun x _ => x.mem_ids) id

/-- **Ids declared once.** No id is listed twice exactly when none is declared at two places. -/
theorem ids_nodup_iff :
    c.ids.Nodup ↔ ∀ p q id, c.Declares p id → c.Declares q id → p = q := by
  rw [ids_eq]
  exact nodup_labels_step List.nodup_nil (fun _ => declares_nil) (fun _ _ _ => declares_cons)
    (fun x _ => x.mem_ids) fun x _ => x.ids_nodup_iff

end Specimen.Config
