import Specimen.Proofs.Generator.Requests

/-!
# Passes over all roots

What a generator does for each of its roots it does for all nodes, as every node is inside a root.
At the beginning of a pass all nodes forget their values and keep everything else
(`Represents.ends_beginPass`, `Represents.cell_passBegun`), and at the beginning of an enumeration
they forget which cases were served (`Represents.ends_resetCases`, `Represents.cell_casesReset`).

Then the roots are asked one after the other. What one root keeps up together with the data set that
its answer is put into is so at the end of the pass (`Represents.generate_keeps`).
-/

namespace Specimen

namespace Generator

/-- The memory in which all nodes have forgotten their values, for the next pass. -/
def passBegun (tops : List Node) (m : Memory) : Memory :=
  { m with passes := m.passes + 1 }.updateAll Cell.forgetValue (tops.flatMap Node.keys)

/-- The memory in which all nodes have forgotten which cases they have served. -/
def casesReset (tops : List Node) (m : Memory) : Memory :=
  m.updateAll Cell.forgetCases (tops.flatMap Node.keys)

variable {g : Generator} {c : Config} {tops : List Node} {m : Memory}

theorem foldl_updateAll (change : Cell → Cell) (ns : List Node) (m : Memory) :
    ns.foldl (fun m n => m.updateAll change n.keys) m =
      m.updateAll change (ns.flatMap Node.keys) := by
  rw [Memory.updateAll, List.foldl_flatMap]
  rfl

namespace Represents

theorem key_mem {n : Node} (h_n : Member tops n) : n.key ∈ tops.flatMap Node.keys := by
  obtain ⟨t, h_t, h_inside⟩ := member_iff.1 h_n
  exact List.mem_flatMap.2 ⟨t, h_t, Node.mem_keys_of_inside h_inside⟩

theorem cell_passBegun {n : Node} (h_n : Member tops n) :
    (passBegun tops m).cell n.key = (m.cell n.key).forgetValue := by
  rw [passBegun, Memory.cell_updateAll Cell.forgetValue (fun _ => rfl), if_pos (key_mem h_n)]
  rfl

theorem cell_casesReset {n : Node} (h_n : Member tops n) :
    (casesReset tops m).cell n.key = (m.cell n.key).forgetCases := by
  rw [casesReset, Memory.cell_updateAll Cell.forgetCases (fun _ => rfl), if_pos (key_mem h_n)]

variable (h : g.Represents c tops)
include h

/-- What is done for each root is done for the nodes of the top level. -/
theorem ends_forRoots {act : Node → Memory → Memory} {good : Unit → Memory → Prop}
    {bad : Failure → Memory → Prop} : Ends (g.forRoots act g.roots) m good bad ↔
      good () (tops.foldl (fun m n => act n m) m) := by
  have h_lists : ∀ m, Ends (g.forRoots act g.roots) m good bad ↔
      good () (tops.foldl (fun m n => act n m) m) := by
    refine h.roots_induction (P := fun ids ns => ∀ m, Ends (g.forRoots act ids) m good bad ↔
      good () (ns.foldl (fun m n => act n m) m)) (fun m => Iff.rfl) ?_
    intro id n ids ns _ h_get ih m
    rw [forRoots, find_eq h_get, pure_bind, ends_bind, ends_modify, List.foldl_cons]
    exact ih (act n m)
  exact h_lists m

theorem ends_beginPass {good : Nat → Memory → Prop} {bad : Failure → Memory → Prop} :
    Ends g.beginPass m good bad ↔ good (m.passes + 1) (passBegun tops m) := by
  simp only [beginPass, resetValues, ends_bind, ends_get, ends_set, h.ends_forRoots, ends_pure]
  rw [passBegun, ← foldl_updateAll]
  exact Iff.rfl

theorem ends_resetCases {good : Unit → Memory → Prop} {bad : Failure → Memory → Prop} :
    Ends g.resetCases m good bad ↔ good () (casesReset tops m) := by
  rw [resetCases, h.ends_forRoots, casesReset, ← foldl_updateAll]
  exact Iff.rfl

theorem memory_beginPass (m : Memory) : (g.beginPass m).2 = passBegun tops m := by
  have h_ends : Ends g.beginPass m (fun _ m' => m' = passBegun tops m)
      fun _ m' => m' = passBegun tops m := h.ends_beginPass.2 rfl
  exact h_ends.state

theorem memory_resetCases (m : Memory) : (g.resetCases m).2 = casesReset tops m := by
  have h_ends : Ends g.resetCases m (fun _ m' => m' = casesReset tops m)
      fun _ m' => m' = casesReset tops m := h.ends_resetCases.2 rfl
  exact h_ends.state

end Represents

/-- What holds of the value that is put and of all that were put before. -/
theorem forall_put {P : String → Option String → Prop} {d : DataSet} {id : String}
    {v : Option String} (h_v : P id v) (h_d : ∀ id v, d.values.get? id = some v → P id v) :
    ∀ id' v', (d.put id v).values.get? id' = some v' → P id' v' := by
  intro id' v' h_get
  rw [DataSet.put, Dict.get?_insert] at h_get
  split at h_get
  · next h_eq => exact h_eq ▸ Option.some.inj h_get ▸ h_v
  · exact h_d id' v' h_get

section Filling

variable {I : Memory → DataSet → Prop} {b : FieldCase} {number : Nat}

/-- **All roots.** What one root keeps up is kept up by all of them, and each of them gets a
value. -/
theorem ends_fill (h_root : ∀ id ∈ g.roots, ∀ d m v m', g.value id b m = (.ok v, m') → I m d →
      I m' (d.put id (g.stored number id v)))
    (ids : List String) (h_ids : ∀ id ∈ ids, id ∈ g.roots) (d : DataSet) (h_m : I m d) :
    Ends (g.fill b number ids d) m
      (fun d' m' => I m' d' ∧ ∀ id, id ∈ ids ∨ (∃ v, d.values.get? id = some v) →
        ∃ v, d'.values.get? id = some v) Anyhow := by
  induction ids generalizing d m with
  | nil => exact ⟨h_m, fun id h_id => h_id.resolve_left List.not_mem_nil⟩
  | cons id ids ih =>
    have h_id := h_ids id List.mem_cons_self
    rw [fill, ends_bind]
    refine ends_true_iff.2 fun v m' h_v => ?_
    refine (ih (fun id' h_id' => h_ids id' (List.mem_cons_of_mem _ h_id')) (d.put id _)
      (h_root id h_id d m v m' h_v h_m)).mono (fun d' m'' h_d' => ?_) fun _ _ _ => trivial
    refine ⟨h_d'.1, fun id' h_id' => h_d'.2 id' ?_⟩
    rw [DataSet.put, Dict.get?_insert]
    split
    · exact .inr ⟨_, rfl⟩
    · next h_ne => exact h_id'.imp_left fun h_mem => (List.mem_cons.1 h_mem).resolve_left h_ne

/-- **A pass.** What one root keeps up is so at the end, if it is when all nodes have forgotten
their values; and the data set has a value for each root. -/
theorem Represents.generate_keeps (h : g.Represents c tops)
    (h_root : ∀ id ∈ g.roots, ∀ d k v k', g.value id b k = (.ok v, k') → I k d →
      I k' (d.put id (g.stored (m.passes + 1) id v)))
    (h_m : I (passBegun tops m) .empty) {d : DataSet} {m' : Memory}
    (h_pass : g.generate b m = (.ok d, m')) :
    (∃ last, I last d) ∧ ∀ id ∈ g.roots, ∃ v, d.values.get? id = some v := by
  have h_ends : Ends (g.generate b) m (fun d _ => (∃ last, I last d) ∧
      ∀ id ∈ g.roots, ∃ v, d.values.get? id = some v) Anyhow := by
    rw [generate, ends_bind, h.ends_beginPass, ends_bind]
    refine (ends_fill h_root g.roots (fun _ => id) _ h_m).mono (fun d last h_d => ?_)
      fun _ _ _ => trivial
    rw [ends_bind, ends_log, ends_pure]
    exact ⟨⟨last, h_d.1⟩, fun id h_id => h_d.2 id (.inl h_id)⟩
  exact h_ends.of_ok h_pass

end Filling

/-- Where an id is not indexed, the answer itself is put into the data set. -/
theorem stored_of_not_indexed {id : String} (h_id : g.indexed.contains id = false) (number : Nat)
    (v : Option String) : g.stored number id v = v := by
  rw [stored, h_id, if_neg Bool.false_ne_true]

theorem stored_eq_none_iff {number : Nat} {id : String} {w : Option String} :
    g.stored number id w = none ↔ w = none := by
  rw [stored]
  split
  · exact Option.map_eq_none_iff
  · rfl

/-- Where every root answers rightly, and goes on doing so, the values of a pass are right. -/
theorem Represents.generate_right (h : g.Represents c tops)
    (h_indexed : ∀ id ∈ g.roots, g.indexed.contains id = false) {I : Memory → Prop}
    {P : String → Option String → Prop} {b : FieldCase}
    (h_root : ∀ id ∈ g.roots, ∀ m v m', g.value id b m = (.ok v, m') → I m → P id v ∧ I m')
    (h_m : I (passBegun tops m)) {d : DataSet} {m' : Memory}
    (h_pass : g.generate b m = (.ok d, m')) :
    (∀ id v, d.values.get? id = some v → P id v) ∧
      ∀ id ∈ g.roots, ∃ v, d.values.get? id = some v := by
  obtain ⟨⟨last, -, h_right⟩, h_all⟩ := h.generate_keeps
    (I := fun m d => I m ∧ ∀ id v, d.values.get? id = some v → P id v)
    (by
      rintro id h_id d m v m' h_value ⟨h_m, h_d⟩
      obtain ⟨h_v, h_m'⟩ := h_root id h_id m v m' h_value h_m
      rw [stored_of_not_indexed (h_indexed id h_id)]
      exact ⟨h_m', forall_put h_v h_d⟩)
    ⟨h_m, fun _ _ h_v => by cases h_v⟩ h_pass
  exact ⟨h_right, h_all⟩

theorem settled_passBegun (tops : List Node) (m : Memory) : m.Settled (passBegun tops m) :=
  (Memory.Settled.of_cells fun _ => rfl).trans
    (.updateAll Cell.forgetValue (fun _ => ⟨rfl, rfl, rfl⟩) _ _)

theorem settled_casesReset (tops : List Node) (m : Memory) : m.Settled (casesReset tops m) :=
  .updateAll Cell.forgetCases (fun _ => ⟨rfl, rfl, rfl⟩) _ _

end Generator

end Specimen
