import Specimen.Proofs.Generator.Exhaustion
import Specimen.Proofs.Node.Serving
import Specimen.Proofs.Node.Stability

/-!
# The passes of an enumeration

An enumeration that comes to its end has run one pass for each of its data sets, one after the
other, each after looking for cases that are left (`Generator.ends_enumerate_passes`). This holds of
all generators, whatever else may have gone wrong.

In each of these passes every field of a configuration has gone through what passes make of fields,
and what a root keeps at the end of a pass is what the data set holds under its id
(`Represents.ends_generate_fields`, `Represents.pass`).
-/

namespace Specimen

namespace Generator

/-- The memory after a number of passes of an enumeration that begins in a memory. -/
def afterPasses (g : Generator) (m : Memory) (k : Nat) : Memory := g.round^[k] (g.resetCases m).2

/-- The pass of an enumeration that comes after a number of others gives a data set. -/
def PassGives (g : Generator) (m : Memory) (k : Nat) (d : DataSet) : Prop :=
  g.generate .normal (g.hasNextCase (g.afterPasses m k)).2 = (.ok d, g.afterPasses m (k + 1))

theorem afterPasses_succ (g : Generator) (m : Memory) (k : Nat) :
    g.afterPasses m (k + 1) = g.round (g.afterPasses m k) :=
  Function.iterate_succ_apply' g.round k _

/-- A value that is asked for loses nothing of what was kept. -/
theorem nodeValue_persists (g : Generator) {m : Memory} (h_quiet : m.Quiet) (n : Node)
    (c : FieldCase) : Ends (g.nodeValue n c) m (fun _ m' => m.Persists m') Anyhow :=
  Node.value_persists (.start h_quiet (.ask n c)) fun _ h_frame => absurd h_frame List.not_mem_nil

/-- What goes on after data sets puts those of its passes behind them. -/
theorem ends_goOn_passes (g : Generator) (limit allowed : Nat) (done : List DataSet) (m : Memory) :
    Ends (g.goOn limit allowed done) m (fun ds m' => ∃ new, ds = done.reverse ++ new ∧
      (∀ k d, new[k]? = some d →
        g.generate .normal (g.hasNextCase (g.round^[k] m)).2 = (.ok d, g.round^[k + 1] m)) ∧
      ∀ key, m'.cell key = (g.hasNextCase (g.round^[new.length] m)).2.cell key) Anyhow := by
  induction allowed generalizing done m with
  | zero =>
    rcases h_next : g.hasNextCase m with ⟨f | b, m₁⟩
    · rw [goOn.eq_def, ends_bind, Ends, h_next]
      trivial
    · have h_memory : m₁ = (g.hasNextCase m).2 := by rw [h_next]
      rw [goOn.eq_def, ends_bind_of_ok h_next]
      -- whether it stops at the limit or has no case left, no pass follows
      cases b with
      | true => exact ⟨[], (List.append_nil _).symm, by simp, fun _ => by rw [h_memory]; rfl⟩
      | false => exact ⟨[], (List.append_nil _).symm, by simp, fun _ => by rw [h_memory]; rfl⟩
  | succ allowed ih =>
    rcases h_next : g.hasNextCase m with ⟨f | b, m₁⟩
    · rw [goOn.eq_def, ends_bind, Ends, h_next]
      trivial
    · have h_memory : m₁ = (g.hasNextCase m).2 := by rw [h_next]
      rw [goOn.eq_def, ends_bind_of_ok h_next]
      cases b with
      | false => exact ⟨[], (List.append_nil _).symm, by simp, fun _ => by rw [h_memory]; rfl⟩
      | true =>
        simp only [if_true]
        rcases h_pass : g.generate .normal m₁ with ⟨f | d, m₂⟩
        · rw [ends_bind, Ends, h_pass]
          trivial
        · have h_round : m₂ = g.round m := by rw [round, ← h_memory, h_pass]
          rw [ends_bind_of_ok h_pass]
          refine (ih (d :: done) m₂).mono (fun ds m' h_m' => ?_) fun _ _ _ => trivial
          obtain ⟨new, rfl, h_new, h_cells⟩ := h_m'
          rw [h_round] at h_new h_cells
          refine ⟨d :: new, by simp, ?_, h_cells⟩
          rintro (_ | k) d' h_d'
          · obtain rfl : d = d' := by simpa using h_d'
            rw [Function.iterate_zero, id, ← h_memory, h_pass, h_round]
            rfl
          · exact h_new k d' (by simpa using h_d')

/-- **The data sets of an enumeration are those of its passes.** -/
theorem ends_enumerate_passes (g : Generator) (limit : Nat) (m : Memory) :
    Ends (g.enumerate limit) m (fun ds m' => (∀ k d, ds[k]? = some d → g.PassGives m k d) ∧
      ∀ key, m'.cell key = (g.hasNextCase (g.afterPasses m ds.length)).2.cell key) Anyhow := by
  rcases h_reset : g.resetCases m with ⟨f | ⟨⟩, m₀⟩
  · rw [enumerate, ends_bind, Ends, h_reset]
    trivial
  · have h_memory : (g.resetCases m).2 = m₀ := by rw [h_reset]
    rw [enumerate, ends_bind_of_ok h_reset]
    refine (g.ends_goOn_passes limit limit [] m₀).mono (fun ds m' h_m' => ?_) fun _ _ _ => trivial
    obtain ⟨new, h_ds, h_new, h_cells⟩ := h_m'
    rw [List.reverse_nil, List.nil_append] at h_ds
    subst h_ds
    simp only [PassGives, afterPasses, h_memory]
    exact ⟨h_new, h_cells⟩

namespace Represents

variable {g : Generator} {c : Config} {tops : List Node} {m m' : Memory} {number : Nat}

/-- What a data set holds of the roots that keep their values. -/
def Stores (g : Generator) (number : Nat) (m : Memory) (ids : List String) (d : DataSet) : Prop :=
  ∀ id ∈ ids, ∀ n, g.graph.nodes.get? id = some n → n.kind.isStateless = false →
    ∃ w, (m.cell n.key).cache = some w ∧ d.values.get? id = some (g.stored number id w)

variable (h : g.Represents c tops)
include h

/-- The nodes of a configuration ask each other only. -/
theorem closed : g.scope.Closed (Member tops) :=
  fun _ _ h_n h_calls => h.member_of_calls h_n h_calls

/-- The roots are asked one after the other, and what they answer is put into the data set. -/
theorem fill_fields {before : Memory} (ids : List String) (h_ids : ∀ id ∈ ids, id ∈ g.roots)
    (d : DataSet) (h_quiet : m.Quiet) (h_free : Unfixed m)
    (h_fields : before.FieldsPass (Member tops) m) : Ends (g.fill .normal number ids d) m
      (fun d' m' => before.FieldsPass (Member tops) m' ∧ m.Persists m' ∧
        Stores g number m' ids d' ∧ ∀ id, id ∉ ids → d'.values.get? id = d.values.get? id)
      Anyhow := by
  induction ids generalizing d m with
  | nil => exact ⟨h_fields, .refl m, nofun, fun _ _ => rfl⟩
  | cons id ids ih =>
    obtain ⟨n, h_n, h_get, -⟩ := h.get?_root (h_ids id List.mem_cons_self)
    have h_member : Member tops n := member_iff.2 ⟨n, h_n, n.inside_self⟩
    rw [fill, value, find_eq h_get, pure_bind, ends_bind]
    -- what is known of the value of the first root
    have h_settles := h.nodeValue_settles (crashesOnly_true _) h_member .normal h_quiet
    have h_passes := Node.value_passes h.closed (fun n n' h_n h_n' => h.eq_of_key_eq h_n h_n')
      h_fields g.fuel h_member (.inl rfl)
    have h_persists := g.nodeValue_persists h_quiet n .normal
    have h_kept := Node.ends_value_kept_normal (s := g.scope) (h_free n.key) g.fuel
    refine (h_settles.and (h_passes.and (h_persists.and h_kept))).mono (fun v m₁ h_v => ?_)
      fun _ _ _ => trivial
    -- what the first root keeps is put into the data set, and the other requests lose nothing of it
    obtain ⟨h_settled, h_fields₁, h_persists₁, h_kept₁⟩ := h_v
    refine (ih (fun id' h_id' => h_ids id' (List.mem_cons_of_mem _ h_id')) _
      (h_settled.quiet h_quiet) (h_free.of_settled h_settled) h_fields₁).mono
      (fun d' m₂ h_d' => ?_) fun _ _ _ => trivial
    obtain ⟨h_fields₂, h_persists₂, h_stores, h_others⟩ := h_d'
    refine ⟨h_fields₂, h_persists₁.trans h_persists₂, fun id' h_id' n' h_get' h_kind => ?_,
      fun id' h_id' => ?_⟩
    · by_cases h_later : id' ∈ ids
      · exact h_stores id' h_later n' h_get' h_kind
      · obtain rfl := (List.mem_cons.1 h_id').resolve_right h_later
        obtain rfl := Option.some.inj (h_get.symm.trans h_get')
        refine ⟨v, h_persists₂.cache _ _ (h_kept₁ h_kind), ?_⟩
        rw [h_others id' h_later, DataSet.put, Dict.get?_insert_self]
    · have h_ne : id' ≠ id := fun h_eq => h_id' (h_eq ▸ List.mem_cons_self)
      rw [h_others id' fun h_later => h_id' (List.mem_cons_of_mem _ h_later), DataSet.put,
        Dict.get?_insert, if_neg h_ne]

/-- **What a pass makes of the fields**, and what its data set holds. -/
theorem ends_generate_fields (h_quiet : m.Quiet) (h_free : Unfixed m) :
    Ends (g.generate .normal) m (fun d m' => m.FieldsPass (Member tops) m' ∧
      Stores g (m.passes + 1) m' g.roots d) Anyhow := by
  have h_settled := settled_passBegun tops m
  -- at the beginning of the pass no field was asked
  have h_fields : m.FieldsPass (Member tops) (passBegun tops m) := by
    intro n f set h_n _
    refine .unasked ?_ ?_ <;> rw [cell_passBegun h_n] <;> rfl
  rw [generate, ends_bind, h.ends_beginPass, ends_bind]
  refine (h.fill_fields g.roots (fun _ => id) _ (h_settled.quiet h_quiet)
    (h_free.of_settled h_settled) h_fields).mono (fun d m' h_d => ?_) fun _ _ _ => trivial
  exact ⟨h_d.1, h_d.2.2.1⟩

/-! ### The passes one by one -/

/-- A round leaves nothing behind that is being evaluated, even if its pass breaks off. -/
theorem round_settled (h_quiet : m.Quiet) : m.Settled (g.round m) := by
  have h_looks : Settles (fun _ => True) g.hasNextCase m := h.hasNextCase_settles h_quiet
  have h_next : m.Settled (g.hasNextCase m).2 := h_looks.settled
  have h_pass := h.generate_settles (crashesOnly_true _) .normal (h_next.quiet h_quiet)
  exact h_next.trans h_pass.settled

theorem afterPasses_zero (m : Memory) : g.afterPasses m 0 = casesReset tops m :=
  h.memory_resetCases m

theorem settled_afterPasses (h_quiet : m.Quiet) (k : Nat) : m.Settled (g.afterPasses m k) := by
  induction k with
  | zero =>
    rw [h.afterPasses_zero]
    exact settled_casesReset tops m
  | succ k ih =>
    rw [afterPasses_succ]
    exact ih.trans (h.round_settled (ih.quiet h_quiet))

/-- Looking for cases that are left changes no cell. -/
theorem cell_hasNextCase (h_quiet : m.Quiet) (key : Nat) :
    (g.hasNextCase m).2.cell key = m.cell key := by
  obtain ⟨rank, h_fuel, h_ordered, -⟩ := h.exists_ordered
  obtain ⟨b, -, -, h_cells, -⟩ := (h.tells_hasNextCase h_ordered h_fuel h_quiet).exists_ok
  exact h_cells key

/-- **A pass of an enumeration.** -/
theorem pass {k : Nat} {d : DataSet} (h_quiet : m.Quiet) (h_free : Unfixed m)
    (h_pass : g.PassGives m k d) :
    (g.afterPasses m k).FieldsPass (Member tops) (g.afterPasses m (k + 1)) ∧
      ∃ number, Stores g number (g.afterPasses m (k + 1)) g.roots d := by
  have h_settled := h.settled_afterPasses h_quiet k
  have h_cells := h.cell_hasNextCase (h_settled.quiet h_quiet)
  have h_looked : (g.afterPasses m k).Settled (g.hasNextCase (g.afterPasses m k)).2 :=
    .of_cells h_cells
  have h_before := h_settled.trans h_looked
  obtain ⟨h_fields, h_stores⟩ := (h.ends_generate_fields (h_before.quiet h_quiet)
    (h_free.of_settled h_before)).of_ok h_pass
  refine ⟨fun n f set h_n h_kind => ?_, _, h_stores⟩
  exact (h_fields n f set h_n h_kind).congr (by rw [h_cells]) rfl rfl

/-- Where an enumeration ends. -/
theorem cell_enumerate {limit : Nat} {ds : List DataSet} (h_quiet : m.Quiet)
    (h_ok : g.enumerate limit m = (.ok ds, m')) (key : Nat) :
    m'.cell key = (g.afterPasses m ds.length).cell key := by
  rw [((g.ends_enumerate_passes limit m).of_ok h_ok).2 key]
  exact h.cell_hasNextCase ((h.settled_afterPasses h_quiet _).quiet h_quiet) key

end Represents

end Generator

end Specimen
