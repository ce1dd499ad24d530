import Specimen.Node.Memory

/-!
# How computations end

Nodes are built and asked by computations with a state, which end either with an answer or with a
failure and leave a state behind in both cases. `Ends` says what holds in each of the two cases,
and every way to put computations together has a law that reduces it to its parts. Proofs about a
computation unfold it once, rewrite with the laws, and are left with statements about states.
-/

namespace Specimen

variable {ε σ α β : Type}

/-- A computation that begins in a state ends with an answer and a state that satisfy `good`, or
with a failure and a state that satisfy `bad`. -/
def Ends (e : ExceptT ε (StateM σ) α) (s : σ) (good : α → σ → Prop) (bad : ε → σ → Prop) : Prop :=
  match e s with
  | (.ok a, s') => good a s'
  | (.error f, s') => bad f s'

variable {good good' : α → σ → Prop} {bad bad' : ε → σ → Prop} {s : σ}

/-! ### Reading what was shown -/

theorem Ends.of_ok {e : ExceptT ε (StateM σ) α} (h : Ends e s good bad) {a : α} {s' : σ}
    (h_ok : e s = (.ok a, s')) : good a s' := by
  rw [Ends, h_ok] at h
  exact h

theorem Ends.of_error {e : ExceptT ε (StateM σ) α} (h : Ends e s good bad) {f : ε} {s' : σ}
    (h_error : e s = (.error f, s')) : bad f s' := by
  rw [Ends, h_error] at h
  exact h

/-- A computation ends as it does. -/
theorem ends_iff {e : ExceptT ε (StateM σ) α} : Ends e s good bad ↔
    (∀ a s', e s = (.ok a, s') → good a s') ∧ ∀ f s', e s = (.error f, s') → bad f s' := by
  constructor
  · exact fun h => ⟨fun _ _ => h.of_ok, fun _ _ => h.of_error⟩
  · rintro ⟨h_ok, h_error⟩
    rw [Ends]
    split
    · next h_eq => exact h_ok _ _ h_eq
    · next h_eq => exact h_error _ _ h_eq

theorem Ends.mono {e : ExceptT ε (StateM σ) α} (h : Ends e s good bad)
    (h_good : ∀ a s', good a s' → good' a s') (h_bad : ∀ f s', bad f s' → bad' f s') :
    Ends e s good' bad' :=
  ends_iff.2 ⟨fun a s' h_ok => h_good a s' (h.of_ok h_ok),
    fun f s' h_error => h_bad f s' (h.of_error h_error)⟩

theorem Ends.and {e : ExceptT ε (StateM σ) α} (h : Ends e s good bad) (h' : Ends e s good' bad') :
    Ends e s (fun a s' => good a s' ∧ good' a s') fun f s' => bad f s' ∧ bad' f s' :=
  ends_iff.2 ⟨fun _ _ h_ok => ⟨h.of_ok h_ok, h'.of_ok h_ok⟩,
    fun _ _ h_error => ⟨h.of_error h_error, h'.of_error h_error⟩⟩

/-- If failures need no proof, only answers count. -/
theorem ends_true_iff {e : ExceptT ε (StateM σ) α} :
    Ends e s good (fun _ _ => True) ↔ ∀ a s', e s = (.ok a, s') → good a s' := by
  rw [ends_iff]
  exact and_iff_left fun _ _ _ => trivial

/-- What cannot fail gives an answer. -/
theorem Ends.exists_ok {e : ExceptT ε (StateM σ) α} (h : Ends e s good fun _ _ => False) :
    ∃ a, e s = (.ok a, (e s).2) ∧ good a (e s).2 := by
  rcases h_eq : e s with ⟨f | a, s'⟩
  · exact (h.of_error h_eq).elim
  · exact ⟨a, rfl, h.of_ok h_eq⟩

/-- What cannot answer fails with the only failure there is. -/
theorem Ends.fst_eq_error {e : ExceptT ε (StateM σ) α} {f : ε}
    (h : Ends e s (fun _ _ => False) fun f' _ => f' = f) : (e s).1 = .error f := by
  rcases h_eq : e s with ⟨f' | a, s'⟩
  · rw [h.of_error h_eq]
  · exact (h.of_ok h_eq).elim

/-- What holds of the state in both cases holds of the state after the computation. -/
theorem Ends.state {e : ExceptT ε (StateM σ) α} {P : σ → Prop}
    (h : Ends e s (fun _ => P) fun _ => P) : P (e s).2 := by
  rw [Ends] at h
  split at h
  · next h_eq => rw [h_eq]; exact h
  · next h_eq => rw [h_eq]; exact h

/-! ### Computations in general -/

@[simp] theorem ends_pure {a : α} :
    Ends (pure a : ExceptT ε (StateM σ) α) s good bad ↔ good a s := Iff.rfl

@[simp] theorem ends_throw {f : ε} :
    Ends (throw f : ExceptT ε (StateM σ) α) s good bad ↔ bad f s := Iff.rfl

/-- What follows an answer begins where the answer was given. -/
theorem bind_of_ok {e : ExceptT ε (StateM σ) α} {k : α → ExceptT ε (StateM σ) β} {a : α} {s' : σ}
    (h : e s = (.ok a, s')) : (e >>= k) s = k a s' := by
  simp only [bind, ExceptT.bind, ExceptT.mk, StateT.bind, ExceptT.bindCont]
  rw [h]

/-- Nothing follows a failure. -/
theorem bind_of_error {e : ExceptT ε (StateM σ) α} {k : α → ExceptT ε (StateM σ) β} {f : ε} {s' : σ}
    (h : e s = (.error f, s')) : (e >>= k) s = (.error f, s') := by
  simp only [bind, ExceptT.bind, ExceptT.mk, StateT.bind, ExceptT.bindCont]
  rw [h]
  rfl

/-- Whatever answers has parts that answer. -/
theorem bind_eq_ok_iff {e : ExceptT ε (StateM σ) α} {k : α → ExceptT ε (StateM σ) β} {b : β}
    {s'' : σ} : (e >>= k) s = (.ok b, s'') ↔ ∃ a s', e s = (.ok a, s') ∧ k a s' = (.ok b, s'') := by
  constructor
  · intro h
    rcases h_e : e s with ⟨f | a, s'⟩
    · rw [bind_of_error h_e] at h
      cases h
    · exact ⟨a, s', rfl, (bind_of_ok h_e).symm.trans h⟩
  · rintro ⟨a, s', h_e, h_k⟩
    rw [bind_of_ok h_e, h_k]

@[simp] theorem ends_bind {e : ExceptT ε (StateM σ) α} {k : α → ExceptT ε (StateM σ) β}
    {good : β → σ → Prop} :
    Ends (e >>= k) s good bad ↔ Ends e s (fun a s' => Ends (k a) s' good bad) bad := by
  rcases h : e s with ⟨f | a, s'⟩
  · rw [Ends, bind_of_error h, Ends, h]
  · rw [Ends, bind_of_ok h, Ends, h]
    exact Iff.rfl

/-- What comes after an answer begins in the state that the answer left. -/
theorem ends_bind_of_ok {e : ExceptT ε (StateM σ) α} {k : α → ExceptT ε (StateM σ) β}
    {good : β → σ → Prop} {a : α} {s' : σ} (h : e s = (.ok a, s')) :
    Ends (e >>= k) s good bad ↔ Ends (k a) s' good bad := by
  rw [ends_bind, Ends, h]

@[simp] theorem ends_map {e : ExceptT ε (StateM σ) α} {k : α → β} {good : β → σ → Prop} :
    Ends (k <$> e) s good bad ↔ Ends e s (fun a s' => good (k a) s') bad := by
  rw [← bind_pure_comp, ends_bind]
  exact Iff.rfl

@[simp] theorem ends_get {good : σ → σ → Prop} :
    Ends (get : ExceptT ε (StateM σ) σ) s good bad ↔ good s s := Iff.rfl

@[simp] theorem ends_set {s' : σ} {good : PUnit → σ → Prop} :
    Ends (set s' : ExceptT ε (StateM σ) PUnit) s good bad ↔ good ⟨⟩ s' := Iff.rfl

@[simp] theorem ends_modify {change : σ → σ} {good : PUnit → σ → Prop} :
    Ends (modify change : ExceptT ε (StateM σ) PUnit) s good bad ↔ good ⟨⟩ (change s) := Iff.rfl

/-! ### Evaluations -/

section Eval

variable {m : Memory} {good : α → Memory → Prop} {bad : Failure → Memory → Prop}

@[simp] theorem ends_fail {f : Fault} :
    Ends (Eval.fail f : Eval α) m good bad ↔ bad (.fault f) m := Iff.rfl

@[simp] theorem ends_cell {key : Nat} {good : Cell → Memory → Prop} :
    Ends (Eval.cell key) m good bad ↔ good (m.cells.get key) m := Iff.rfl

@[simp] theorem ends_update {key : Nat} {change : Cell → Cell} {good : Unit → Memory → Prop} :
    Ends (Eval.update key change) m good bad ↔ good () (m.update key change) := Iff.rfl

@[simp] theorem ends_log {e : LogEvent} {good : Unit → Memory → Prop} :
    Ends (Eval.log e) m good bad ↔ good () { m with log := e :: m.log } := Iff.rfl

@[simp] theorem ends_draw {d : Draw α} :
    Ends (Eval.draw d) m good bad ↔ good (d m.draws).1 { m with draws := (d m.draws).2 } := Iff.rfl

@[simp] theorem ends_takeToken {good : Nat → Memory → Prop} :
    Ends Eval.takeToken m good bad ↔ good m.tokens { m with tokens := m.tokens + 1 } := Iff.rfl

/-- What is always done at the end is done in both cases. -/
@[simp] theorem ends_ensuring {always : Memory → Memory} {e : Eval α} :
    Ends (Eval.ensuring always e) m good bad ↔
      Ends e m (fun a m' => good a (always m')) fun f m' => bad f (always m') := by
  have h_ensuring : Eval.ensuring always e m = ((e m).1, always (e m).2) := rfl
  rw [Ends, h_ensuring, Ends]
  rcases e m with ⟨_ | a, m'⟩ <;> rfl

/-- The failure with a node added to its path. -/
def Failure.inNode (node : String) : Failure → Failure
  | .fault f => .fault (.inNode node f)
  | other => other

@[simp] theorem ends_inNode {node : String} {e : Eval α} :
    Ends (Eval.inNode node e) m good bad ↔
      Ends e m good fun f m' => bad (f.inNode node) m' := by
  rw [Ends, Ends, Eval.inNode, ExceptT.mk]
  rcases e m with ⟨_ | a, m'⟩
  · next f => cases f <;> rfl
  · rfl

end Eval

end Specimen
