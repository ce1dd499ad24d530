import Specimen.Proofs.Node.Seeing

/-!
# What an override leaves behind

A cell counts how many values of its override have been used. Once the node is free the count says
nothing: memories that differ in such counts only are alike for every node (`Memory.Like`), in that
whatever a node is asked for ends in the same way and leaves memories that are alike again
(`Node.value_respects`).
-/

namespace Specimen

variable {α : Type}

/-! ### Memories that remember the same -/

/-- Two cells remember the same, but for how many values a free node has used of overrides. -/
def Cell.Like (c c' : Cell) : Prop :=
  ∃ used, c' = { c with used := used } ∧ (c.override ≠ none → used = c.used)

/-- Two memories remember the same, but for how many values free nodes have used of overrides. -/
structure Memory.Like (m m' : Memory) : Prop where
  cell : ∀ key, (m.cell key).Like (m'.cell key)
  tokens : m'.tokens = m.tokens
  draws : m'.draws = m.draws
  passes : m'.passes = m.passes
  log : m'.log = m.log

namespace Cell

theorem Like.refl (c : Cell) : c.Like c := ⟨c.used, rfl, fun _ => rfl⟩

theorem Like.change {c c' : Cell} (h : c.Like c') {change : Cell → Cell}
    (h_change : Blind change) : (change c).Like (change c') := by
  obtain ⟨used, rfl, h_used⟩ := h
  obtain ⟨h_eq, h_override⟩ := h_change c used
  have h_self : change c = { change c with used := c.used } := (h_change c c.used).1
  have h_kept : (change c).used = c.used := by rw [h_self]
  refine ⟨used, h_eq, fun h_fixed => ?_⟩
  rw [h_kept]
  exact h_used (h_override ▸ h_fixed)

/-- Where one of two such nodes is fixed, both are, and their cells are the same. -/
theorem Like.eq_of_fixed {c c' : Cell} (h : c.Like c') (h_fixed : c.override ≠ none) : c' = c := by
  obtain ⟨used, rfl, h_used⟩ := h
  rw [h_used h_fixed]

theorem Like.override {c c' : Cell} (h : c.Like c') : c'.override = c.override := by
  obtain ⟨used, rfl, -⟩ := h
  rfl

end Cell

namespace Memory.Like

variable {m m' : Memory}

theorem refl (m : Memory) : m.Like m := ⟨fun _ => .refl _, rfl, rfl, rfl, rfl⟩

/-- The same is done to one cell of both. -/
theorem update_cell (h : m.Like m') (key : Nat) {change : Cell → Cell}
    (h_change : (change (m.cell key)).Like (change (m'.cell key))) :
    (m.update key change).Like (m'.update key change) := by
  refine ⟨fun other => ?_, h.tokens, h.draws, h.passes, h.log⟩
  rw [Memory.cell_update, Memory.cell_update]
  split
  · exact h_change
  · exact h.cell other

theorem update (h : m.Like m') (key : Nat) {change : Cell → Cell} (h_change : Cell.Blind change) :
    (m.update key change).Like (m'.update key change) :=
  h.update_cell key ((h.cell key).change h_change)

theorem comparable : Comparable Memory.Like where
  cell h key := (h.cell key).imp fun _ => And.left
  update h key _ := h.update key

end Memory.Like

/-! ### Values -/

theorem Cell.Blind.hold (token : Nat) : Blind (hold token) := fun _ _ => ⟨rfl, rfl⟩

theorem Cell.Blind.release : Blind release := fun _ _ => ⟨rfl, rfl⟩

theorem Cell.Blind.keep (value : Option String) : Blind (keep value) := fun _ _ => ⟨rfl, rfl⟩

theorem Cell.Blind.decide (mandatory : Bool) : Blind (decide mandatory) := fun _ _ => ⟨rfl, rfl⟩

theorem Cell.Blind.choose (choice : FairChoice) : Blind (choose choice) := fun _ _ => ⟨rfl, rfl⟩

/-- The override of a node answers, if there is one. -/
theorem overridden_fixed {key : Nat} {m : Memory} {values : Override}
    (h : (m.cell key).override = some values) :
    overridden? key m = (.ok (some (values (m.cell key).used)), m.update key Cell.use) := by
  have h_ends : Ends (overridden? key) m
      (fun v m' => v = some (values (m.cell key).used) ∧ m' = m.update key Cell.use)
      fun _ _ => False := (ends_overridden h).2 ⟨rfl, rfl⟩
  obtain ⟨v, h_eq, rfl, h_m⟩ := h_ends.exists_ok
  rw [h_eq, h_m]

theorem overridden_free {key : Nat} {m : Memory} (h : (m.cell key).override = none) :
    overridden? key m = (.ok none, m) := by
  have h_ends : Ends (overridden? key) m (fun v m' => v = none ∧ m' = m) fun _ _ => False :=
    (ends_overridden_none h).2 ⟨rfl, rfl⟩
  obtain ⟨v, h_eq, rfl, h_m⟩ := h_ends.exists_ok
  rw [h_eq, h_m]

section Values

open Memory.Like (comparable)

theorem respects_log (e : LogEvent) : Respects Memory.Like (Eval.log e) :=
  .modify fun _ _ h => ⟨h.cell, h.tokens, h.draws, h.passes, congrArg (e :: ·) h.log⟩

theorem respects_draw (d : Draw α) : Respects Memory.Like (Eval.draw d) := by
  intro m m' h
  have h_draw : ∀ m : Memory,
      Eval.draw d m = (.ok (d m.draws).1, m.withDraws (d m.draws).2) := fun _ => rfl
  rw [h_draw, h_draw, h.draws]
  exact ⟨rfl, h.cell, h.tokens, rfl, h.passes, h.log⟩

theorem respects_takeToken : Respects Memory.Like Eval.takeToken := by
  intro m m' h
  have h_take : ∀ m : Memory, Eval.takeToken m = (.ok m.tokens, m.nextToken) := fun _ => rfl
  rw [h_take, h_take, h.tokens]
  exact ⟨rfl, h.cell, congrArg (· + 1) h.tokens, h.draws, h.passes, h.log⟩

/-- Whether a node is fixed, and to what, is the same in both memories. -/
theorem respects_overridden (key : Nat) : Respects Memory.Like (overridden? key) := by
  intro m m' h
  have h_override := (h.cell key).override
  cases h_values : (m.cell key).override with
  | none =>
    rw [overridden_free h_values, overridden_free (h_override.trans h_values)]
    exact ⟨rfl, h⟩
  | some values =>
    have h_fixed : (m.cell key).override ≠ none := by rw [h_values]; exact Option.some_ne_none _
    have h_cell := (h.cell key).eq_of_fixed h_fixed
    rw [overridden_fixed h_values, overridden_fixed (h_override.trans h_values), h_cell]
    exact ⟨rfl, h.update_cell key (h_cell ▸ .refl _)⟩

theorem respects_guarded (key : Nat) (i : Identity) (c : FieldCase)
    {generate : Eval (Option String)} (h : Respects Memory.Like generate) :
    Respects Memory.Like (guarded key i c generate) := by
  unfold guarded
  refine respects_takeToken.bind fun token => comparable.read (fun cell => ?_) fun _ _ => rfl
  have h_generate : Respects Memory.Like (do
      Eval.update key fun cell => { cell with token := some token }
      Eval.ensuring (·.update key fun cell => { cell with token := none }) do
        Eval.log (generatingEvent i token c)
        Eval.inNode i.display generate) :=
    (comparable.modify key (.hold token)).bind fun _ =>
      ((respects_log _).bind fun _ => h.inNode _).ensuring fun _ _ h_m => h_m.update key .release
  -- the token that the node holds is the same in both
  split
  · split
    · exact (Respects.throw _).bind fun _ => h_generate
    · exact h_generate
  · exact h_generate

theorem respects_stateless (key : Nat) (i : Identity) (c : FieldCase)
    {generate : FieldCase → Eval (Option String)} (h : ∀ c, Respects Memory.Like (generate c)) :
    Respects Memory.Like (stateless key i c generate) := by
  unfold stateless
  refine (respects_overridden key).bind fun v => ?_
  split
  · exact .pure _
  · exact respects_guarded key i c (h c)

theorem respects_cached (key : Nat) (i : Identity) (c : FieldCase)
    {generate : FieldCase → Eval (Option String)} (h : ∀ c, Respects Memory.Like (generate c)) :
    Respects Memory.Like (cached key i c generate) := by
  unfold cached
  refine (respects_overridden key).bind fun v => ?_
  split
  · exact .pure _
  · refine comparable.read (fun cell => ?_) fun _ _ => rfl
    -- the value of the pass is the same in both
    split
    · exact .pure _
    · refine (respects_guarded key i _ (h _)).bind fun v => ?_
      exact (comparable.modify key (.keep _)).bind fun _ => .pure _

theorem respects_serve (key : Nat) (position : Int) :
    Respects Memory.Like (serve key position) := comparable.modify key (.serve position)

theorem respects_constantValue (key : Nat) (value : String) (c : FieldCase) :
    Respects Memory.Like (constantValue key value c) := by
  unfold constantValue
  split
  · exact .pure _
  · exact .pure _
  · exact (respects_serve key 0).bind fun _ => .pure _

theorem respects_fieldValue (key : Nat) (f : Field) (set : CharacterSet) (c : FieldCase) :
    Respects Memory.Like (fieldValue key f set c) := by
  unfold fieldValue
  refine comparable.read (fun cell => ?_) fun _ _ => rfl
  generalize (if c = .normal then (pendingCase? f cell.served).getD .normal else c) = c
  dsimp only
  split
  · refine (respects_serve key _).bind fun _ => (respects_draw _).bind fun r => ?_
    split
    · exact .pure _
    · exact .throw _
    · exact .throw _
  · refine (respects_draw _).bind fun r => ?_
    split
    · exact .pure _
    · exact .throw _
    · exact .throw _

section Asking

variable {s : Scope} {ask : Node → FieldCase → Eval (Option String)}
  (h : ∀ n c, Respects Memory.Like (ask n c))
include h

theorem respects_partValues (c : FieldCase) (parts : List Link) :
    Respects Memory.Like (s.partValues ask c parts) := by
  induction parts with
  | nil => exact .pure _
  | cons part parts ih =>
    rw [Scope.partValues]
    exact .follow (fun n => (h n c).bind fun _ => ih.bind fun _ => .pure _) part

theorem respects_isMandatory (rule : Config.Mandatory) :
    Respects Memory.Like (s.isMandatory ask rule) := by
  unfold Scope.isMandatory
  split
  · exact .pure _
  · cases rule with
    | fixed always => exact .pure _
    | whenPresent id =>
      exact (Respects.find s id).bind fun n => (h n .normal).bind fun _ => .pure _

theorem respects_decide (key : Nat) (rule : Config.Mandatory) :
    Respects Memory.Like (s.decide ask key rule) := by
  unfold Scope.decide
  refine (respects_isMandatory h rule).bind fun mandatory => ?_
  refine (comparable.modify key (.decide mandatory)).bind fun _ => ?_
  split
  · exact .pure _
  · refine comparable.read (fun cell => ?_) fun _ _ => rfl
    refine (respects_draw _).bind fun r => ?_
    exact (comparable.modify key (.choose _)).bind fun _ => .pure _

theorem respects_optionalValue (key : Nat) (child : Link) (rule : Config.Mandatory)
    (c : FieldCase) : Respects Memory.Like (s.optionalValue ask key child rule c) := by
  unfold Scope.optionalValue
  dsimp only
  have h_child : Respects Memory.Like (do
      let child ← s.resolve child
      let isPresent ← if c.isExplicit then pure true else s.decide ask key rule
      ask child (if isPresent then c else .null)) := by
    refine .follow (fun n => ?_) child
    dsimp only
    split
    · exact (Respects.pure _).bind fun _ => h n _
    · exact (respects_decide h key rule).bind fun _ => h n _
  split
  · exact .pure _
  · exact h_child

end Asking

/-- **Nodes do not see how many values a free node has used** of the overrides it once had. -/
theorem Node.value_respects (s : Scope) :
    ∀ fuel n c, Respects Memory.Like (Node.value s fuel n c)
  | 0, _, _ => .throw _
  | fuel + 1, n, c => by
    have h_ask := Node.value_respects s fuel
    rw [Node.value]
    unfold Node.answer
    split
    · exact respects_stateless _ _ c (respects_constantValue _ _)
    · exact respects_cached _ _ c (respects_fieldValue _ _ _)
    · refine respects_cached _ _ c fun c => ?_
      exact (respects_partValues h_ask c _).bind fun _ => .pure _
    · exact respects_cached _ _ c (respects_optionalValue h_ask _ _ _)
    · exact respects_stateless _ _ c fun c => .follow (fun n => h_ask n c) _

end Values

end Specimen
