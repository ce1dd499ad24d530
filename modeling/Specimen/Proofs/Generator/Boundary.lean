import Specimen.Proofs.Generator.Constraints

/-!
# Passes at a boundary

In a pass for a boundary the caches, the choices and the random stream make no difference: every
root gets the text that the configuration has at that boundary (`generate_boundary`). What carries
the proof is that whatever a node keeps in such a pass is the text of its constraint
(`Represents.KeepsTexts`). It holds at the beginning of the pass, as no node keeps anything, and
every answer preserves it.
-/

namespace Specimen

/-- Values of the field at a boundary depend on nothing else: it is a number, a choice, or a date
whose format is made of parts of dates. -/
def Config.FieldSpec.IsPlain : Config.FieldSpec → Prop
  | .number .. | .choice _ => True
  | .date _ _ format => ∀ f, DateFormat.parse (format.getD Field.standardFormat) = some f →
    f.isOfDates = true
  | .text .. | .pattern .. => False

/-- A plain field renders, and is neither a text nor a pattern. -/
theorem Config.FieldSpec.IsPlain.of_ofSpec {spec : Config.FieldSpec} (h : spec.IsPlain)
    {f : Field} (h_f : Field.ofSpec spec = .ok f) :
    f.Renders ∧ (∀ low high le, f ≠ .text low high le) ∧ ∀ plan, f ≠ .pattern plan := by
  cases Field.declared_of_ofSpec h_f with
  | text _ | pattern _ _ _ => exact h.elim
  | number _ | choice _ => exact ⟨trivial, by simp, by simp⟩
  | date _ _ _ h_format => exact ⟨h _ h_format, by simp, by simp⟩

/-- A plain field has a text at each boundary. -/
theorem Config.FieldSpec.IsPlain.exists_textAt {spec : Config.FieldSpec} (h : spec.IsPlain)
    {f : Field} (h_f : Field.ofSpec spec = .ok f) (c : FieldCase) : ∃ t, f.TextAt c t := by
  obtain ⟨h_renders, h_text, h_pattern⟩ := h.of_ofSpec h_f
  exact Field.exists_textAt h_renders h_text h_pattern c

namespace Generator

namespace Represents

variable {g : Generator} {c : Config} {tops : List Node} {b : FieldCase}

/-- No node is overridden, and what a node keeps is the text of its constraint. -/
def KeepsTexts (h : g.Represents c tops) (b : FieldCase) (m : Memory) : Prop := ∀ x n,
  h.NodeOf x n → (m.cell n.key).override = none ∧ ∀ v, (m.cell n.key).cache = some v →
    ∃ t, v = some t ∧ c.Evaluates b x.kind t

variable {h : g.Represents c tops}

theorem keepsTexts_iff {m : Memory} : h.KeepsTexts b m ↔
    h.Keeps (fun k v => ∃ t, v = some t ∧ c.Evaluates b k t) m := Iff.rfl

theorem KeepsTexts.keepsSame {m m' : Memory} (h_m : h.KeepsTexts b m) (h_same : m.KeepsSame m') :
    h.KeepsTexts b m' := keepsTexts_iff.2 ((keepsTexts_iff.1 h_m).keepsSame h_same)

/-- The answer is the text of the constraint, and still all that is kept are texts. -/
def AnswersTexts (h : g.Represents c tops) (b : FieldCase) : Asking := fun n b' m v m' =>
  b' = b → ∀ x, h.NodeOf x n → h.KeepsTexts b m →
    (∃ t, v = some t ∧ c.Evaluates b x.kind t) ∧ h.KeepsTexts b m'

/-- A node generates the text of its constraint. -/
theorem generates_texts (h_plain : ∀ p x spec, c.at? p = some x → x.kind = .field spec →
      spec.IsPlain) (h_b : b.isBoundary = true) {x : Config.Constraint} {n : Node}
    (h_n : h.NodeOf x n) {m m' : Memory} {v : Option String}
    (h_generates : g.scope.Generates (AnswersTexts h b) n b m v m') (h_m : h.KeepsTexts b m) :
    (∃ t, v = some t ∧ c.Evaluates b x.kind t) ∧ h.KeepsTexts b m' := by
  -- the ways that are left are those of a boundary
  have h_null : b ≠ .null := by rintro rfl; cases h_b
  have h_blank : b ≠ .blank := by rintro rfl; cases h_b
  have h_normal : b ≠ .normal := by rintro rfl; cases h_b
  cases h_generates with
  | constantNull h_kind => exact absurd rfl h_null
  | constantBlank h_kind => exact absurd rfl h_blank
  | constant h_kind _ _ =>
    rw [h_n.of_constant h_kind]
    exact ⟨⟨_, rfl, .constant⟩, h_m.keepsSame (.goesOn ((Memory.GoesOn.refl m).serve n.key 0))⟩
  | @field f set _ _ served text draws h_kind h_served h_text =>
    obtain ⟨p, spec, h_x, h_spec, h_field⟩ := h_n.of_field h_kind
    obtain ⟨t, h_t⟩ := (h_plain p x spec h_x h_spec).exists_textAt h_field b
    -- the case is a boundary, so it does not depend on what was served
    rw [Field.caseFor, if_neg h_normal] at h_text
    obtain ⟨h_eq, -⟩ := Prod.mk.inj ((h_t.generate_eq h_b set _).symm.trans h_text)
    obtain rfl := Except.ok.inj h_eq
    rw [h_spec, h_served]
    exact ⟨⟨t, rfl, .field h_field h_t⟩,
      h_m.keepsSame (.goesOn ((Memory.GoesOn.served m n.key f _).withDraws draws))⟩
  | combined h_kind h_parts =>
    obtain ⟨parts, ys, h_spec, h_ys, h_length, h_texts, h_some, h_m'⟩ :=
      h_n.answers_of_parts (fun y n' m v m' h_n' h_answer h_m => h_answer rfl y h_n' h_m)
        h_kind h_parts h_m
    rw [h_spec, h_some]
    exact ⟨⟨_, rfl, .combined h_ys h_length h_texts⟩, h_m'⟩
  | optionalNull h_kind => exact absurd rfl h_null
  | optionalExplicit h_kind _ _ h_target h_ask =>
    obtain ⟨child, y, h_spec, h_y, h_n'⟩ := h_n.of_optional h_kind h_target
    obtain ⟨⟨t, h_v, h_t⟩, h_m'⟩ := h_ask rfl y h_n' h_m
    rw [h_spec]
    exact ⟨⟨t, h_v, .optional h_y h_t⟩, h_m'⟩
  | optionalDecided h_kind _ _ _ => exact absurd rfl h_normal
  | source h_kind h_target h_ask =>
    obtain ⟨child, y, h_spec, h_y, h_n'⟩ := h_n.of_source h_kind h_target
    obtain ⟨⟨t, h_v, h_t⟩, h_m'⟩ := h_ask rfl y h_n' h_m
    rw [h_spec]
    exact ⟨⟨t, h_v, .source h_y h_t⟩, h_m'⟩

/-- **One answer.** If the nodes that are asked answer with texts, so does the node. -/
theorem answers_texts (h_plain : ∀ p x spec, c.at? p = some x → x.kind = .field spec →
      spec.IsPlain) (h_b : b.isBoundary = true) (n : Node) (b' : FieldCase) (m : Memory)
    (v : Option String) (m' : Memory)
    (h_answers : g.scope.Answers (AnswersTexts h b) n b' m v m') :
    AnswersTexts h b n b' m v m' := by
  rintro rfl x h_n h_m
  -- at a boundary values are computed for the case that was asked for, and answered as they are
  have h_derive : ∀ v, derive b' v = v := by
    intro v
    cases b' <;> first | rfl | cases h_b
  have h_computed : b'.computed = b' := by
    cases b' <;> first | rfl | cases h_b
  refine Keeps.answer (Q := fun _ v => ∃ t, v = some t ∧ c.Evaluates b' x.kind t)
    (keepsTexts_iff.1 h_m) h_n (fun b'' m v m' h_b'' h_generates h_m => ?_)
    (fun v h_v => (h_derive v).symm ▸ h_v) (fun v h_v => (h_derive v).symm ▸ ⟨h_v, h_v⟩) h_answers
  obtain rfl : b'' = b' := h_b''.elim And.right fun h_eq => h_eq.2.trans h_computed
  exact generates_texts h_plain h_b h_n h_generates h_m

/-- What is asked of a root in a pass at a boundary. -/
theorem value_texts (h_plain : ∀ p x spec, c.at? p = some x → x.kind = .field spec →
      spec.IsPlain) (h_b : b.isBoundary = true) {id : String} (h_id : id ∈ g.roots) {m m' : Memory}
    {v : Option String} (h_value : g.value id b m = (.ok v, m')) (h_m : h.KeepsTexts b m) :
    (∃ t, v = some t ∧ c.RootText b id t) ∧ h.KeepsTexts b m' := by
  obtain ⟨n, x, h_get, h_n, h_x, h_own⟩ := h.exists_nodeOf_root h_id
  rw [value, find_eq h_get, pure_bind] at h_value
  have h_answer :=
    (Node.value_induction (answers_texts (h := h) h_plain h_b) g.fuel n b m).of_ok h_value
  obtain ⟨⟨t, h_t, h_evaluates⟩, h_m'⟩ := h_answer rfl x h_n h_m
  exact ⟨⟨t, h_t, x, h_x, h_own, h_evaluates⟩, h_m'⟩

end Represents

/-- Every field of a configuration is plain. -/
def PlainFields (c : Config) : Prop :=
  ∀ p x spec, c.at? p = some x → x.kind = .field spec → spec.IsPlain

/-- No root is indexed. -/
def Unindexed (g : Generator) : Prop := ∀ id ∈ g.roots, g.indexed.contains id = false

/-- If the options name no id, no root is indexed. -/
theorem unindexed_of_ofConfig {c : Config} {o : GeneratorOptions} {random : UInt64} {g : Generator}
    (h : ofConfig c o random = .ok g) (h_none : o.indexed = .empty) : g.Unindexed := by
  intro id _
  rw [(ofConfig_represents h).2.2, h_none]
  rfl

/-- Plain fields can write all their values. -/
theorem PlainFields.fieldsRender {c : Config} (h : PlainFields c) : c.FieldsRender :=
  fun p x spec _ h_x h_kind h_field => ((h p x spec h_x h_kind).of_ofSpec h_field).1

/-- A pass at a boundary stores exactly the texts of the roots. -/
theorem ends_generate_boundary {c : Config} {o : GeneratorOptions} {random : UInt64}
    {g : Generator} (h : ofConfig c o random = .ok g) (h_plain : PlainFields c)
    (h_indexed : g.Unindexed) {m : Memory} (h_m : g.Reachable m) (h_free : Unfixed m)
    {b : FieldCase} (h_b : b.isBoundary = true) : Ends (g.generate b) m
      (fun d _ => (∀ id ∈ g.roots, ∃ t, c.RootText b id t) ∧
        ∀ id v, d.values.get? id = some v ↔ ∃ t, v = some t ∧ c.RootText b id t)
      fun _ _ => False := by
  obtain ⟨⟨tops, h_of⟩, -⟩ := ofConfig_represents h
  refine ends_iff.2 ⟨fun d m' h_pass => ?_, fun f m' h_fails => ?_⟩
  · obtain ⟨h_texts, h_all⟩ := h_of.generate_right h_indexed
      (I := h_of.KeepsTexts b)
      (fun id h_id m v m' h_value h_m => Represents.value_texts h_plain h_b h_id h_value h_m)
      (Represents.keepsTexts_iff.2 (.start h_free)) h_pass
    -- Every root has a value, and that value is a text of its constraint.
    have h_root : ∀ id ∈ g.roots, ∃ t, d.values.get? id = some (some t) ∧ c.RootText b id t := by
      intro id h_id
      obtain ⟨v, h_v⟩ := h_all id h_id
      obtain ⟨t, rfl, h_t⟩ := h_texts id v h_v
      exact ⟨t, h_v, h_t⟩
    refine ⟨fun id h_id => (h_root id h_id).imp fun _ => And.right,
      fun id v => ⟨h_texts id v, ?_⟩⟩
    rintro ⟨t, rfl, h_t⟩
    have h_top : ∃ x ∈ c.constraints, x.id = some id := h_t.imp fun _ h_x => ⟨h_x.1, h_x.2.1⟩
    obtain ⟨t', h_get, h_t'⟩ := h_root id (h_of.mem_roots_iff.2 h_top)
    rw [h_get, h_t.unique h_of.wellFormed.unique_ids h_t']
  · exact (h_of.generate_settles (h_of.crashesOnly_of_fieldsRender h_plain.fieldsRender) b
      (h_of.quiet_of_reachable h_m)).answers.of_error h_fails

/-- **Passes at a boundary.** If the fields are numbers, choices or dates without times of day, no
root is indexed and no node is overridden, then a pass at a boundary stores for every root the text
that the configuration has for it, and nothing else. So it stores the same after other requests, for
other options and random streams, and when the constraints are declared in another order. -/
theorem generate_boundary {c : Config} {o : GeneratorOptions} {random : UInt64} {g : Generator}
    (h : ofConfig c o random = .ok g) (h_plain : PlainFields c) (h_indexed : g.Unindexed)
    {m : Memory} (h_m : g.Reachable m) (h_free : Unfixed m) {b : FieldCase}
    (h_b : b ∈ [FieldCase.min, .avg, .max]) :
    ∃ d m', g.generate b m = (.ok d, m') ∧ (∀ id ∈ g.roots, ∃ t, c.RootText b id t) ∧
      (∀ id v, d.values.get? id = some v ↔ ∃ t, v = some t ∧ c.RootText b id t) ∧
      ∀ c' o' random' g' m₁ d' m₂, ofConfig c' o' random' = .ok g' →
        c.constraints.Perm c'.constraints → g'.Unindexed → g'.Reachable m₁ → Unfixed m₁ →
          g'.generate b m₁ = (.ok d', m₂) → d'.values = d.values := by
  have h_boundary : b.isBoundary = true := List.elem_iff.2 h_b
  have h_ends := ends_generate_boundary h h_plain h_indexed h_m h_free h_boundary
  rcases h_eq : g.generate b m with ⟨f | d, m'⟩
  · exact (h_ends.of_error h_eq).elim
  · obtain ⟨h_roots, h_values⟩ := h_ends.of_ok h_eq
    refine ⟨d, m', rfl, h_roots, h_values, ?_⟩
    intro c' o' random' g' m₁ d' m₂ h' h_perm h_indexed' h_m₁ h_free' h_eq'
    -- the other configuration has the same constraints at other places
    have h_plain' : PlainFields c' := by
      intro p x spec h_x h_kind
      obtain ⟨y, h_y, h_inside⟩ := Config.exists_at?_iff.1 ⟨p, h_x⟩
      obtain ⟨q, h_q⟩ := Config.exists_at?_iff.2 ⟨y, h_perm.mem_iff.2 h_y, h_inside⟩
      exact h_plain q x spec h_q h_kind
    have h_values' :=
      ((ends_generate_boundary h' h_plain' h_indexed' h_m₁ h_free' h_boundary).of_ok h_eq').2
    have h_same : ∀ id t, c'.RootText b id t ↔ c.RootText b id t := fun id t =>
      ⟨fun h_t => h_t.of_perm h_perm.symm, fun h_t => h_t.of_perm h_perm⟩
    refine Dict.ext_get? fun id => Option.ext fun v => ?_
    rw [h_values', h_values]
    simp only [h_same]

theorem plainFields_numberAndCopy : PlainFields numberAndCopy := by
  intro p x spec h_x h_kind
  rcases at?_numberAndCopy h_x with ⟨-, h_field⟩ | ⟨-, h_optional⟩
  · rw [h_kind] at h_field
    cases h_field
    trivial
  · rw [h_kind] at h_optional
    cases h_optional

theorem generate_boundary_numberAndCopy : ∃ g, ofConfig numberAndCopy {} 0 = .ok g ∧
    PlainFields numberAndCopy ∧ g.Unindexed ∧ g.Reachable (g.freshMemory.withDraws default) ∧
    Unfixed (g.freshMemory.withDraws default) ∧ FieldCase.max ∈ [FieldCase.min, .avg, .max] ∧
    ∃ d m', g.generate .max (g.freshMemory.withDraws default) = (.ok d, m') ∧
      ∀ id v, d.values.get? id = some v ↔ ∃ t, v = some t ∧ numberAndCopy.RootText .max id t := by
  obtain ⟨g, h_ok, -⟩ := exists_ofConfig_numberAndCopy
  have h_indexed : g.Unindexed := by
    intro id _
    rw [(ofConfig_represents h_ok).2.2]
    rfl
  have h_free : Unfixed (g.freshMemory.withDraws default) := fun _ => rfl
  have h_max : FieldCase.max ∈ [FieldCase.min, .avg, .max] := by decide
  obtain ⟨d, m', h_eq, -, h_values, -⟩ := generate_boundary h_ok plainFields_numberAndCopy h_indexed
    (.start default) h_free h_max
  exact ⟨g, h_ok, plainFields_numberAndCopy, h_indexed, .start default, h_free, h_max, d, m', h_eq,
    h_values⟩

end Generator

end Specimen
