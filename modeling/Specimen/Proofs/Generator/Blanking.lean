import Specimen.Proofs.Config.Lengths
import Specimen.Proofs.Generator.Boundary
import Specimen.Proofs.Generator.Lockstep

/-!
# Passes for null and blank

A pass for null stores null for every root. In a pass for blank, nodes that keep their value compute
it in the middle of the ranges and blank it then, while constants and sources pass the request on.
So what a node keeps may be its value or as many spaces, depending on who asked it first. But this
makes no difference for lengths, which the configuration alone determines (`Config.Measures`): a
blank pass stores as many spaces as a pass for the middle has characters, in whatever run
(`generate_null_blank`).

What carries the proof is that whatever a node keeps in such a pass has the length of its
constraint (`Config.Fits`), and that every answer preserves this.
-/

namespace Specimen

namespace Config

/-- A value is as long as the configuration says, and if it was asked for blank, it is made of
spaces only. -/
def Fits (c : Config) (b : FieldCase) (k : Kind) (v : Option String) : Prop :=
  ∃ t, v = some t ∧ c.Measures k t.length ∧ (b = .blank → ∀ ch ∈ t.toList, ch = ' ')

namespace Fits

variable {c : Config} {k : Kind} {b : FieldCase} {v : Option String}

/-- What is asked for a text only has to have the right length. -/
theorem of_length {t : String} (h : c.Measures k t.length) (h_b : b ≠ .blank) :
    c.Fits b k (some t) := ⟨t, rfl, h, fun h_blank => absurd h_blank h_b⟩

theorem blanked {t : String} (h : c.Measures k t.length) :
    c.Fits b k (some (Text.blanked t)) := by
  refine ⟨Text.blanked t, rfl, ?_, fun _ ch h_ch => ?_⟩
  · rw [← String.length_toList, Text.length_blanked]
    exact h
  · rw [Text.toList_blanked] at h_ch
    exact List.eq_of_mem_replicate h_ch

/-- Deriving an answer from what is kept keeps the length. -/
theorem derive (h : c.Fits .avg k v) (h_b : b = .avg ∨ b = .blank) :
    c.Fits b k (derive b v) := by
  obtain ⟨t, rfl, h_t, -⟩ := h
  rcases h_b with rfl | rfl
  · exact of_length h_t nofun
  · exact blanked h_t

/-- Spaces can be kept as well as a text. -/
theorem to_avg (h : c.Fits b k v) : c.Fits .avg k v := by
  obtain ⟨t, rfl, h_t, -⟩ := h
  exact of_length h_t nofun

/-- What takes its value from a part fits if the part does. -/
theorem map {k' : Kind} (h : c.Fits b k v) (h_kind : ∀ n, c.Measures k n → c.Measures k' n) :
    c.Fits b k' v := by
  obtain ⟨t, h_v, h_t, h_blank⟩ := h
  exact ⟨t, h_v, h_kind _ h_t, h_blank⟩

end Fits

end Config

namespace Generator

namespace Represents

variable {g : Generator} {c : Config} {tops : List Node} {b : FieldCase} {m m' : Memory}
  {v : Option String}

/-! ### Null -/

/-- Who is asked for null answers null. -/
def AnswersNull : Asking := fun _ b m v _ => b = .null → Unfixed m → v = none

/-- **One answer.** Null is passed on, or derived from whatever is kept. -/
theorem answers_null (n : Node) (b : FieldCase) (m : Memory) (v : Option String) (m' : Memory)
    (h_answers : g.scope.Answers AnswersNull n b m v m') : AnswersNull n b m v m' := by
  rintro rfl h_free
  cases h_answers with
  | overridden h_override =>
    rw [h_free n.key] at h_override
    cases h_override
  | remembered _ _ _ | computed _ _ _ _ => rfl
  | stateless _ h_kind h_computes =>
    obtain ⟨-, h_generates⟩ := h_computes
    have h_begun : Unfixed (m.begun n.key n.identity .null) := fun key =>
      ((Memory.KeepsSame.begun m n.key n.identity .null).override key).trans (h_free key)
    cases h_generates with
    | constantNull _ => rfl
    | constant _ h_null _ => exact absurd rfl h_null
    | field h_field _ _ => rw [h_field] at h_kind; cases h_kind
    | combined h_combined _ => rw [h_combined] at h_kind; cases h_kind
    | optionalNull _ => rfl
    | optionalExplicit _ h_null _ _ _ => exact absurd rfl h_null
    | source _ _ h_child => exact h_child rfl h_begun

/-! ### Lengths -/

/-- The answer fits the constraint, and still all that is kept has the right length. -/
def AnswersFitting (h : g.Represents c tops) : Asking := fun n b m v m' =>
  b = .avg ∨ b = .blank → ∀ x, h.NodeOf x n → h.Keeps (c.Fits .avg) m →
    c.Fits b x.kind v ∧ h.Keeps (c.Fits .avg) m'

variable {h : g.Represents c tops} (h_pattern : c.PatternFree)
include h_pattern

/-- A node that computes generates what fits its constraint. Only stateless ones do so for
blank. -/
theorem generates_fitting {x : Config.Constraint} {n : Node} (h_n : h.NodeOf x n)
    (h_b : b = .avg ∨ b = .blank ∧ n.kind.isStateless = true)
    (h_generates : g.scope.Generates (AnswersFitting h) n b m v m')
    (h_m : h.Keeps (c.Fits .avg) m) :
    c.Fits b x.kind v ∧ h.Keeps (c.Fits .avg) m' := by
  have h_asked : b = .avg ∨ b = .blank := h_b.imp_right And.left
  have h_null : b ≠ .null := by rcases h_asked with rfl | rfl <;> nofun
  -- nodes that keep their value compute it in the middle of the ranges
  have h_avg : n.kind.isStateless = false → b = .avg := by
    intro h_kind
    rcases h_b with h_avg | ⟨-, h_stateless⟩
    · exact h_avg
    · rw [h_kind] at h_stateless
      cases h_stateless
  cases h_generates with
  | constantNull _ | optionalNull _ => exact absurd rfl h_null
  | constantBlank h_kind =>
    rw [h_n.of_constant h_kind]
    exact ⟨.blanked .constant, h_m⟩
  | constant h_kind _ h_blank =>
    rw [h_n.of_constant h_kind]
    exact ⟨.of_length .constant h_blank,
      h_m.keepsSame (.goesOn ((Memory.GoesOn.refl m).serve n.key 0))⟩
  | @field f set _ _ served text draws h_kind h_served h_text =>
    obtain rfl := h_avg (by rw [h_kind]; rfl)
    obtain ⟨p, spec, h_x, h_spec, h_field⟩ := h_n.of_field h_kind
    have h_plain : ∀ plan, f ≠ .pattern plan := by
      rintro plan rfl
      obtain ⟨expression, maxRepeat, rfl⟩ := Field.eq_pattern_of_ofSpec h_field
      exact h_pattern p x expression maxRepeat h_x h_spec
    have h_shows : f.Shows .standard text :=
      Field.shows_of_generate rfl (congrArg Prod.fst h_text)
    rw [h_spec, h_served]
    exact ⟨.of_length (.field h_field h_plain h_shows) nofun,
      h_m.keepsSame (.goesOn ((Memory.GoesOn.served m n.key f _).withDraws draws))⟩
  | @combined links separator _ _ values _ h_kind h_parts =>
    obtain rfl := h_avg (by rw [h_kind]; rfl)
    obtain ⟨parts, ys, h_spec, h_ys, h_length, h_lengths, h_some, h_m'⟩ :=
      h_n.answers_of_parts (P := fun k t => c.Measures k t.length)
        (fun y n' m v m' h_n' h_answer h_m => by
          obtain ⟨⟨t, h_v, h_t, -⟩, h_m'⟩ := h_answer (.inl rfl) y h_n' h_m
          exact ⟨⟨t, h_v, h_t⟩, h_m'⟩)
        h_kind h_parts h_m
    -- the parts answer spaces or texts, but as many characters in either case
    rw [h_spec, h_some]
    exact ⟨.of_length (.joined h_ys h_length h_lengths) nofun, h_m'⟩
  | optionalExplicit h_kind _ _ h_target h_ask =>
    obtain ⟨child, y, h_spec, h_y, h_n'⟩ := h_n.of_optional h_kind h_target
    obtain ⟨h_fits, h_m'⟩ := h_ask h_asked y h_n' h_m
    rw [h_spec]
    exact ⟨h_fits.map fun _ h_measures => .optional h_y h_measures, h_m'⟩
  | optionalDecided _ _ _ _ => rcases h_asked with h_eq | h_eq <;> cases h_eq
  | source h_kind h_target h_ask =>
    obtain ⟨child, y, h_spec, h_y, h_n'⟩ := h_n.of_source h_kind h_target
    obtain ⟨h_fits, h_m'⟩ := h_ask h_asked y h_n' h_m
    rw [h_spec]
    exact ⟨h_fits.map fun _ h_measures => .source h_y h_measures, h_m'⟩

/-- **One answer.** If the nodes that are asked answer with what fits, so does the node. -/
theorem answers_fitting (n : Node) (b : FieldCase) (m : Memory) (v : Option String) (m' : Memory)
    (h_answers : g.scope.Answers (AnswersFitting h) n b m v m') :
    AnswersFitting h n b m v m' := by
  intro h_b x h_n h_m
  have h_computed : b.computed = .avg := by rcases h_b with rfl | rfl <;> rfl
  refine h_m.answer (Q := fun b v => c.Fits b x.kind v) h_n
    (fun b' m v m' h_b' h_generates h_m => ?_) (fun v h_v => h_v.derive h_b) (fun v h_v => ?_)
    h_answers
  · refine generates_fitting h_pattern h_n ?_ h_generates h_m
    rcases h_b' with ⟨h_kind, rfl⟩ | ⟨-, rfl⟩
    · exact h_b.imp_right fun h_blank => ⟨h_blank, h_kind⟩
    · exact .inl h_computed
  · -- what is kept are the spaces, if the node is asked for blank first
    rw [h_computed] at h_v
    exact ⟨h_v.derive h_b, (h_v.derive h_b).to_avg⟩

/-- What is asked of a root in a pass for blank or for the middle of the ranges. -/
theorem value_fitting (h_b : b = .avg ∨ b = .blank) {id : String} (h_id : id ∈ g.roots)
    (h_value : g.value id b m = (.ok v, m')) (h_m : h.Keeps (c.Fits .avg) m) :
    (∃ x ∈ c.constraints, x.id = some id ∧ c.Fits b x.kind v) ∧ h.Keeps (c.Fits .avg) m' := by
  obtain ⟨n, x, h_get, h_n, h_x, h_own⟩ := h.exists_nodeOf_root h_id
  rw [value, find_eq h_get, pure_bind] at h_value
  have h_answer :=
    (Node.value_induction (answers_fitting (h := h) h_pattern) g.fuel n b m).of_ok h_value
  obtain ⟨h_fits, h_m'⟩ := h_answer h_b x h_n h_m
  exact ⟨⟨x, h_x, h_own, h_fits⟩, h_m'⟩

end Represents

/-! ### Passes -/

section Passes

variable {c : Config} {o : GeneratorOptions} {random : UInt64} {g : Generator}
  (h : ofConfig c o random = .ok g) (h_renders : c.FieldsRender) {m : Memory}
  (h_m : g.Reachable m)
include h h_renders h_m

/-- Where no field breaks off, a pass gives a data set. -/
theorem exists_generate (b : FieldCase) : ∃ d m', g.generate b m = (.ok d, m') := by
  obtain ⟨⟨tops, h_of⟩, -⟩ := ofConfig_represents h
  obtain ⟨d, h_ok, -⟩ := (h_of.generate_settles (h_of.crashesOnly_of_fieldsRender h_renders) b
    (h_of.quiet_of_reachable h_m)).answers.exists_ok
  exact ⟨d, _, h_ok⟩

variable (h_indexed : g.Unindexed) (h_free : Unfixed m)
include h_indexed h_free

/-- A pass for null stores null for every root. -/
theorem generate_null : ∃ d m', g.generate .null m = (.ok d, m') ∧
    ∀ id ∈ g.roots, d.values.get? id = some none := by
  obtain ⟨d, m', h_pass⟩ := exists_generate h h_renders h_m .null
  obtain ⟨⟨tops, h_of⟩, -⟩ := ofConfig_represents h
  refine ⟨d, m', h_pass, ?_⟩
  have h_settled := settled_passBegun tops m
  obtain ⟨h_null, h_all⟩ := h_of.generate_right h_indexed
    (I := fun m => m.Quiet ∧ Unfixed m) (P := fun _ v => v = none)
    (by
      rintro id h_id m v m' h_value ⟨h_quiet, h_free⟩
      have h_settles := (h_of.value_settles (crashesOnly_true _) (h_of.mem_ids_of_mem_roots h_id)
        .null h_quiet).of_ok h_value
      obtain ⟨n, -, h_get, -⟩ := h_of.get?_root h_id
      rw [value, find_eq h_get, pure_bind] at h_value
      have h_answer := (Node.value_induction Represents.answers_null g.fuel n .null m).of_ok h_value
      exact ⟨h_answer rfl h_free, h_settles.quiet h_quiet, h_free.of_settled h_settles⟩)
    ⟨h_settled.quiet (h_of.quiet_of_reachable h_m), h_free.of_settled h_settled⟩ h_pass
  intro id h_id
  obtain ⟨v, h_v⟩ := h_all id h_id
  rw [h_v, h_null id v h_v]

/-- A pass for blank or for the middle of the ranges stores for every root a text of its length,
and the one for blank only spaces. -/
theorem generate_fitting (h_pattern : c.PatternFree) {b : FieldCase}
    (h_b : b = .avg ∨ b = .blank) : ∃ d m', g.generate b m = (.ok d, m') ∧
      ∀ id ∈ g.roots, ∃ t, d.values.get? id = some (some t) ∧ c.RootLength id t.length ∧
        (b = .blank → ∀ ch ∈ t.toList, ch = ' ') := by
  obtain ⟨d, m', h_pass⟩ := exists_generate h h_renders h_m b
  obtain ⟨⟨tops, h_of⟩, -⟩ := ofConfig_represents h
  refine ⟨d, m', h_pass, fun id h_id => ?_⟩
  obtain ⟨h_fits, h_all⟩ := h_of.generate_right h_indexed (I := h_of.Keeps (c.Fits .avg))
    (P := fun id v => ∃ x ∈ c.constraints, x.id = some id ∧ c.Fits b x.kind v)
    (fun id h_id m v m' h_value h_m =>
      Represents.value_fitting h_pattern h_b h_id h_value h_m)
    (.start h_free) h_pass
  obtain ⟨v, h_v⟩ := h_all id h_id
  obtain ⟨x, h_x, h_own, t, rfl, h_t, h_blank⟩ := h_fits id v h_v
  exact ⟨t, h_v, ⟨x, h_x, h_own, h_t⟩, h_blank⟩

end Passes

/-- **Null and blank.** Let there be no patterns, and let the fields be able to write their values.
If no root is indexed and no node is overridden, a pass for null stores null for every root, and a
pass for blank as many spaces as a pass for the middle of the ranges stores characters. It may do so
after other requests, for other options and random streams, and when the constraints are declared in
another order. -/
theorem generate_null_blank {c : Config} {o : GeneratorOptions} {random : UInt64} {g : Generator}
    (h : ofConfig c o random = .ok g) (h_pattern : c.PatternFree) (h_renders : c.FieldsRender)
    (h_indexed : g.Unindexed) {m : Memory} (h_m : g.Reachable m) (h_free : Unfixed m) :
    (∃ d m', g.generate .null m = (.ok d, m') ∧ ∀ id ∈ g.roots, d.values.get? id = some none) ∧
      ∃ d m', g.generate .blank m = (.ok d, m') ∧
        ∀ c' o' random' g' m₁, ofConfig c' o' random' = .ok g' →
          c.constraints.Perm c'.constraints → g'.Unindexed → g'.Reachable m₁ → Unfixed m₁ →
            ∃ d' m₂, g'.generate .avg m₁ = (.ok d', m₂) ∧ ∀ id ∈ g.roots, ∃ t t',
              d.values.get? id = some (some t) ∧ d'.values.get? id = some (some t') ∧
                (∀ ch ∈ t.toList, ch = ' ') ∧ t.length = t'.length := by
  refine ⟨generate_null h h_renders h_m h_indexed h_free, ?_⟩
  obtain ⟨d, m', h_pass, h_blank⟩ :=
    generate_fitting h h_renders h_m h_indexed h_free h_pattern (.inr rfl)
  refine ⟨d, m', h_pass, fun c' o' random' g' m₁ h' h_perm h_indexed' h_m₁ h_free' => ?_⟩
  obtain ⟨d', m₂, h_pass', h_avg⟩ :=
    generate_fitting h' (h_renders.of_perm h_perm) h_m₁ h_indexed' h_free'
      (h_pattern.of_perm h_perm) (.inl rfl)
  refine ⟨d', m₂, h_pass', fun id h_id => ?_⟩
  -- the roots are the same, and each has the same length in both configurations
  obtain ⟨⟨tops, h_of⟩, -⟩ := ofConfig_represents h
  obtain ⟨⟨tops', h_of'⟩, -⟩ := ofConfig_represents h'
  have h_id' : id ∈ g'.roots := by
    obtain ⟨x, h_x, h_own⟩ := h_of.mem_roots_iff.1 h_id
    exact h_of'.mem_roots_iff.2 ⟨x, h_perm.mem_iff.1 h_x, h_own⟩
  obtain ⟨t, h_t, h_length, h_spaces⟩ := h_blank id h_id
  obtain ⟨t', h_t', h_length', -⟩ := h_avg id h_id'
  exact ⟨t, t', h_t, h_t', h_spaces rfl,
    (h_length.of_perm h_perm).unique h_of'.wellFormed.unique_ids h_length'⟩

/-- The number and its label, with the label first. -/
def labelAndNumber : Config :=
  { numberAndLabel with constraints := numberAndLabel.constraints.reverse }

theorem exists_ofConfig_labelAndNumber : ∃ g, ofConfig labelAndNumber {} 1 = .ok g := by
  have h_some : (ofConfig labelAndNumber {} 1).toOption.map (fun _ => ()) = some () := by
    decide +kernel
  obtain ⟨g, h_ok, -⟩ := exists_ok_of_map h_some
  exact ⟨g, h_ok⟩

theorem patternFree_numberAndLabel : numberAndLabel.PatternFree := by
  intro p x expression maxRepeat h_x h_kind
  cases (kind_numberAndLabel h_x).1 _ h_kind

/-- In one run the number is asked first, so that the label comes from a blanked number. In the
other one the label is asked first. -/
theorem generate_null_blank_numberAndLabel : ∃ g g', ofConfig numberAndLabel {} 0 = .ok g ∧
    ofConfig labelAndNumber {} 1 = .ok g' ∧ numberAndLabel.PatternFree ∧
    numberAndLabel.FieldsRender ∧ g.Unindexed ∧ g'.Unindexed ∧
    g.Reachable (g.freshMemory.withDraws default) ∧ Unfixed (g.freshMemory.withDraws default) ∧
    numberAndLabel.constraints.Perm labelAndNumber.constraints ∧
    g'.Reachable (g'.freshMemory.withDraws default) ∧
    Unfixed (g'.freshMemory.withDraws default) ∧
    ∃ d d' m' m₂, g.generate .blank (g.freshMemory.withDraws default) = (.ok d, m') ∧
      g'.generate .avg (g'.freshMemory.withDraws default) = (.ok d', m₂) ∧
      ∀ id ∈ g.roots, ∃ t t', d.values.get? id = some (some t) ∧
        d'.values.get? id = some (some t') ∧ (∀ ch ∈ t.toList, ch = ' ') ∧
          t.length = t'.length := by
  obtain ⟨g, h_ok⟩ := exists_ofConfig_numberAndLabel
  obtain ⟨g', h_ok'⟩ := exists_ofConfig_labelAndNumber
  have h_indexed : g.Unindexed := unindexed_of_ofConfig h_ok rfl
  have h_indexed' : g'.Unindexed := unindexed_of_ofConfig h_ok' rfl
  have h_free : Unfixed (g.freshMemory.withDraws default) := fun _ => rfl
  have h_free' : Unfixed (g'.freshMemory.withDraws default) := fun _ => rfl
  have h_perm : numberAndLabel.constraints.Perm labelAndNumber.constraints :=
    (List.reverse_perm _).symm
  obtain ⟨-, d, m', h_pass, h_runs⟩ := generate_null_blank h_ok patternFree_numberAndLabel
    fieldsRender_numberAndLabel h_indexed (.start default) h_free
  obtain ⟨d', m₂, h_pass', h_lengths⟩ :=
    h_runs labelAndNumber {} 1 g' _ h_ok' h_perm h_indexed' (.start default) h_free'
  exact ⟨g, g', h_ok, h_ok', patternFree_numberAndLabel, fieldsRender_numberAndLabel, h_indexed,
    h_indexed', .start default, h_free, h_perm, .start default, h_free', d, d', m', m₂, h_pass,
    h_pass', h_lengths⟩

end Generator

end Specimen
