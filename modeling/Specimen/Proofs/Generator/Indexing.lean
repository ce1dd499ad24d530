import Specimen.Proofs.Generator.Session

/-!
# Numbers of data sets

An indexed root has the number of the data set appended to its text, and nothing in between. A
generator with indexed roots goes along with the one that has none: it gives the same data sets up
to these numbers, which ascend from one data set to the next whatever is requested in between
(`Generator.Session.indexed_texts`).

The numbers do not keep texts apart. Two of them are the same if the earlier value has further
digits that the number of the later data set makes up for, as a value of 11 in the first data set
and one of 1 in the eleventh (`Generator.indexed_texts_coincide`).
-/

namespace Specimen

/-! ### Texts with numbers -/

/-- Of two texts that are the same, the one with the shorter end has the longer beginning. -/
theorem append_eq_append_iff_of_length {a b x y : String} (h : x.length ≤ y.length) :
    a ++ x = b ++ y ↔ ∃ t, a = b ++ t ∧ y = t ++ x := by
  constructor
  · intro h_eq
    have h_lists : a.toList ++ x.toList = b.toList ++ y.toList := by
      rw [← String.toList_append, h_eq, String.toList_append]
    rcases List.append_eq_append_iff.1 h_lists with ⟨t, h_b, h_x⟩ | ⟨t, h_a, h_y⟩
    · -- the ends are equally long then
      have h_nil : t = [] := by
        have h_length := congrArg List.length h_x
        rw [List.length_append, String.length_toList, String.length_toList] at h_length
        exact List.length_eq_zero_iff.1 (by omega)
      rw [h_nil, List.append_nil] at h_b
      rw [h_nil, List.nil_append] at h_x
      refine ⟨"", ?_, ?_⟩
      · rw [String.append_empty, String.toList_injective h_b]
      · rw [String.empty_append, String.toList_injective h_x]
    · refine ⟨.ofList t, String.toList_injective ?_, String.toList_injective ?_⟩
      · rw [h_a, String.toList_append, String.toList_ofList]
      · rw [h_y, String.toList_append, String.toList_ofList]
  · rintro ⟨t, rfl, rfl⟩
    rw [String.append_assoc]

theorem length_toString_le {i j : Nat} (h : i ≤ j) :
    (toString i).length ≤ (toString j).length := by
  have h_pos : 0 < (Nat.toDigits 10 j).length := Nat.length_toDigits_pos
  have h_j : j < 10 ^ (Nat.toDigits 10 j).length :=
    (Nat.length_toDigits_le_iff (by omega) h_pos).1 (Nat.le_refl _)
  rw [Nat.toString_eq_ofList_toDigits, Nat.toString_eq_ofList_toDigits, String.length_ofList,
    String.length_ofList]
  exact (Nat.length_toDigits_le_iff (by omega) h_pos).2 (by omega)

theorem eq_of_toString_eq {i j : Nat} (h : toString i = toString j) : i = j := by
  rw [Nat.toString_eq_ofList_toDigits, Nat.toString_eq_ofList_toDigits, String.ofList_inj] at h
  calc i
    _ = Nat.ofDigitChars 10 (Nat.toDigits 10 i) 0 := Nat.ofDigitChars_ten_toDigits.symm
    _ = Nat.ofDigitChars 10 (Nat.toDigits 10 j) 0 := by rw [h]
    _ = j := Nat.ofDigitChars_ten_toDigits

/-- **When numbers do not keep texts apart**: if the text with the lower number goes on with what
the higher number begins with. -/
theorem append_number_eq_iff {v w : String} {i j : Nat} (h : i < j) :
    v ++ toString i = w ++ toString j ↔
      ∃ t, t ≠ "" ∧ v = w ++ t ∧ toString j = t ++ toString i := by
  rw [append_eq_append_iff_of_length (length_toString_le (Nat.le_of_lt h))]
  refine exists_congr fun t => (and_iff_right_of_imp ?_).symm
  rintro ⟨-, h_j⟩ rfl
  rw [String.empty_append] at h_j
  exact Nat.ne_of_gt h (eq_of_toString_eq h_j)

/-! ### The passes are counted -/

theorem Memory.served_passes (m : Memory) (key : Nat) (f : Field) (c : FieldCase) :
    (m.served key f c).passes = m.passes := by
  rw [Memory.served]
  split <;> rfl

/-- Generating without asking begins no pass. -/
theorem Scope.Moves.passes_eq {s : Scope} {n : Node} {c : FieldCase}
    {stage stage' : Evaluation.Stage} {control control' : Evaluation.Control} {m m' : Memory}
    (h : s.Moves n c stage control m stage' control' m') : m'.passes = m.passes := by
  cases h with
  | constant _ => cases c <;> rfl
  | @field f set _ _ =>
    refine Ends.state (P := fun m' : Memory => m'.passes = m.passes) ?_
    rw [Specimen.ends_fieldValue (Prod.eta _).symm]
    exact ⟨fun _ _ => m.served_passes _ _ _, fun _ _ => m.served_passes _ _ _⟩
  | @decided _ mandatory _ => cases mandatory <;> rfl
  | _ => rfl

/-- No step of an evaluation begins a pass. -/
theorem Scope.Step.passes_eq {s : Scope} {x y : Evaluation} (h : s.Step x y) :
    y.memory.passes = x.memory.passes := by
  cases h with
  | move h_move => exact h_move.passes_eq
  | @finish st fr v m =>
    rw [Memory.kept]
    split <;> rfl
  | _ => rfl

namespace Generator

variable {g : Generator}

/-- **One step** begins at most one pass. -/
theorem Acts.passes_le {a b : Activity} (h : g.Acts a b) : a.memory.passes ≤ b.memory.passes := by
  cases h with
  | evaluates h_evaluates =>
    cases h_evaluates with
    | step h_step => exact Nat.le_of_eq h_step.passes_eq.symm
    | _ => exact Nat.le_refl _
  | looks h_looks =>
    cases h_looks with
    | step h_step => cases h_step <;> exact Nat.le_refl _
    | _ => exact Nat.le_refl _
  | tidies h_tidies =>
    cases h_tidies with
    | countPass => exact Nat.le_succ _
    | @resetValues n m => exact Nat.le_of_eq (m.updateAll_tokens _ _).2.2.symm
    | @resetCases n m => exact Nat.le_of_eq (m.updateAll_tokens _ _).2.2.symm
    | takeToken | log | fix => exact Nat.le_refl _

/-- **All steps.** The number of passes never decreases. -/
theorem Proceeds.passes_le {a b : Activity} (h : g.Proceeds a b) :
    a.memory.passes ≤ b.memory.passes := by
  induction h with
  | refl => exact Nat.le_refl _
  | tail _ h_act ih => exact Nat.le_trans ih h_act.passes_le

/-- What goes from rest to rest leaves the generator at rest, with no fewer passes. -/
theorem Runs.quiet_passes {α : Type} {e : Eval α} (h : Runs g.Acts e) {m : Memory}
    (h_quiet : m.Quiet) : Ends e m (fun _ m' => m'.Quiet ∧ m.passes ≤ m'.passes)
      fun _ m' => m'.Quiet ∧ m.passes ≤ m'.passes :=
  (h m h_quiet).mono (fun _ _ h_ok => ⟨h_ok.quiet, Proceeds.passes_le h_ok.steps⟩)
    fun _ _ h_bad => ⟨h_bad.2.quiet, Proceeds.passes_le h_bad.2.steps⟩

/-! ### With numbers and without -/

/-- The generator with nothing indexed. -/
def plain (g : Generator) : Generator := { g with indexed := .empty }

/-- A data set is another one with a number appended to the texts of indexed roots. -/
structure Numbered (g : Generator) (number : Nat) (plain numbered : DataSet) : Prop where
  fixed : numbered.fixed = plain.fixed
  get? : ∀ id, numbered.values.get? id = (plain.values.get? id).map (g.stored number id)

theorem stored_plain (number : Nat) (id : String) (v : Option String) :
    g.plain.stored number id v = v := by
  rw [stored, if_neg]
  simp [plain]

theorem Numbered.put {number : Nat} {d₀ d : DataSet} (h : g.Numbered number d₀ d) (id : String)
    (v : Option String) : g.Numbered number (d₀.put id v) (d.put id (g.stored number id v)) where
  fixed := h.fixed
  get? other := by
    rw [DataSet.put, DataSet.put, Dict.get?_insert, Dict.get?_insert]
    split
    · next h_id => rw [h_id, Option.map_some]
    · exact h.get? other

/-- A data set with its number, as it is and as it would be without numbers. -/
structure Twin where
  number : Nat
  plain : DataSet
  numbered : DataSet

/-- From one memory to another data sets have been given whose numbers ascend. -/
structure Numbering (g : Generator) (m m' : Memory) (twins : List Twin) : Prop where
  le : m.passes ≤ m'.passes
  bounds : ∀ t ∈ twins, m.passes < t.number ∧ t.number ≤ m'.passes
  ascending : twins.Pairwise fun s t => s.number < t.number
  numbered : ∀ t ∈ twins, g.Numbered t.number t.plain t.numbered

namespace Numbering

variable {m m' m'' : Memory} {twins twins' : List Twin}

theorem nil (h : m.passes ≤ m'.passes) : g.Numbering m m' [] := ⟨h, nofun, .nil, nofun⟩

theorem single {t : Twin} (h_lt : m.passes < t.number) (h_le : t.number ≤ m'.passes)
    (h : g.Numbered t.number t.plain t.numbered) : g.Numbering m m' [t] where
  le := by omega
  bounds := by simpa using ⟨h_lt, h_le⟩
  ascending := List.pairwise_singleton _ _
  numbered := by simpa using h

/-- The data sets that come later have higher numbers. -/
theorem append (h : g.Numbering m m' twins) (h' : g.Numbering m' m'' twins') :
    g.Numbering m m'' (twins ++ twins') where
  le := Nat.le_trans h.le h'.le
  bounds := by
    have h_le := h.le
    have h_le' := h'.le
    intro t h_t
    rcases List.mem_append.1 h_t with h_t | h_t
    · have h_bounds := h.bounds t h_t
      omega
    · have h_bounds := h'.bounds t h_t
      omega
  ascending := by
    refine List.pairwise_append.2 ⟨h.ascending, h'.ascending, fun s h_s t h_t => ?_⟩
    exact Nat.lt_of_le_of_lt (h.bounds s h_s).2 (h'.bounds t h_t).1
  numbered := by
    intro t h_t
    exact (List.mem_append.1 h_t).elim (h.numbered t) (h'.numbered t)

end Numbering

theorem Numbered.empty (number : Nat) : g.Numbered number .empty .empty where
  fixed := rfl
  get? id := by simp [DataSet.empty]

/-! ### Numbers make no difference to the memory -/

theorem forRoots_plain (act : Node → Memory → Memory) (ids : List String) :
    g.plain.forRoots act ids = g.forRoots act ids := by
  induction ids with
  | nil => rfl
  | cons id ids ih =>
    rw [forRoots, forRoots, ih]
    rfl

theorem hasNextCase_plain : g.plain.hasNextCase = g.hasNextCase := by
  have h_go : ∀ ids, hasNextCase.go g.plain ids = hasNextCase.go g ids := by
    intro ids
    induction ids with
    | nil => rfl
    | cons id ids ih =>
      rw [hasNextCase.go, hasNextCase.go, ih]
      rfl
  exact h_go g.roots

theorem countCases_plain : g.plain.countCases = g.countCases := by
  have h_go : ∀ ids most, countCases.go g.plain most ids = countCases.go g most ids := by
    intro ids
    induction ids with
    | nil => exact fun _ => rfl
    | cons id ids ih =>
      intro most
      rw [countCases.go, countCases.go]
      simp only [ih]
      rfl
  exact h_go g.roots 0

theorem resetValues_plain : g.plain.resetValues = g.resetValues := g.forRoots_plain _ g.roots

theorem resetCases_plain : g.plain.resetCases = g.resetCases := g.forRoots_plain _ g.roots

/-- A pass that begins is counted, and its number is how many there are now. -/
theorem ends_beginPass_number {m : Memory} (h_quiet : m.Quiet) : Ends g.beginPass m
      (fun number m' => number = m.passes + 1 ∧ number ≤ m'.passes ∧ m'.Quiet)
      fun _ m' => m'.Quiet ∧ m.passes ≤ m'.passes := by
  have h_counted : Memory.Quiet { m with passes := m.passes + 1 } := h_quiet
  rw [beginPass, ends_bind, ends_get, ends_bind, ends_set, ends_bind]
  refine (Runs.resetValues.quiet_passes h_counted).mono (fun _ m' h_ok => ?_) fun _ m' h_bad => ?_
  · exact ⟨rfl, h_ok.2, h_ok.1⟩
  · exact ⟨h_bad.1, Nat.le_of_succ_le h_bad.2⟩

theorem beginPass_plain : g.plain.beginPass = g.beginPass := by
  rw [beginPass, beginPass, resetValues_plain]

/-- The roots are filled in with the same values. -/
theorem fill_plain (c : FieldCase) (number : Nat) (ids : List String) {d₀ d : DataSet}
    (h : g.Numbered number d₀ d) (m : Memory) : Ends (g.plain.fill c number ids d₀) m
      (fun d₀' m' => ∃ d', g.fill c number ids d m = (.ok d', m') ∧ g.Numbered number d₀' d')
      fun f m' => g.fill c number ids d m = (.error f, m') := by
  induction ids generalizing d₀ d m with
  | nil => exact ⟨d, rfl, h⟩
  | cons id ids ih =>
    rw [fill, fill]
    have h_value : g.plain.value id c = g.value id c := rfl
    rw [h_value, ends_bind]
    rcases h_v : g.value id c m with ⟨f | v, m₁⟩
    · rw [Ends, h_v, bind_of_error h_v]
    · rw [← ends_bind, ends_bind_of_ok h_v, bind_of_ok h_v, stored_plain]
      exact ih (h.put id v) m₁

theorem goOn_zero (limit : Nat) (done : List DataSet) :
    g.goOn limit 0 done = g.hasNextCase >>= fun more => if more then
      Eval.log (limitEvent limit) >>= fun _ => pure done.reverse else pure done.reverse := by
  rw [goOn.eq_def]

theorem goOn_succ (limit allowed : Nat) (done : List DataSet) :
    g.goOn limit (allowed + 1) done = g.hasNextCase >>= fun more => if more then
      g.generate .normal >>= fun d => g.goOn limit allowed (d :: done) else pure done.reverse := by
  rw [goOn.eq_def]

variable {m : Memory} (h_graph : g.graph.Coherent)
include h_graph

/-- **One pass.** Its number is the next one. -/
theorem generate_plain (c : FieldCase) (h_quiet : m.Quiet) : Ends (g.plain.generate c) m
      (fun d₀ m' => ∃ d, g.generate c m = (.ok d, m') ∧ m'.Quiet ∧
        g.Numbering m m' [⟨m.passes + 1, d₀, d⟩])
      fun f m' => g.generate c m = (.error f, m') ∧ m'.Quiet ∧ m.passes ≤ m'.passes := by
  have h_begin := ends_beginPass_number (g := g) h_quiet
  rw [generate, generate, beginPass_plain]
  rcases h_b : g.beginPass m with ⟨f | number, m₁⟩
  · rw [Ends, bind_of_error h_b, bind_of_error h_b]
    exact ⟨rfl, h_begin.of_error h_b⟩
  · obtain ⟨rfl, h_number, h_quiet₁⟩ := h_begin.of_ok h_b
    rw [ends_bind_of_ok h_b, bind_of_ok h_b, ends_bind]
    -- the roots are filled in from rest to rest
    have h_run : Runs g.Acts (g.fill c (m.passes + 1) g.roots .empty) :=
      (Runs.fill h_graph c _ g.roots .empty).mono fun _ _ => .evaluates
    have h_rest := h_run.quiet_passes h_quiet₁
    refine (fill_plain c (m.passes + 1) g.roots (.empty _) m₁).mono (fun d₀ m₂ h_ok => ?_)
      fun f m₂ h_error => ?_
    · obtain ⟨d, h_d, h_numbered⟩ := h_ok
      obtain ⟨h_quiet₂, h_le⟩ := h_rest.of_ok h_d
      rw [bind_of_ok h_d]
      refine ⟨d, rfl, h_quiet₂, .single (Nat.lt_succ_self _) ?_ h_numbered⟩
      exact Nat.le_trans h_number h_le
    · obtain ⟨h_quiet₂, h_le⟩ := h_rest.of_error h_error
      rw [bind_of_error h_error]
      exact ⟨rfl, h_quiet₂, by omega⟩

/-- **The passes of an enumeration**, put behind those before. -/
theorem goOn_plain (limit allowed : Nat) (done₀ done : List DataSet) (h_quiet : m.Quiet) :
    Ends (g.plain.goOn limit allowed done₀) m
      (fun ds₀ m' => m'.Quiet ∧ ∃ twins, g.Numbering m m' twins ∧
        ds₀ = done₀.reverse ++ twins.map Twin.plain ∧
        g.goOn limit allowed done m = (.ok (done.reverse ++ twins.map Twin.numbered), m'))
      fun f m' => g.goOn limit allowed done m = (.error f, m') ∧ m'.Quiet ∧
        m.passes ≤ m'.passes := by
  have h_look : ∀ {m : Memory}, m.Quiet → Ends g.hasNextCase m
      (fun _ m' => m'.Quiet ∧ m.passes ≤ m'.passes) fun _ m' => m'.Quiet ∧ m.passes ≤ m'.passes :=
    fun h => Runs.quiet_passes ((Runs.hasNextCase h_graph).mono fun _ _ => .looks) h
  induction allowed generalizing done₀ done m with
  | zero =>
    rw [goOn_zero, goOn_zero, hasNextCase_plain]
    rcases h_next : g.hasNextCase m with ⟨f | more, m₁⟩
    · rw [Ends, bind_of_error h_next, bind_of_error h_next]
      exact ⟨rfl, (h_look h_quiet).of_error h_next⟩
    · obtain ⟨h_quiet₁, h_le⟩ := (h_look h_quiet).of_ok h_next
      rw [ends_bind_of_ok h_next, bind_of_ok h_next]
      -- whether it stops at the limit or has no case left, no data set is added
      cases more with
      | true => exact ⟨h_quiet₁, [], .nil h_le, by simp, by simp; rfl⟩
      | false => exact ⟨h_quiet₁, [], .nil h_le, by simp, by simp; rfl⟩
  | succ allowed ih =>
    rw [goOn_succ, goOn_succ, hasNextCase_plain]
    rcases h_next : g.hasNextCase m with ⟨f | more, m₁⟩
    · rw [Ends, bind_of_error h_next, bind_of_error h_next]
      exact ⟨rfl, (h_look h_quiet).of_error h_next⟩
    · obtain ⟨h_quiet₁, h_le⟩ := (h_look h_quiet).of_ok h_next
      rw [ends_bind_of_ok h_next, bind_of_ok h_next]
      cases more with
      | false => exact ⟨h_quiet₁, [], .nil h_le, by simp, by simp; rfl⟩
      | true =>
        simp only [if_true]
        have h_pass := generate_plain h_graph .normal h_quiet₁
        rcases h_p : g.plain.generate .normal m₁ with ⟨f | d₀, m₂⟩
        · obtain ⟨h_error, h_quiet₂, h_le₂⟩ := h_pass.of_error h_p
          rw [Ends, bind_of_error h_p, bind_of_error h_error]
          exact ⟨rfl, h_quiet₂, Nat.le_trans h_le h_le₂⟩
        · obtain ⟨d, h_ok, h_quiet₂, h_single⟩ := h_pass.of_ok h_p
          rw [ends_bind_of_ok h_p, bind_of_ok h_ok]
          refine (ih (d₀ :: done₀) (d :: done) h_quiet₂).mono (fun ds₀ m' h_rest => ?_)
            fun f m' h_bad => ⟨h_bad.1, h_bad.2.1, ?_⟩
          · obtain ⟨h_quiet', twins, h_twins, rfl, h_goOn⟩ := h_rest
            refine ⟨h_quiet', ⟨m₁.passes + 1, d₀, d⟩ :: twins, ?_, by simp, ?_⟩
            · exact (Numbering.nil h_le).append (h_single.append h_twins)
            · rw [h_goOn]
              simp
          · exact Nat.le_trans h_le (Nat.le_trans h_single.le h_bad.2.2)

theorem enumerate_plain (limit : Nat) (h_quiet : m.Quiet) : Ends (g.plain.enumerate limit) m
      (fun ds₀ m' => m'.Quiet ∧ ∃ twins, g.Numbering m m' twins ∧ ds₀ = twins.map Twin.plain ∧
        g.enumerate limit m = (.ok (twins.map Twin.numbered), m'))
      fun f m' => g.enumerate limit m = (.error f, m') ∧ m'.Quiet ∧ m.passes ≤ m'.passes := by
  have h_reset := Runs.quiet_passes (g := g) Runs.resetCases h_quiet
  rw [enumerate, enumerate, resetCases_plain]
  rcases h_r : g.resetCases m with ⟨f | ⟨⟩, m₁⟩
  · rw [Ends, bind_of_error h_r, bind_of_error h_r]
    exact ⟨rfl, h_reset.of_error h_r⟩
  · obtain ⟨h_quiet₁, h_le⟩ := h_reset.of_ok h_r
    rw [ends_bind_of_ok h_r, bind_of_ok h_r]
    refine (goOn_plain h_graph limit limit [] [] h_quiet₁).mono (fun ds₀ m' h_rest => ?_)
      fun f m' h_bad => ⟨h_bad.1, h_bad.2.1, Nat.le_trans h_le h_bad.2.2⟩
    obtain ⟨h_quiet', twins, h_twins, h_ds₀, h_goOn⟩ := h_rest
    exact ⟨h_quiet', twins, (Numbering.nil h_le).append h_twins, h_ds₀, h_goOn⟩

end Generator

/-! ### Requests in sequence -/

/-- The data sets of a reply. -/
def Reply.given : Reply → List DataSet
  | dataSet d => [d]
  | dataSets ds => ds
  | _ => []

/-- The data sets that a request gives: none if it fails. -/
def Reply.givenBy : Except Failure Reply → List DataSet
  | .ok reply => reply.given
  | .error _ => []

theorem Reply.givenBy_map {α : Type} (e : Eval α) {k : α → Reply} (h : ∀ a, (k a).given = [])
    (m : Memory) : Reply.givenBy ((k <$> e) m).1 = [] := by
  rw [← bind_pure_comp]
  rcases h_e : e m with ⟨f | a, m'⟩
  · rw [bind_of_error h_e]
    rfl
  · rw [bind_of_ok h_e]
    exact h a

namespace Generator

/-- The data sets that requests give one after the other, and the memory after them. -/
def produce (g : Generator) : List Request → Memory → List DataSet × Memory
  | [], m => ([], m)
  | r :: rs, m =>
    let rest := produce g rs (r.perform g m).2
    (Reply.givenBy (r.perform g m).1 ++ rest.1, rest.2)

section Requests

variable {g : Generator} {m : Memory} (h_graph : g.graph.Coherent)
include h_graph

/-- Most requests give no data sets, and are the same with numbers and without. -/
theorem perform_same {r : Request} (h_quiet : m.Quiet) (h_same : r.perform g.plain = r.perform g)
    (h_none : Reply.givenBy (r.perform g m).1 = []) : ∃ twins,
      g.Numbering m (r.perform g m).2 twins ∧ (r.perform g m).2.Quiet ∧
      (r.perform g.plain m).2 = (r.perform g m).2 ∧
      Reply.givenBy (r.perform g.plain m).1 = twins.map Twin.plain ∧
      Reply.givenBy (r.perform g m).1 = twins.map Twin.numbered := by
  have h_rest := Ends.state (P := fun m' : Memory => m'.Quiet ∧ m.passes ≤ m'.passes)
    ((r.runs h_graph).quiet_passes h_quiet)
  rw [h_same]
  exact ⟨[], .nil h_rest.2, h_rest.1, rfl, h_none, h_none⟩

/-- **One request** gives the same data sets, up to numbers. -/
theorem perform_plain (r : Request) (h_quiet : m.Quiet) : ∃ twins,
    g.Numbering m (r.perform g m).2 twins ∧ (r.perform g m).2.Quiet ∧
      (r.perform g.plain m).2 = (r.perform g m).2 ∧
      Reply.givenBy (r.perform g.plain m).1 = twins.map Twin.plain ∧
      Reply.givenBy (r.perform g m).1 = twins.map Twin.numbered := by
  cases r with
  | generate c =>
    have h_pass := generate_plain h_graph c h_quiet
    rw [Request.perform, Request.perform, ← bind_pure_comp, ← bind_pure_comp]
    rcases h_p : g.plain.generate c m with ⟨f | d₀, m'⟩
    · obtain ⟨h_error, h_quiet', h_le⟩ := h_pass.of_error h_p
      rw [bind_of_error h_p, bind_of_error h_error]
      exact ⟨[], .nil h_le, h_quiet', rfl, rfl, rfl⟩
    · obtain ⟨d, h_ok, h_quiet', h_single⟩ := h_pass.of_ok h_p
      rw [bind_of_ok h_p, bind_of_ok h_ok]
      exact ⟨_, h_single, h_quiet', rfl, rfl, rfl⟩
  | enumerate limit =>
    have h_passes := enumerate_plain h_graph limit h_quiet
    rw [Request.perform, Request.perform, ← bind_pure_comp, ← bind_pure_comp]
    rcases h_p : g.plain.enumerate limit m with ⟨f | ds₀, m'⟩
    · obtain ⟨h_error, h_quiet', h_le⟩ := h_passes.of_error h_p
      rw [bind_of_error h_p, bind_of_error h_error]
      exact ⟨[], .nil h_le, h_quiet', rfl, rfl, rfl⟩
    · obtain ⟨h_quiet', twins, h_twins, rfl, h_ok⟩ := h_passes.of_ok h_p
      rw [bind_of_ok h_p, bind_of_ok h_ok]
      exact ⟨twins, h_twins, h_quiet', rfl, rfl, rfl⟩
  -- The requests from here on hand out no data set, so both runs answer alike.
  | countCases =>
    refine perform_same h_graph h_quiet ?_ (Reply.givenBy_map _ (fun _ => rfl) m)
    rw [Request.perform, Request.perform, countCases_plain]
  | hasNextCase =>
    refine perform_same h_graph h_quiet ?_ (Reply.givenBy_map _ (fun _ => rfl) m)
    rw [Request.perform, Request.perform, hasNextCase_plain]
  | resetValues =>
    refine perform_same h_graph h_quiet ?_ (Reply.givenBy_map _ (fun _ => rfl) m)
    rw [Request.perform, Request.perform, resetValues_plain]
  | resetCases =>
    refine perform_same h_graph h_quiet ?_ (Reply.givenBy_map _ (fun _ => rfl) m)
    rw [Request.perform, Request.perform, resetCases_plain]
  | value _ _ | containedIds _ | setOverride _ _ | applyFixed _ | takeToken =>
    exact perform_same h_graph h_quiet rfl (Reply.givenBy_map _ (fun _ => rfl) m)

/-- **All requests.** -/
theorem produce_plain (rs : List Request) (h_quiet : m.Quiet) : ∃ twins m',
    g.Numbering m m' twins ∧ g.plain.produce rs m = (twins.map Twin.plain, m') ∧
      g.produce rs m = (twins.map Twin.numbered, m') := by
  induction rs generalizing m with
  | nil => exact ⟨[], m, .nil (Nat.le_refl _), rfl, rfl⟩
  | cons r rs ih =>
    obtain ⟨first, h_first, h_quiet', h_memory, h_plain, h_given⟩ :=
      perform_plain h_graph r h_quiet
    obtain ⟨later, m', h_later, h_plain', h_given'⟩ := ih h_quiet'
    refine ⟨first ++ later, m', h_first.append h_later, ?_, ?_⟩
    · rw [produce, h_memory, h_plain', h_plain, List.map_append]
    · rw [produce, h_given', h_given, List.map_append]

end Requests

/-! ### Indexed texts -/

/-- **Two indexed texts** are the same if the digits of the later number make up for what the
earlier value goes on with. -/
theorem Numbered.get?_eq_iff {g : Generator} {s t : Twin}
    (h_s : g.Numbered s.number s.plain s.numbered)
    (h_t : g.Numbered t.number t.plain t.numbered) (h_lt : s.number < t.number) {id : String}
    (h_id : g.indexed.contains id = true) {v w : String}
    (h_v : s.plain.values.get? id = some (some v)) (h_w : t.plain.values.get? id = some (some w)) :
    s.numbered.values.get? id = t.numbered.values.get? id ↔
      ∃ x, x ≠ "" ∧ v = w ++ x ∧ toString t.number = x ++ toString s.number := by
  rw [h_s.get?, h_t.get?, h_v, h_w, Option.map_some, Option.map_some, stored, stored, if_pos h_id,
    if_pos h_id, Option.map_some, Option.map_some, ← append_number_eq_iff h_lt]
  simp

/-- **Indexed texts.** Take any point of a session, and let any requests follow, whether they
succeed or not.

The data sets are those of the generator with nothing indexed, up to numbers, which ascend and are
above those of all passes before. Each indexed text is the value of its root with the number of its
data set behind it. Two of them are the same just in case the earlier value is the later one with
further digits, which the number of the later data set begins with. -/
theorem Session.indexed_texts {g : Generator} {m : Memory} (h : g.Session m)
    (rs : List Request) : ∃ (twins : List Twin) (m' : Memory),
    g.plain.produce rs m = (twins.map Twin.plain, m') ∧
    g.produce rs m = (twins.map Twin.numbered, m') ∧
    (∀ t ∈ twins, m.passes < t.number ∧ g.Numbered t.number t.plain t.numbered) ∧
    twins.Pairwise fun s t => s.number < t.number ∧ ∀ id v w, g.indexed.contains id = true →
      s.plain.values.get? id = some (some v) → t.plain.values.get? id = some (some w) →
      (s.numbered.values.get? id = t.numbered.values.get? id ↔
        ∃ x, x ≠ "" ∧ v = w ++ x ∧ toString t.number = x ++ toString s.number) := by
  obtain ⟨h_graph, h_quiet⟩ := h.coherent_quiet
  obtain ⟨twins, m', h_twins, h_plain, h_numbered⟩ := produce_plain h_graph rs h_quiet
  refine ⟨twins, m', h_plain, h_numbered, fun t h_t => ?_, ?_⟩
  · exact ⟨(h_twins.bounds t h_t).1, h_twins.numbered t h_t⟩
  · refine h_twins.ascending.imp_of_mem fun {s t} h_s h_t h_lt => ⟨h_lt, ?_⟩
    intro id v w h_id h_v h_w
    exact (h_twins.numbered s h_s).get?_eq_iff (h_twins.numbered t h_t) h_lt h_id h_v h_w

/-- A number from 1 to 11. -/
def oneToEleven : Config :=
  ⟨Config.supportedVersion, none, .empty, [.mk (some "number") none (.field (.number 1 11))]⟩

/-- Options by which this number is indexed. -/
def numberIndexed : GeneratorOptions := { seed := some 0, indexed := .ofNames ["number"] }

/-- The greatest number is asked for ten times, and then the least one. -/
def greatestAndLeast : List Request :=
  List.replicate 10 (.generate .max) ++ [.generate .min]

/-- Its texts are numbered in ascending order, from the first pass on. -/
theorem Session.indexed_texts_oneToEleven : ∃ g,
    Generator.ofConfig oneToEleven numberIndexed 0 = .ok g ∧
    g.Session (g.freshMemory.withDraws default) ∧ ∃ (twins : List Twin) (m' : Memory),
      g.produce greatestAndLeast (g.freshMemory.withDraws default) =
        (twins.map Twin.numbered, m') ∧
      (∀ t ∈ twins, 0 < t.number ∧ g.Numbered t.number t.plain t.numbered) ∧
      twins.Pairwise fun s t => s.number < t.number := by
  have h_roots : (Generator.ofConfig oneToEleven numberIndexed 0).toOption.map (·.roots) =
      some ["number"] := by decide +kernel
  obtain ⟨g, h_ok, -⟩ := exists_ok_of_map h_roots
  have h_session := Session.ofConfig h_ok default
  obtain ⟨twins, m', -, h_given, h_numbered, h_pairs⟩ :=
    Session.indexed_texts h_session greatestAndLeast
  exact ⟨g, h_ok, h_session, twins, m', h_given, h_numbered, h_pairs.imp fun h => h.1⟩

/-- **Numbers do not keep texts apart.** The greatest number in the first data set and the least one
in the eleventh have the same text, `111`. -/
theorem indexed_texts_coincide : ∃ g, ofConfig oneToEleven numberIndexed 0 = .ok g ∧
    g.indexed.contains "number" = true ∧
    (g.produce greatestAndLeast g.freshMemory).1.map (·.values.get? "number") =
      ["111", "112", "113", "114", "115", "116", "117", "118", "119", "1110", "111"].map
        fun text => some (some text) := by
  have h_texts : (ofConfig oneToEleven numberIndexed 0).toOption.map (fun g =>
      (g.indexed.contains "number",
        (g.produce greatestAndLeast g.freshMemory).1.map (·.values.get? "number"))) =
      some (true,
        ["111", "112", "113", "114", "115", "116", "117", "118", "119", "1110", "111"].map
          fun text => some (some text)) := by decide +kernel
  obtain ⟨g, h_ok, h_g⟩ := exists_ok_of_map h_texts
  obtain ⟨h_indexed, h_given⟩ := Prod.mk.inj h_g
  exact ⟨g, h_ok, h_indexed, h_given⟩

end Generator

end Specimen
