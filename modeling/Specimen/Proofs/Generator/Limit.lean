import Specimen.Proofs.Generator.Comparing
import Specimen.Proofs.Generator.Indexing
import Specimen.Proofs.Generator.Lockstep
import Specimen.Run.Attempt

/-!
# Limits of enumerations

An enumeration runs passes as long as a root has cases left, and at most as many as its limit
allows. The limit does nothing else: it cuts the data sets off, and leaves those before the cut as
they are (`Generator.Session.enumerate_truncates`).

* An enumeration that is stopped says so in the log (`Generator.CutOff`), and nothing else says it.
* The test that stops it is the last thing it does. A search leaves all cells as they were
  (`Generator.Runs.same`) and sees nothing but cells (`SeesCells`), so asking once more right after
  the enumeration gives the same answer. That is how a run finds out whether it has to warn.
* Two enumerations that begin in one memory go along with each other up to the lower limit
  (`Generator.GoesOn.take`).

All of this holds in any session, with whatever overrides and graphs.
-/

namespace Specimen

/-- A notice says that an enumeration was stopped by its limit. -/
def Notice.IsLimit (n : Notice) : Prop := n.code = "case_limit_reached"

/-! ### What is logged on the way -/

/-- From one memory to another events were logged, but no warning. -/
def Memory.NoWarning (m m' : Memory) : Prop :=
  ∃ events, m'.log = events ++ m.log ∧ ∀ e ∈ events, e.level ≠ .warn

namespace Memory.NoWarning

variable {m m' m'' : Memory}

theorem of_log (h : m'.log = m.log) : m.NoWarning m' := ⟨[], h, nofun⟩

theorem refl (m : Memory) : m.NoWarning m := of_log rfl

theorem trans (h : m.NoWarning m') (h' : m'.NoWarning m'') : m.NoWarning m'' := by
  obtain ⟨events, h_log, h_events⟩ := h
  obtain ⟨events', h_log', h_events'⟩ := h'
  refine ⟨events' ++ events, by rw [h_log', h_log, List.append_assoc], fun e h_e => ?_⟩
  exact (List.mem_append.1 h_e).elim (h_events' e) (h_events e)

theorem logged {e : LogEvent} (h : e.level ≠ .warn) : m.NoWarning (m.logged e) :=
  ⟨[e], rfl, by simpa using h⟩

end Memory.NoWarning

/-- A memory's log does not change with its cells. -/
theorem Memory.updateAll_log (m : Memory) (change : Cell → Cell) (keys : List Nat) :
    (m.updateAll change keys).log = m.log := by
  rw [updateAll_eq]

/-- Going on with a value logs nothing. -/
theorem Scope.Moves.log_eq {s : Scope} {n : Node} {c : FieldCase}
    {stage stage' : Evaluation.Stage} {control control' : Evaluation.Control} {m m' : Memory}
    (h : s.Moves n c stage control m stage' control' m') : m'.log = m.log := by
  have h_served : ∀ (f : Field) c, (m.served n.key f c).log = m.log := by
    intro f c
    rw [Memory.served]
    split <;> rfl
  cases h with
  | constant _ => cases c <;> rfl
  | @field f set _ _ =>
    refine Ends.state (P := fun m' : Memory => m'.log = m.log) ?_
    rw [Specimen.ends_fieldValue (Prod.eta _).symm]
    exact ⟨fun _ _ => h_served _ _, fun _ _ => h_served _ _⟩
  | @decided _ mandatory _ => cases mandatory <;> rfl
  | _ => rfl

/-- **One step** of an evaluation logs no warning: only beginning to generate is logged. -/
theorem Scope.Step.noWarning {s : Scope} {x y : Evaluation} (h : s.Step x y) :
    x.memory.NoWarning y.memory := by
  cases h with
  | @begin st n c m _ _ => exact .logged (m := m.nextToken.update n.key _) nofun
  | move h_move => exact .of_log h_move.log_eq
  | @finish st fr v m =>
    refine .of_log ?_
    rw [Memory.kept]
    split <;> rfl
  | _ => exact .of_log rfl

namespace Generator

variable {g : Generator} {m m' : Memory}

/-- **All steps.** -/
theorem noWarning_of_evaluates {a b : Activity} (h : Relation.ReflTransGen g.Evaluates a b) :
    a.memory.NoWarning b.memory := by
  induction h with
  | refl => exact .refl _
  | tail _ h_step ih =>
    refine ih.trans ?_
    cases h_step with
    | step h_step => exact h_step.noWarning
    | _ => exact .refl _

/-- What is done to the memory for each root logs nothing, if it logs nothing for one. -/
theorem ends_forRoots_log (g : Generator) {act : Node → Memory → Memory}
    (h_act : ∀ n m, (act n m).log = m.log) (ids : List String) (m : Memory) :
    Ends (g.forRoots act ids) m (fun _ m' => m'.log = m.log) fun _ m' => m'.log = m.log := by
  induction ids generalizing m with
  | nil => exact rfl
  | cons id ids ih =>
    rw [forRoots, ends_bind, find, Scope.ends_find]
    refine ⟨fun n _ => ?_, fun _ => rfl⟩
    rw [ends_bind, ends_modify]
    exact (ih (act n m)).mono (fun _ _ h => h.trans (h_act n m)) fun _ _ h => h.trans (h_act n m)

/-- An evaluation that begins at rest ends at rest, and logs no warning if it answers. -/
def NeverWarns {α : Type} (e : Eval α) : Prop :=
  ∀ m : Memory, m.Quiet → Ends e m (fun _ m' => m'.Quiet ∧ m.NoWarning m') Anyhow

namespace NeverWarns

variable {α β : Type} {e : Eval α}

theorem bind {k : α → Eval β} (h : NeverWarns e) (h_next : ∀ a, NeverWarns (k a)) :
    NeverWarns (e >>= k) := by
  intro m h_quiet
  rw [ends_bind]
  refine (h m h_quiet).mono (fun a m' h_first => ?_) fun _ _ _ => trivial
  exact (h_next a m' h_first.1).mono (fun _ _ h_rest => ⟨h_rest.1, h_first.2.trans h_rest.2⟩)
    fun _ _ _ => trivial

/-- What the log shows after an answer. -/
theorem of_ok (h : NeverWarns e) (h_quiet : m.Quiet) {a : α} (h_ok : e m = (.ok a, m')) :
    m.NoWarning m' := ((h m h_quiet).of_ok h_ok).2

theorem pure (a : α) : NeverWarns (Pure.pure a : Eval α) := fun m h_quiet => ⟨h_quiet, .refl m⟩

theorem log {event : LogEvent} (h : event.level ≠ .warn) : NeverWarns (Eval.log event) :=
  fun _ h_quiet => ⟨h_quiet, .logged h⟩

/-- Evaluating nodes logs no warning. -/
theorem evaluates (h : Runs g.Evaluates e) : NeverWarns e := fun m h_quiet =>
  (h m h_quiet).mono (fun _ _ h_ok => ⟨h_ok.quiet, noWarning_of_evaluates h_ok.steps⟩)
    fun _ _ _ => trivial

/-- What logs nothing logs no warning. -/
theorem silent (h : Runs g.Acts e) (h_log : ∀ m, m.Quiet → (e m).2.log = m.log) :
    NeverWarns e := by
  intro m h_quiet
  refine ends_true_iff.2 fun a m' h_ok => ⟨((h m h_quiet).of_ok h_ok).quiet, .of_log ?_⟩
  have h_m' := h_log m h_quiet
  rwa [h_ok] at h_m'

/-- Looking through nodes logs nothing. -/
theorem looks (h : Runs g.LooksThrough e) : NeverWarns e :=
  silent (h.mono fun _ _ => .looks) fun _ h_quiet => (h.same h_quiet).log

theorem beginPass : NeverWarns g.beginPass := by
  refine silent Runs.beginPass fun m _ => ?_
  have h_ends : Ends g.beginPass m (fun _ m' => m'.log = m.log) fun _ m' => m'.log = m.log := by
    simp only [Generator.beginPass, ends_bind, ends_get, ends_set, ends_pure]
    exact g.ends_forRoots_log (fun n m => m.updateAll_log _ n.keys) g.roots _
  exact h_ends.state

/-- **One pass** logs no warning. -/
theorem generate (h_graph : g.graph.Coherent) (c : FieldCase) : NeverWarns (g.generate c) := by
  refine beginPass.bind fun number => ?_
  refine (evaluates (Runs.fill h_graph c number g.roots .empty)).bind fun d => ?_
  have h_level : (g.generatedEvent number c).level ≠ .warn := nofun
  exact (log h_level).bind fun _ => .pure d

end NeverWarns

/-! ### Asking again -/

/-- **A search through the roots sees cells only.** -/
theorem hasNextCase_seesCells (g : Generator) : SeesCells g.hasNextCase :=
  hasNextCase_respects Memory.Alike.comparable g

/-- A search that is made again right after another one finds the same, whatever was logged in
between. -/
theorem hasNextCase_again (h_graph : g.graph.Coherent) (h_quiet : m.Quiet) {more : Bool}
    {m₁ m' : Memory} (h_test : g.hasNextCase m = (.ok more, m₁)) (h_alike : m₁.Alike m') :
    ∃ m'', g.hasNextCase m' = (.ok more, m'') := by
  have h_same := (Runs.hasNextCase h_graph).same h_quiet
  rw [h_test] at h_same
  have h_cells : m.Alike m' := fun key => (h_alike key).trans (h_same.cell key)
  have h_result := (g.hasNextCase_seesCells m m' h_cells).1
  rw [h_test] at h_result
  exact ⟨(g.hasNextCase m').2, Prod.ext h_result rfl⟩

/-! ### The course of an enumeration -/

/-- From one memory to another an enumeration was cut off by its limit, and has logged it. -/
def CutOff (limit : Nat) (m m' : Memory) : Prop :=
  ∃ events, m'.log = events ++ m.log ∧ limitEvent limit ∈ events

/-- How an enumeration goes on when a number of passes is allowed: what data sets it adds, and to
which memory it comes. It ends where no case is left, or where one is left and no pass is allowed
any more; then it logs that it was stopped. -/
inductive GoesOn (g : Generator) (limit : Nat) :
    Nat → Memory → List DataSet → Memory → Prop where
  | exhausted {allowed m m'} (h_test : g.hasNextCase m = (.ok false, m')) :
    GoesOn g limit allowed m [] m'
  | stopped {m m₁} (h_test : g.hasNextCase m = (.ok true, m₁)) :
    GoesOn g limit 0 m [] (m₁.logged (limitEvent limit))
  | pass {allowed m m₁ d m₂ new m'} (h_test : g.hasNextCase m = (.ok true, m₁))
    (h_pass : g.generate .normal m₁ = (.ok d, m₂)) (h_rest : GoesOn g limit allowed m₂ new m') :
    GoesOn g limit (allowed + 1) m (d :: new) m'

/-- **The relation describes the loop**: the new data sets are put behind those before. -/
theorem goOn_eq_ok_iff {limit allowed : Nat} {done ds : List DataSet} :
    g.goOn limit allowed done m = (.ok ds, m') ↔
      ∃ new, ds = done.reverse ++ new ∧ g.GoesOn limit allowed m new m' := by
  constructor
  · intro h_ok
    induction allowed generalizing done m with
    | zero =>
      rw [goOn_zero] at h_ok
      obtain ⟨more, m₁, h_test, h_end⟩ := bind_eq_ok_iff.1 h_ok
      cases more with
      | true =>
        cases h_end
        exact ⟨[], (List.append_nil _).symm, .stopped h_test⟩
      | false =>
        cases h_end
        exact ⟨[], (List.append_nil _).symm, .exhausted h_test⟩
    | succ allowed ih =>
      rw [goOn_succ] at h_ok
      obtain ⟨more, m₁, h_test, h_next⟩ := bind_eq_ok_iff.1 h_ok
      cases more with
      | false =>
        cases h_next
        exact ⟨[], (List.append_nil _).symm, .exhausted h_test⟩
      | true =>
        -- the data set of the pass comes before those of the rest
        rw [if_pos rfl] at h_next
        obtain ⟨d, m₂, h_pass, h_rest⟩ := bind_eq_ok_iff.1 h_next
        obtain ⟨new, h_ds, h_on⟩ := ih h_rest
        refine ⟨d :: new, ?_, .pass h_test h_pass h_on⟩
        rw [h_ds, List.reverse_cons, List.append_assoc, List.singleton_append]
  · rintro ⟨new, rfl, h_on⟩
    induction h_on generalizing done with
    | @exhausted allowed m m' h_test =>
      rw [goOn.eq_def]
      refine (bind_of_ok h_test).trans ?_
      rw [List.append_nil]
      rfl
    | @stopped m m₁ h_test =>
      rw [goOn_zero, bind_of_ok h_test, List.append_nil]
      rfl
    | @pass allowed m m₁ d m₂ new m' h_test h_pass h_rest ih =>
      rw [goOn_succ, bind_of_ok h_test, if_pos rfl, bind_of_ok h_pass, ih]
      rw [List.reverse_cons, List.append_assoc, List.singleton_append]

/-- An enumeration forgets which cases were served, and goes on from there. -/
theorem enumerate_eq_ok_iff {limit : Nat} {ds : List DataSet} :
    g.enumerate limit m = (.ok ds, m') ↔
      ∃ m₀, g.resetCases m = (.ok (), m₀) ∧ g.GoesOn limit limit m₀ ds m' := by
  constructor
  · intro h_ok
    rw [enumerate] at h_ok
    obtain ⟨⟨⟩, m₀, h_reset, h_goOn⟩ := bind_eq_ok_iff.1 h_ok
    obtain ⟨new, h_new, h_on⟩ := goOn_eq_ok_iff.1 h_goOn
    rw [List.reverse_nil, List.nil_append] at h_new
    exact ⟨m₀, h_reset, h_new ▸ h_on⟩
  · rintro ⟨m₀, h_reset, h_on⟩
    rw [enumerate, bind_of_ok h_reset]
    exact goOn_eq_ok_iff.2 ⟨ds, rfl, h_on⟩

namespace GoesOn

variable {limit allowed : Nat} {new : List DataSet}

/-- No more data sets are added than are allowed. -/
theorem length_le (h : g.GoesOn limit allowed m new m') : new.length ≤ allowed := by
  induction h with
  | exhausted _ => exact Nat.zero_le _
  | stopped _ => exact Nat.le_refl 0
  | pass _ _ _ ih => exact Nat.succ_le_succ ih

/-- An enumeration that goes on finds a case left before each of its passes. -/
theorem hasNextCase_eq (h : g.GoesOn limit allowed m new m') :
    ∀ k < new.length, (g.hasNextCase (g.round^[k] m)).1 = .ok true := by
  induction h with
  | exhausted _ => exact nofun
  | stopped _ => exact nofun
  | @pass allowed m m₁ d m₂ new m' h_test h_pass _ ih =>
    have h_round : g.round m = m₂ := by rw [round, h_test, h_pass]
    rintro (_ | k) h_k
    · exact congrArg Prod.fst h_test
    · rw [Function.iterate_succ_apply, h_round]
      exact ih k (Nat.lt_of_succ_lt_succ h_k)

/-- **Fewer are allowed.** An enumeration that is allowed fewer passes adds the first of the data
sets. -/
theorem take (h : g.GoesOn limit allowed m new m') (limit' : Nat) {fewer : Nat}
    (h_fewer : fewer ≤ allowed) : ∃ m'', g.GoesOn limit' fewer m (new.take fewer) m'' := by
  induction h generalizing fewer with
  | exhausted h_test => exact ⟨_, by rw [List.take_nil]; exact .exhausted h_test⟩
  | stopped h_test =>
    obtain rfl := Nat.le_zero.1 h_fewer
    exact ⟨_, .stopped h_test⟩
  | pass h_test h_pass _ ih =>
    -- a case was left here, so with no pass allowed it is stopped
    cases fewer with
    | zero => exact ⟨_, .stopped h_test⟩
    | succ fewer =>
      obtain ⟨m'', h_rest⟩ := ih (Nat.le_of_succ_le_succ h_fewer)
      exact ⟨m'', .pass h_test h_pass h_rest⟩

section Again

variable (h_graph : g.graph.Coherent)
include h_graph

/-- **The two exits.** Either no case is left and nothing was logged about a limit, or a case is
left, as many data sets were added as were allowed, and this was logged last. -/
theorem exits (h_quiet : m.Quiet) (h : g.GoesOn limit allowed m new m') :
    ((∃ m'', g.hasNextCase m' = (.ok false, m'')) ∧ m.NoWarning m') ∨
      ((∃ m'', g.hasNextCase m' = (.ok true, m'')) ∧ new.length = allowed ∧
        ∃ m₁, m.NoWarning m₁ ∧ m'.log = limitEvent limit :: m₁.log) := by
  have h_look : NeverWarns g.hasNextCase := .looks (Runs.hasNextCase h_graph)
  induction h with
  | @exhausted allowed m m' h_test =>
    exact .inl ⟨hasNextCase_again h_graph h_quiet h_test fun _ => rfl,
      h_look.of_ok h_quiet h_test⟩
  | @stopped m m₁ h_test =>
    exact .inr ⟨hasNextCase_again h_graph h_quiet h_test fun _ => rfl, rfl, m₁,
      h_look.of_ok h_quiet h_test, rfl⟩
  | @pass allowed m m₁ d m₂ new m' h_test h_pass _ ih =>
    obtain ⟨h_quiet₁, h_way₁⟩ := (h_look m h_quiet).of_ok h_test
    obtain ⟨h_quiet₂, h_way₂⟩ := (NeverWarns.generate h_graph .normal m₁ h_quiet₁).of_ok h_pass
    have h_way := h_way₁.trans h_way₂
    -- the exit is that of the rest, which begins after this pass
    rcases ih h_quiet₂ with ⟨h_none, h_rest⟩ | ⟨h_left, h_length, m₃, h_rest, h_log⟩
    · exact .inl ⟨h_none, h_way.trans h_rest⟩
    · exact .inr ⟨h_left, congrArg (· + 1) h_length, m₃, h_way.trans h_rest, h_log⟩

/-- **Asking again tells how it ended.** A search right after an enumeration finds a case just if
the enumeration was cut off, and then as many data sets were added as were allowed. -/
theorem again (h_quiet : m.Quiet) (h : g.GoesOn limit allowed m new m') :
    ∃ more m'', g.hasNextCase m' = (.ok more, m'') ∧ (more = true ↔ CutOff limit m m') ∧
      (more = true → new.length = allowed) := by
  rcases h.exits h_graph h_quiet with
    ⟨⟨m'', h_none⟩, h_way⟩ | ⟨⟨m'', h_left⟩, h_length, m₁, h_way, h_log⟩
  · -- the notice of the limit is a warning, and none was logged on the way
    refine ⟨false, m'', h_none, iff_of_false Bool.false_ne_true ?_, nofun⟩
    rintro ⟨events, h_log, h_mem⟩
    obtain ⟨events', h_log', h_events'⟩ := h_way
    rw [List.append_cancel_right (h_log.symm.trans h_log')] at h_mem
    exact h_events' _ h_mem rfl
  · obtain ⟨events, h_log', -⟩ := h_way
    refine ⟨true, m'', h_left, iff_of_true rfl ⟨limitEvent limit :: events, ?_, ?_⟩,
      fun _ => h_length⟩
    · rw [h_log, h_log', List.cons_append]
    · exact List.mem_cons_self

/-- **More are allowed.** If no case is left after an enumeration, then it makes no difference if
more passes are allowed. -/
theorem of_exhausted (h_quiet : m.Quiet) (h : g.GoesOn limit allowed m new m')
    (h_end : (g.hasNextCase m').1 = .ok false) (limit' : Nat) {more : Nat}
    (h_more : allowed ≤ more) : g.GoesOn limit' more m new m' := by
  induction h generalizing more with
  | exhausted h_test => exact .exhausted h_test
  | @stopped m m₁ h_test =>
    -- a case is left where it was stopped
    have h_alike : m₁.Alike (m₁.logged (limitEvent limit)) := fun _ => rfl
    obtain ⟨m'', h_left⟩ := hasNextCase_again h_graph h_quiet h_test h_alike
    rw [h_left] at h_end
    cases h_end
  | @pass allowed m m₁ d m₂ new m' h_test h_pass _ ih =>
    have h_quiet₁ := ((Runs.hasNextCase h_graph m h_quiet).of_ok h_test).quiet
    have h_quiet₂ := ((Runs.generate h_graph .normal m₁ h_quiet₁).of_ok h_pass).quiet
    obtain ⟨more, rfl⟩ : ∃ k, more = k + 1 := ⟨more - 1, by omega⟩
    exact .pass h_test h_pass (ih h_quiet₂ h_end (Nat.le_of_succ_le_succ h_more))

end Again

end GoesOn

/-! ### Runs -/

/-- Ids that are indexed are warned about in other words. -/
theorem not_isLimit_withStray (g : Generator) {r : RunReport} (h : ∀ n ∈ r.warnings, ¬ n.IsLimit) :
    ∀ n ∈ (Attempt.withStray r g).warnings, ¬ n.IsLimit := by
  rw [Attempt.withStray]
  refine List.foldlRecOn (motive := fun r : RunReport => ∀ n ∈ r.warnings, ¬ n.IsLimit)
    g.strayIndexed _ h fun r h_r id _ n h_n => ?_
  rcases List.mem_append.1 h_n with h_old | h_new
  · exact h_r n h_old
  · obtain rfl := List.mem_singleton.1 h_new
    exact (by decide : "indexed_field_not_root" ≠ "case_limit_reached")

/-- A run that counts the cases and generates data sets succeeds, and warns about the limit just if
a flag says so. -/
theorem run_of_dataSets {c : Config} {o : GeneratorOptions} {mode : RunMode} {random : UInt64}
    {r : RunReport} {cases : Nat} {ds : List DataSet} {left : Bool}
    (h_r : ∀ n ∈ r.warnings, ¬ n.IsLimit) (h_g : ofConfig c o random = .ok g)
    (h_count : g.countCases g.freshMemory = (.ok cases, m))
    (h_sets : Attempt.dataSets g mode m = (.ok (ds, left), m')) :
    (Attempt.run c o mode random r).outcome = .ok (g.roots, ds) ∧
      ((∃ n ∈ (Attempt.run c o mode random r).report.warnings, n.IsLimit) ↔ left = true) := by
  have h_count' : g.countCases.run g.freshMemory = (.ok cases, m) := h_count
  have h_sets' : (Attempt.dataSets g mode).run m = (.ok (ds, left), m') := h_sets
  have h_earlier := g.not_isLimit_withStray
    (r := { Attempt.withGenerator r g with casesCounted := UInt64.ofNat cases }) h_r
  simp only [Attempt.run, h_g, h_count', h_sets', true_and]
  cases left with
  | true =>
    refine iff_of_true ⟨Attempt.limitWarning mode, ?_, rfl⟩ rfl
    exact List.mem_append_right _ (List.mem_singleton_self _)
  | false =>
    refine iff_of_false ?_ Bool.false_ne_true
    rintro ⟨n, h_n, h_limit⟩
    exact h_earlier n h_n h_limit

/-- What a limit does to an enumeration that returns. -/
structure Truncates (g : Generator) (m : Memory) (limit : Nat) (ds : List DataSet) (m' : Memory) :
    Prop where
  length_le : ds.length ≤ limit
  /-- A search right after it finds a case just if it was cut off. -/
  again : ∃ more m'', g.hasNextCase m' = (.ok more, m'') ∧ (more = true ↔ CutOff limit m m')
  /-- If it was cut off, it was at the limit. -/
  length_eq : CutOff limit m m' → ds.length = limit
  /-- If it was not, a higher limit makes no difference. -/
  higher : ¬ CutOff limit m m' → ∀ l, limit ≤ l → g.enumerate l m = (.ok ds, m')
  /-- A lower limit leaves the first of the data sets. -/
  lower : ∀ l ≤ limit, ∃ m'', g.enumerate l m = (.ok (ds.take l), m'')

/-- **The limit only truncates.** Take any point of a session where the generator rests, and an
enumeration that begins there and returns. It gives at most as many data sets as its limit says. A
search right after it finds a case that is left just if it was cut off by the limit, and then it has
given exactly as many. Otherwise a higher limit makes no difference, and in any case a lower one
leaves the first of the data sets.

A run of a configuration that comes to this enumeration succeeds with these data sets, and warns
about the limit just if they were cut off. -/
theorem Session.enumerate_truncates (h : g.Session m) {limit : Nat} {ds : List DataSet}
    (h_ok : g.enumerate limit m = (.ok ds, m')) :
    g.Truncates m limit ds m' ∧
    ∀ {c : Config} {o : GeneratorOptions} {random w : UInt64} {r : RunReport} {cases : Nat},
      Generator.ofConfig c o random = .ok g → g.countCases g.freshMemory = (.ok cases, m) →
      w.toNat = limit → (∀ n ∈ r.warnings, ¬ n.IsLimit) →
      (Attempt.run c o (.cases w) random r).outcome = .ok (g.roots, ds) ∧
        ((∃ n ∈ (Attempt.run c o (.cases w) random r).report.warnings, n.IsLimit) ↔
          CutOff limit m m') := by
  obtain ⟨h_graph, h_quiet⟩ := h.coherent_quiet
  obtain ⟨m₀, h_reset, h_on⟩ := enumerate_eq_ok_iff.1 h_ok
  have h_quiet₀ : m₀.Quiet := ((Runs.resetCases m h_quiet).of_ok h_reset).quiet
  obtain ⟨more, m'', h_again, h_cut, h_length⟩ := h_on.again h_graph h_quiet₀
  -- forgetting which cases were served logs nothing
  have h_log : m₀.log = m.log :=
    (g.ends_forRoots_log (fun n m => m.updateAll_log _ n.keys) g.roots m).of_ok h_reset
  rw [CutOff, h_log] at h_cut
  refine ⟨⟨h_on.length_le, ⟨more, m'', h_again, h_cut⟩, fun h_m' => h_length (h_cut.2 h_m'),
    fun h_not l h_l => ?_, fun l h_l => ?_⟩, fun {c o random w r cases} h_g h_count h_w h_r => ?_⟩
  · have h_end : (g.hasNextCase m').1 = .ok false := by
      rw [h_again, Bool.eq_false_iff.2 fun h_more => h_not (h_cut.1 h_more)]
    exact enumerate_eq_ok_iff.2 ⟨m₀, h_reset, h_on.of_exhausted h_graph h_quiet₀ h_end l h_l⟩
  · obtain ⟨m'', h_fewer⟩ := h_on.take l h_l
    exact ⟨m'', enumerate_eq_ok_iff.2 ⟨m₀, h_reset, h_fewer⟩⟩
  · -- the flag of the run is what the search right after the enumeration has found
    have h_sets : Attempt.dataSets g (.cases w) m = (.ok (ds, more), m'') := by
      rw [Attempt.dataSets, h_w, bind_of_ok h_ok, bind_of_ok h_again]
      rfl
    obtain ⟨h_outcome, h_warns⟩ := run_of_dataSets h_r h_g h_count h_sets
    exact ⟨h_outcome, h_warns.trans h_cut⟩

/-- The number has three boundaries, so a run with room for two data sets warns. -/
theorem Session.enumerate_truncates_numberAndLabel : ∃ g m ds m',
    Generator.ofConfig numberAndLabel {} 0 = .ok g ∧
    g.countCases g.freshMemory = (.ok 3, m) ∧ g.Session m ∧ g.enumerate 2 m = (.ok ds, m') ∧
    g.Truncates m 2 ds m' ∧ CutOff 2 m m' ∧
    (Attempt.run numberAndLabel {} (.cases 2) 0 default).outcome = .ok (g.roots, ds) ∧
    ∃ n ∈ (Attempt.run numberAndLabel {} (.cases 2) 0 default).report.warnings, n.IsLimit := by
  obtain ⟨g, h_g⟩ := exists_ofConfig_numberAndLabel
  obtain ⟨⟨tops, h_of⟩, -, -⟩ := ofConfig_represents h_g
  obtain ⟨rank, h_fuel, h_ordered, -⟩ := h_of.exists_ordered
  have h_none : ∀ p, ¬ numberAndLabel.IsOptional p := by
    rintro p ⟨x, child, rule, h_x, h_kind⟩
    exact (kind_numberAndLabel h_x).2 child rule h_kind
  -- the memory in which a run begins to enumerate
  have h_start : g.Session g.freshMemory := .ofConfig h_g g.freshMemory.draws
  obtain ⟨h_graph, h_quiet₀⟩ := h_start.coherent_quiet
  obtain ⟨m, h_count⟩ := h_of.exists_countCases h_none h_quiet₀
  have h_counting : Runs g.Acts g.countCases := (Runs.countCases h_graph).mono fun _ _ => .looks
  have h_session : g.Session m := h_start.act ((h_counting _ h_quiet₀).of_ok h_count).steps
  have h_same : g.freshMemory.Same m := by
    have h_same := (Runs.countCases h_graph).same h_quiet₀
    rwa [h_count] at h_same
  have h_free : Unfixed m := fun key => by rw [h_same.cell key]; rfl
  obtain ⟨ds, m', h_ok, -, more, m'', h_next, h_more⟩ := h_of.exists_enumerate_width
    (h_of.crashesOnly_of_fieldsRender fieldsRender_numberAndLabel) h_ordered h_fuel
    (h_of.forced (.inr allMandatory_numberAndLabel)) (h_same.quiet h_quiet₀) h_free 2
  obtain ⟨h_truncates, h_run⟩ := Session.enumerate_truncates h_session h_ok
  have h_cut : CutOff 2 m m' := by
    obtain ⟨more', m₃, h_next', h_iff⟩ := h_truncates.again
    rw [h_next] at h_next'
    cases h_next'
    exact h_iff.1 (h_more.2 (by decide))
  obtain ⟨h_outcome, h_warns⟩ :=
    h_run (w := 2) (r := default) h_g h_count rfl fun _ h_n => absurd h_n List.not_mem_nil
  exact ⟨g, m, ds, m', h_g, h_count, h_session, h_ok, h_truncates, h_cut, h_outcome,
    h_warns.2 h_cut⟩

end Generator

end Specimen
