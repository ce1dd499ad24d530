import Specimen.Proofs.Config.Cycles
import Specimen.Proofs.Config.WellFormed
import Specimen.Proofs.Generator.Session
import Specimen.Proofs.Graph.Origin

/-!
# Two ways to notice a circle

A configuration that leads in a circle is noticed twice. The check sorts the ids, where what has no
id counts for the nearest one above it, and reports a cycle if this fails. The nodes notice when
they are looked through and come upon a node that is marked already.

Rules matter to the check only, as no node is looked through because of a rule. Without rules both
find the same: the check reports a cycle exactly when collecting the ids of some registered node
fails as re-entrant (`Generator.Session.hasCode_cycle_iff_reentrant`).

The check reports issues of many codes. Only the search for ids that need themselves reports
`reference_cycle`, and it does exactly when there are some (`Config.hasCode_cycle_iff`), whatever
else is wrong with the configuration.
-/

namespace Specimen

namespace Config

/-- None of some issues reports a cycle. -/
def NoCycle (is : List Issue) : Prop := ∀ i ∈ is, i.code ≠ "reference_cycle"

@[simp] theorem noCycle_nil : NoCycle [] := fun _ h => absurd h List.not_mem_nil

@[simp] theorem noCycle_cons {i : Issue} {is : List Issue} :
    NoCycle (i :: is) ↔ i.code ≠ "reference_cycle" ∧ NoCycle is := List.forall_mem_cons

@[simp] theorem noCycle_append {is js : List Issue} :
    NoCycle (is ++ js) ↔ NoCycle is ∧ NoCycle js := List.forall_mem_append

/-! ### The issues of parts -/

theorem versionIssues_noCycle (version : String) : NoCycle (versionIssues version) := by
  unfold versionIssues
  split <;> simp

theorem declarationIssues_noCycle (declared : Dict String) :
    NoCycle (declarationIssues declared) := by
  intro i h_i
  obtain ⟨e, -, h_e⟩ := List.mem_filterMap.1 h_i
  split at h_e
  · cases h_e
  · obtain rfl := Option.some.inj h_e
    simp [Issue.plain]

theorem idIssues_noCycle (path id : String) (earlier : Option String) :
    NoCycle (idIssues path id earlier) := by
  unfold idIssues
  cases earlier <;> split <;> simp [Issue.plain]

theorem charsetIssues_noCycle (declared : Dict String) (path : String) (charset : Option String) :
    NoCycle (charsetIssues declared path charset) := by
  unfold charsetIssues
  split
  · simp
  · split <;> simp

theorem checkedDate_noCycle (path text : String) : NoCycle (checkedDate path text).2 := by
  unfold checkedDate
  split <;> simp [fieldIssue, Issue.plain]

theorem formatIssues_noCycle (path : String) (format : Option String) :
    NoCycle (formatIssues path format) := by
  unfold formatIssues
  split
  · simp
  · split <;> simp [fieldIssue, Issue.plain]

theorem fieldIssues_noCycle (path : String) (spec : FieldSpec) :
    NoCycle (fieldIssues path spec) := by
  unfold fieldIssues
  split
  · split <;> simp [fieldIssue, Issue.plain]
  · split <;> simp [fieldIssue, Issue.plain]
  · -- the order of the days is looked at only if both can be read
    simp only [noCycle_append, checkedDate_noCycle, formatIssues_noCycle, true_and, and_true]
    split
    · split <;> simp [fieldIssue, Issue.plain]
    · simp
  · split <;> simp [fieldIssue, Issue.plain]
  · split <;> simp [fieldIssue, Issue.plain]

theorem Kind.issues_noCycle (path : String) (k : Kind) : NoCycle (k.issues path) := by
  unfold Kind.issues
  split
  · exact fieldIssues_noCycle _ _
  · simp [Issue.plain]
  · simp

/-- What is mentioned is not looked at for cycles. -/
theorem mentionIssues_noCycle (charsets : Dict String) (ms : List Mention) (seen : Dict String) :
    NoCycle (mentionIssues charsets seen ms) := by
  induction ms generalizing seen with
  | nil => exact noCycle_nil
  | cons m ms ih =>
    match m with
    | .unnamed _ _ => simp [mentionIssues, ih]
    | .reference _ _ _ => exact ih seen
    | .constraint _ _ none _ _ =>
      simp [mentionIssues, charsetIssues_noCycle, Kind.issues_noCycle, ih]
    | .constraint _ _ (some _) _ _ =>
      simp [mentionIssues, idIssues_noCycle, charsetIssues_noCycle, Kind.issues_noCycle, ih]

theorem referenceIssues_noCycle (declared : Dict String) (ms : List Mention) :
    NoCycle (referenceIssues declared ms) := by
  intro i h_i
  obtain ⟨⟨id, path⟩, -, h_e⟩ := List.mem_filterMap.1 h_i
  by_cases h_id : declared.contains id = true
  · simp [h_id] at h_e
  · simp only [h_id] at h_e
    obtain rfl := Option.some.inj h_e
    simp

/-! ### The whole check -/

/-- A cycle of ids is reported as such. -/
theorem code_of_mem_cycleIssues {d : Dependencies} {i : Issue} (h : i ∈ cycleIssues d) :
    i.code = "reference_cycle" := by
  unfold cycleIssues at h
  split at h
  · exact absurd h List.not_mem_nil
  · rw [List.mem_singleton.1 h]

/-- **Cycles are reported.** The check reports a cycle exactly when an id needs itself. -/
theorem hasCode_cycle_iff (c : Config) :
    c.check.hasCode "reference_cycle" = true ↔ ¬ c.dependencies.IsAcyclic := by
  have h_others : NoCycle (versionIssues c.version ++ declarationIssues c.charsets ++
      mentionIssues c.charsets .empty c.mentions ++
        referenceIssues c.declarations c.mentions) := by
    simp [versionIssues_noCycle, declarationIssues_noCycle, mentionIssues_noCycle,
      referenceIssues_noCycle]
  have h_warnings : NoCycle c.check.warnings := by
    unfold check
    split <;> simp [Issue.plain]
  rw [← cycleIssues_eq_nil_iff, Report.hasCode, List.any_eq_true]
  constructor
  · -- no other part of the check reports it, so if there is no cycle, it is not reported
    rintro ⟨i, h_i, h_code⟩ h_none
    have h_code : i.code = "reference_cycle" := of_decide_eq_true h_code
    rcases List.mem_append.1 h_i with h_error | h_warning
    · rcases List.mem_append.1 h_error with h_other | h_cycle
      · exact h_others i h_other h_code
      · rw [h_none] at h_cycle
        exact absurd h_cycle List.not_mem_nil
    · exact h_warnings i h_warning h_code
  · intro h_some
    obtain ⟨i, h_i⟩ := List.exists_mem_of_ne_nil _ h_some
    refine ⟨i, List.mem_append_left _ (List.mem_append_right _ h_i), ?_⟩
    exact decide_eq_true (code_of_mem_cycleIssues h_i)

end Config

/-! ### Circles of nodes -/

/-- Where there are no rules, places lead to their parts only. -/
theorem Config.leads_iff_hasPart {c : Config}
    (h_rules : ∀ p x, c.at? p = some x → x.kind.ruleId? = none) {p q : Place} :
    c.Leads p q ↔ c.HasPart p q := by
  constructor
  · intro h
    cases h with
    | embedding h_x h_part => exact .embedding h_x h_part
    | reference h_x h_ref h_y h_id => exact .reference h_x h_ref h_y h_id
    | rule h_x h_rule _ _ => cases (h_rules _ _ h_x).symm.trans h_rule
  · exact HasPart.leads

/-- **Cycles of a configuration.** If a graph mirrors the configuration and there are no rules, the
check reports a cycle exactly when some registered node leads to a circle. -/
theorem Graph.Mirrors.hasCode_cycle_iff_leadsToCircle {g : Graph} {c : Config} {tops : List Node}
    (h : g.Mirrors c tops) (h_rules : ∀ p x, c.at? p = some x → x.kind.ruleId? = none)
    (ignoreOptional : Bool) : c.check.hasCode "reference_cycle" = true ↔
      ∃ id n, g.nodes.get? id = some n ∧ Scope.LeadsToCircle ⟨g.nodes, ignoreOptional⟩ n := by
  have h_leads : c.Leads = c.HasPart :=
    funext fun p => funext fun q => propext (Config.leads_iff_hasPart h_rules)
  -- building has made sure of what sorting the ids needs
  have h_acyclic := Config.dependencies_isAcyclic_iff h.id_isSome h.ids_nodup
    fun _ _ _ h_x h_id => h.named_mem_ids h_x h_id
  calc c.check.hasCode "reference_cycle" = true
    _ ↔ ¬ c.dependencies.IsAcyclic := c.hasCode_cycle_iff
    _ ↔ ∃ p, Relation.TransGen c.HasPart p p := by rw [h_acyclic, h_leads]; push Not; rfl
    _ ↔ ∃ n, g.Holds n ∧ Relation.TransGen (Scope.Links ⟨g.nodes, ignoreOptional⟩) n n :=
      h.exists_circle_iff.symm
    _ ↔ ∃ id n, g.nodes.get? id = some n ∧ Scope.LeadsToCircle ⟨g.nodes, ignoreOptional⟩ n :=
      Graph.exists_leadsToCircle_iff.symm

namespace Generator

variable {g : Generator} {c : Config} {m : Memory} {sets : CharacterSets} {roots : List String}

/-- Collecting the ids below a registered one fails as re-entrant exactly when its node leads to a
circle. -/
theorem containedIds_reentrant_iff {tops : List Node} (h : g.graph.Mirrors c tops)
    (h_quiet : m.Quiet) {id : String} {n : Node} (h_get : g.graph.nodes.get? id = some n) :
    (∃ f m', g.containedIds id m = (.error f, m') ∧ f.IsReentrant) ↔ g.scope.LeadsToCircle n := by
  rw [containedIds, find_eq h_get, pure_bind]
  exact Node.containedIds_reentrant_iff (g.graph.holds_closed g.ignoreOptional)
    (fun n h_n => h.key_lt h_n) (Nat.lt_succ_self g.graph.size)
    (fun n n' h_n h_n' h_key => h.eq_of_key_eq h_n h_n' h_key)
    (fun n link h_n h_link => h.exists_target h_n h_link) ⟨id, n, h_get, n.inside_self⟩
    fun key => (h_quiet key).2

/-- **The two defences agree.** Take a graph that was built from a configuration without rules, and
any point of a session with it where the generator rests. The check of the configuration reports a
cycle exactly when collecting the ids below some registered id fails, with the cause that a node
was re-entered. -/
theorem Session.hasCode_cycle_iff_reentrant (h : g.Session m)
    (h_build : Graph.buildConfig c (.empty sets) = (.ok roots, g.graph))
    (h_rules : ∀ p x, c.at? p = some x → x.kind.ruleId? = none) :
    c.check.hasCode "reference_cycle" = true ↔
      ∃ id ∈ g.graph.ids, ∃ f m', g.containedIds id m = (.error f, m') ∧ f.IsReentrant := by
  obtain ⟨tops, h_mirrors⟩ := Graph.mirrors_of_buildConfig h_build
  rw [h_mirrors.hasCode_cycle_iff_leadsToCircle h_rules g.ignoreOptional]
  constructor
  · rintro ⟨id, n, h_get, h_circle⟩
    refine ⟨id, Dict.mem_keys_iff.2 (Dict.contains_iff.2 ⟨n, h_get⟩), ?_⟩
    exact (containedIds_reentrant_iff h_mirrors h.coherent_quiet.2 h_get).2 h_circle
  · rintro ⟨id, h_id, h_fails⟩
    obtain ⟨n, h_get⟩ := Dict.contains_iff.1 (Dict.mem_keys_iff.1 h_id)
    exact ⟨id, n, h_get,
      (containedIds_reentrant_iff h_mirrors h.coherent_quiet.2 h_get).1 h_fails⟩

/-- A source whose child, which has no id, shows another source that leads back to the first. -/
def loop : Config :=
  ⟨Config.supportedVersion, none, .empty, [
    .mk (some "a") none (.source (.embedded (.mk none none (.combined [.reference "b"] "")))),
    .mk (some "b") none (.source (.reference "a"))]⟩

theorem ruleId?_loop {p : Place} {x : Config.Constraint} (h : loop.at? p = some x) :
    x.kind.ruleId? = none := by
  match p with
  | i :: p =>
    obtain ⟨y, h_y, h_x⟩ := Config.at?_cons.1 h
    refine Config.Constraint.forall_at?_of_parts (P := fun x => x.kind.ruleId? = none) ?_
      (fun z h_z => ?_) p x h_x
    all_goals rcases List.mem_pair.1 (List.mem_of_getElem? h_y) with rfl | rfl
    · rfl
    · rfl
    · -- the child without an id has only a reference
      obtain rfl := Config.Child.embedded.inj (List.mem_singleton.1 h_z)
      exact Config.Constraint.forall_at?_of_parts rfl fun w h_w => nomatch List.mem_singleton.1 h_w
    · cases List.mem_singleton.1 h_z

/-- The loop is noticed by the nodes, and so by the check. -/
theorem Session.hasCode_cycle_loop : loop.check.hasCode "reference_cycle" = true := by
  let g := (Generator.empty {} 0).afterBuild (Graph.buildConfig loop)
  let m := (Generator.empty {} 0).freshMemory.withDraws default
  have h_session : g.Session m := (Session.empty {} 0 default).buildConfig loop
  have h_build : Graph.buildConfig loop (.empty .builtin) = (.ok ["a", "b"], g.graph) := rfl
  refine (h_session.hasCode_cycle_iff_reentrant h_build fun _ _ => ruleId?_loop).2 ?_
  have h_error : (g.containedIds "a" m).1.map (fun _ => ()) = .error (.fault
      (.inNode "a" (.inNode "a (anonymous child)" (.inNode "b" (.reentrant "a"))))) := by
    decide +kernel
  rcases h_run : g.containedIds "a" m with ⟨f | ids, m'⟩
  · rw [h_run] at h_error
    obtain rfl := Except.error.inj h_error
    exact ⟨"a", by decide, _, m', h_run, rfl⟩
  · rw [h_run] at h_error
    cases h_error

end Generator

end Specimen
