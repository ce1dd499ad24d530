import Specimen.Proofs.Generator.Midway
import Specimen.Proofs.Generator.Session
import Specimen.Proofs.Node.Deciding

/-!
# Optional roots take turns

A root that is optional by choice, and to which nothing refers, is decided once in each pass: when
the first request reaches it, be it that of the pass or that of a rule. From then on it keeps a
value, so that the roots behind it do not decide it again (`Represents.ends_fill_turns`). What the
child is asked for in the pass is therefore what the case and the choice say.

Passes without a case flip the choice, and no other passes and no questions do
(`Represents.inTurn_of_passed`). As the flips of a choice come in pairs of opposite sides, the
child is generated in one pass of each pair and left out in the other (`passes_alternate`).
-/

namespace Specimen

namespace Generator

/-- A point of the evaluations of ids that are asked for a case, one after the other. -/
inductive OnTheWay (g : Generator) (case : FieldCase) :
    List String → Memory → Evaluation → Prop where
  | first {id ids n m x} (h_get : g.graph.nodes.get? id = some n)
    (h_steps : g.scope.Steps ⟨[], .ask n case, m⟩ x) : OnTheWay g case (id :: ids) m x
  | later {id ids m x} (h : OnTheWay g case ids (g.value id case m).2 x) :
    OnTheWay g case (id :: ids) m x

/-- What a node asks its child for in a pass for a case. -/
def PassAsks (g : Generator) (k : Node) (child : Link) (case : FieldCase) (m : Memory)
    (asked : Option FieldCase) : Prop :=
  g.scope.AskedAt k child (g.OnTheWay case g.roots (g.beginPass m).2) asked

/-- From a memory on, passes return data sets, and between them questions are asked that look for
cases or ids. Of each pass there is the case and the memory in which it begins. -/
inductive Passed (g : Generator) (start : Memory) : List (FieldCase × Memory) → Memory → Prop where
  | start : Passed g start [] start
  | pass {past m case d m'} (h : Passed g start past m) (h_pass : g.generate case m = (.ok d, m')) :
    Passed g start (past ++ [(case, m)]) m'
  | hasNextCase {past m} (h : Passed g start past m) : Passed g start past (g.hasNextCase m).2
  | countCases {past m} (h : Passed g start past m) : Passed g start past (g.countCases m).2
  | containedIds {past m} (h : Passed g start past m) (id : String) :
    Passed g start past (g.containedIds id m).2
  | nodeHasNext {past m n} (h : Passed g start past m) (h_n : g.graph.Holds n) :
    Passed g start past (g.nodeHasNext n m).2
  | nodeCount {past m n} (h : Passed g start past m) (h_n : g.graph.Holds n) :
    Passed g start past (g.nodeCount n m).2

/-- The passes without a case. -/
def undirected (past : List (FieldCase × Memory)) : List (FieldCase × Memory) :=
  past.filter fun p => p.1 = .normal

theorem length_undirected (past : List (FieldCase × Memory)) :
    (undirected past).length = (past.map Prod.fst).count .normal := by
  rw [undirected, ← List.countP_eq_length_filter, List.count, List.countP_map]
  rfl

/-- What a node has decided in some passes: in those without a case it has flipped its choice, and
in the others it has passed the request on to its child, unless it was one for null. -/
structure Alternates (g : Generator) (k : Node) (child : Link) (past : List (FieldCase × Memory))
    (sides : List Bool) : Prop where
  normal : List.Forall₂ (fun p side =>
    g.PassAsks k child .normal p.2 (some (if side then .normal else .null))) (undirected past) sides
  explicit : ∀ p ∈ past, p.1 ≠ .normal →
    g.PassAsks k child p.1 p.2 (if p.1 = .null then none else some p.1.computed)

/-- Between two passes nothing is being evaluated, no node is overridden, and the choice is what the
passes so far have made of a fresh one. -/
structure InTurn (g : Generator) (k : Node) (child : Link) (past : List (FieldCase × Memory))
    (m : Memory) : Prop where
  quiet : m.Quiet
  free : Unfixed m
  sides : ∃ sides, g.Alternates k child past sides ∧
    FairChoice.Showed sides (m.cell k.key).choice

/-- No value is kept, and the choice is as before. -/
structure Awaits (k : Node) (before : FairChoice) (m : Memory) : Prop where
  choice : (m.cell k.key).choice = before
  cache : (m.cell k.key).cache = none

/-- A value is kept, and the choice is as it was when this one was decided. -/
structure Turned (k : Node) (after : FairChoice) (m : Memory) : Prop where
  choice : (m.cell k.key).choice = after
  cache : (m.cell k.key).cache ≠ none

/-- What the evaluations of some roots make of a node with an id. Once it is decided, it stays so
and asks for nothing. Before that it turns, and asks its child for what it turns to; or it is not
among the roots, and has asked for nothing. -/
structure Turns (g : Generator) (k : Node) (child : Link) (own : String) (case : FieldCase)
    (ids : List String) (m m' : Memory) : Prop where
  turned : ∀ after, Turned k after m →
    Turned k after m' ∧ g.scope.AskedAt k child (g.OnTheWay case ids m) none
  awaits : ∀ before, Awaits k before m →
    (own ∉ ids ∧ g.scope.AskedAt k child (g.OnTheWay case ids m) none) ∨
    ∃ asked after, before.Turn case asked after ∧ Turned k after m' ∧
      g.scope.AskedAt k child (g.OnTheWay case ids m) asked

section Pass

variable {g : Generator} {case : FieldCase} {id : String} {ids : List String} {n k : Node}
  {child : Link} {m m' : Memory} {v : Option String} {past : List (FieldCase × Memory)}

/-- What is asked at the points of the first evaluation or of the others. -/
theorem askedAt_cons (h_get : g.graph.nodes.get? id = some n)
    (h_value : g.value id case m = (.ok v, m')) {asked asked' : Option FieldCase}
    (h_first : g.scope.AskedAt k child (g.scope.Steps ⟨[], .ask n case, m⟩) asked)
    (h_later : g.scope.AskedAt k child (g.OnTheWay case ids m') asked')
    (h_once : asked = none ∨ asked' = none) :
    g.scope.AskedAt k child (g.OnTheWay case (id :: ids) m) (asked.or asked') := by
  intro c
  obtain rfl : (g.value id case m).2 = m' := congrArg Prod.snd h_value
  have h_or : asked.or asked' = some c ↔ asked = some c ∨ asked' = some c := by
    rcases h_once with rfl | rfl <;> simp
  rw [h_or, ← h_first c, ← h_later c]
  constructor
  · rintro ⟨x, h_x, h_asks⟩
    cases h_x with
    | first h_get' h_steps =>
      obtain rfl := Option.some.inj (h_get.symm.trans h_get')
      exact .inl ⟨x, h_steps, h_asks⟩
    | later h_x => exact .inr ⟨x, h_x, h_asks⟩
  · rintro (⟨x, h_steps, h_asks⟩ | ⟨x, h_x, h_asks⟩)
    · exact ⟨x, .first h_get h_steps, h_asks⟩
    · exact ⟨x, .later h_x, h_asks⟩

/-- After the last root there is no other point. -/
theorem askedAt_nil : g.scope.AskedAt k child (g.OnTheWay case [] m) none :=
  fun _ => ⟨nofun, nofun⟩

/-- A node that is decided at the end of an evaluation keeps a value. -/
theorem turned_of_decided {asked : Option FieldCase} {after : FairChoice}
    (h : Evaluation.Decided k asked after ⟨[], .answer v, m⟩) : Turned k after m where
  choice := h.choice
  cache := by
    refine h.done.resolve_right ?_
    rintro ⟨fr, h_fr, -⟩
    cases h_fr

/-- **One more pass**, and what the node turned to in it. -/
theorem Alternates.exists_append {sides : List Bool} {before after : FairChoice}
    {asked : Option FieldCase} (h_past : g.Alternates k child past sides)
    (h_showed : FairChoice.Showed sides before) (h_turn : before.Turn case asked after)
    (h_asks : g.PassAsks k child case m asked) :
    ∃ sides', g.Alternates k child (past ++ [(case, m)]) sides' ∧
      FairChoice.Showed sides' after := by
  have h_append : undirected (past ++ [(case, m)]) = undirected past ++ undirected [(case, m)] :=
    List.filter_append ..
  -- only a pass without a case adds a side, and the others have to be told apart from it
  have h_explicit : (case ≠ .normal →
      g.PassAsks k child case m (if case = .null then none else some case.computed)) →
        ∀ p ∈ past ++ [(case, m)], p.1 ≠ .normal →
          g.PassAsks k child p.1 p.2 (if p.1 = .null then none else some p.1.computed) := by
    intro h_last p h_p
    rcases List.mem_append.1 h_p with h_p | h_p
    · exact h_past.explicit p h_p
    · obtain rfl := List.mem_singleton.1 h_p
      exact h_last
  cases h_turn with
  | absent =>
    refine ⟨sides, ⟨?_, h_explicit fun _ => h_asks⟩, h_showed⟩
    rw [h_append]
    exact (List.append_nil _).symm ▸ h_past.normal
  | explicit h_normal h_null =>
    refine ⟨sides, ⟨?_, h_explicit fun _ => ?_⟩, h_showed⟩
    · have h_none : undirected [(case, m)] = [] := by simp [undirected, h_normal]
      rw [h_append, h_none, List.append_nil]
      exact h_past.normal
    · rw [if_neg h_null]
      exact h_asks
  | @chosen side _ _ _ h_next =>
    refine ⟨sides ++ [side], ⟨?_, h_explicit fun h_normal => absurd rfl h_normal⟩,
      h_showed.next h_next⟩
    rw [h_append]
    exact List.rel_append h_past.normal (.cons h_asks .nil)

/-- Where no cell changes, nothing does. -/
theorem InTurn.same (h : g.InTurn k child past m) (h_same : m.Same m') :
    g.InTurn k child past m' where
  quiet := h_same.quiet h.quiet
  free key := (congrArg Cell.override (h_same.cell key)).trans (h.free key)
  sides := by
    rw [h_same.cell k.key]
    exact h.sides

end Pass

namespace Represents

variable {g : Generator} {c : Config} {tops : List Node} {case : FieldCase} {id : String}
  {n k : Node} {child : Link} {m m' : Memory} {v : Option String} {before after : FairChoice}
  {asked : Option FieldCase}
  (h : g.Represents c tops)
include h

/-! ### One pass -/

omit h in
/-- A request of the pass itself. -/
theorem regular_start (h_n : Member tops n) (h_quiet : m.Quiet) (h_free : Unfixed m) :
    Evaluation.Regular g.scope (Member tops) k case ⟨[], .ask n case, m⟩ where
  guarded := .start h_quiet _
  fresh := nofun
  within := ⟨nofun, h_n⟩
  proper := ⟨nofun, fun n' c' h_ask => by cases h_ask; exact ⟨id, fun _ => rfl⟩⟩
  free := h_free

/-- A root answers at the end of its evaluation. -/
theorem steps_of_value (h_get : g.graph.nodes.get? id = some n) (h_quiet : m.Quiet)
    (h_value : g.value id case m = (.ok v, m')) :
    g.scope.Steps ⟨[], .ask n case, m⟩ ⟨[], .answer v, m'⟩ ∧ m.Settled m' := by
  have h_member := (h.get?_iff.1 h_get).1
  rw [value, find_eq h_get, pure_bind] at h_value
  have h_steps := Node.value_guarded (c := case) (fun _ _ => h.member_of_calls)
    (fun _ => h.key_lt) (Nat.lt_succ_self g.graph.size) h_member (.start h_quiet _)
  exact ⟨h_steps.of_ok h_value,
    (h.nodeValue_settles (crashesOnly_true _) h_member case h_quiet).of_ok h_value⟩

section Lonely

variable (h_lonely : g.scope.Lonely (Member tops) k child)
include h_lonely

/-- **A root that is asked before the decision** leaves it open, unless it is the node itself; or it
has led to the node, which has turned. -/
theorem value_turns (h_get : g.graph.nodes.get? id = some n) (h_quiet : m.Quiet)
    (h_free : Unfixed m) (h_awaits : Awaits k before m)
    (h_value : g.value id case m = (.ok v, m')) :
    (Awaits k before m' ∧ n ≠ k ∧
      g.scope.AskedAt k child (g.scope.Steps ⟨[], .ask n case, m⟩) none) ∨
    ∃ asked after, before.Turn case asked after ∧ Turned k after m' ∧
      g.scope.AskedAt k child (g.scope.Steps ⟨[], .ask n case, m⟩) asked := by
  have h_start : Evaluation.Regular g.scope (Member tops) k case ⟨[], .ask n case, m⟩ :=
    regular_start (h.get?_iff.1 h_get).1 h_quiet h_free
  obtain ⟨h_steps, h_settled⟩ := h.steps_of_value h_get h_quiet h_value
  have h_undecided : Evaluation.Undecided g.scope k child before ⟨[], .ask n case, m⟩ :=
    ⟨h_awaits.choice, h_awaits.cache, nofun⟩
  rcases h_undecided.steps h_lonely h_start h_steps with ⟨h_end, h_none⟩ |
    ⟨asked, after, h_turn, h_end, h_asked⟩
  · refine .inl ⟨⟨h_end.choice, h_end.cache⟩, ?_, h_none⟩
    -- the node itself keeps what it answers
    rintro rfl
    rw [value, find_eq h_get, pure_bind] at h_value
    obtain ⟨hops, -, h_fixed⟩ :=
      Node.value_fixes h_start.guarded h_start.fresh h_free.constantOverrides h_value
    cases h_fixed with
    | overridden h_override => cases (h_free.of_settled h_settled _).symm.trans h_override
    | kept _ _ h_cache => cases h_end.cache.symm.trans h_cache
    | constant _ h_kind => cases h_lonely.kind.symm.trans h_kind
    | source _ h_kind => cases h_lonely.kind.symm.trans h_kind
  · exact .inr ⟨asked, after, h_turn, turned_of_decided h_end, h_asked⟩

/-- **A root that is asked after the decision** changes nothing about it. -/
theorem value_turned (h_get : g.graph.nodes.get? id = some n) (h_quiet : m.Quiet)
    (h_free : Unfixed m) (h_turned : Turned k after m)
    (h_value : g.value id case m = (.ok v, m')) : Turned k after m' ∧
      g.scope.AskedAt k child (g.scope.Steps ⟨[], .ask n case, m⟩) none := by
  have h_start : Evaluation.Regular g.scope (Member tops) k case ⟨[], .ask n case, m⟩ :=
    regular_start (h.get?_iff.1 h_get).1 h_quiet h_free
  have h_decided : Evaluation.Decided k none after ⟨[], .ask n case, m⟩ :=
    ⟨h_turned.choice, .inl h_turned.cache, nofun, nofun⟩
  obtain ⟨h_steps, -⟩ := h.steps_of_value h_get h_quiet h_value
  have h_end := (h_decided.steps h_lonely h_start h_steps).resolve_right nofun
  refine ⟨turned_of_decided h_end, fun c => ⟨?_, nofun⟩⟩
  -- a node that was decided to ask for nothing asks for nothing
  rintro ⟨x, h_x, h_asks⟩
  exact h_decided.asked_eq_of_steps h_lonely h_start h_x h_asks

/-- **One more root** before the others. -/
theorem turns_cons {own : String} (h_own : g.graph.nodes.get? own = some k) {ids : List String}
    {m₁ : Memory} (h_get : g.graph.nodes.get? id = some n) (h_quiet : m.Quiet)
    (h_free : Unfixed m) (h_value : g.value id case m = (.ok v, m₁))
    (h_rest : g.Turns k child own case ids m₁ m') : g.Turns k child own case (id :: ids) m m' where
  turned after h_turned := by
    obtain ⟨h_turned₁, h_first⟩ := h.value_turned h_lonely h_get h_quiet h_free h_turned h_value
    obtain ⟨h_end, h_later⟩ := h_rest.turned after h_turned₁
    exact ⟨h_end, askedAt_cons h_get h_value h_first h_later (.inl rfl)⟩
  awaits before h_awaits := by
    rcases h.value_turns h_lonely h_get h_quiet h_free h_awaits h_value with
      ⟨h_awaits₁, h_ne, h_first⟩ | ⟨asked, after, h_turn, h_turned, h_first⟩
    · -- the root has not led to the node, so the decision is left to the roots behind it
      rcases h_rest.awaits before h_awaits₁ with
        ⟨h_not, h_later⟩ | ⟨asked, after, h_turn, h_turned, h_later⟩
      · have h_id : own ≠ id := by
          rintro rfl
          exact h_ne (Option.some.inj (h_get.symm.trans h_own))
        exact .inl ⟨List.not_mem_cons_of_ne_of_not_mem h_id h_not,
          askedAt_cons h_get h_value h_first h_later (.inl rfl)⟩
      · exact .inr ⟨asked, after, h_turn, h_turned,
          askedAt_cons h_get h_value h_first h_later (.inl rfl)⟩
    · -- the decision has been made, and the roots behind do not ask the child again
      obtain ⟨h_end, h_later⟩ := h_rest.turned after h_turned
      have h_all := askedAt_cons h_get h_value h_first h_later (.inr rfl)
      rw [Option.or_none] at h_all
      exact .inr ⟨asked, after, h_turn, h_end, h_all⟩

/-- **The roots of a pass**, one after the other. -/
theorem ends_fill_turns {own : String} (h_own : g.graph.nodes.get? own = some k) (number : Nat)
    (ids : List String) (h_ids : ∀ id ∈ ids, id ∈ g.roots) (d : DataSet) (h_quiet : m.Quiet)
    (h_free : Unfixed m) :
    Ends (g.fill case number ids d) m (fun _ m' => g.Turns k child own case ids m m') Anyhow := by
  induction ids generalizing d m with
  | nil =>
    exact ⟨fun _ h_turned => ⟨h_turned, askedAt_nil⟩,
      fun _ _ => .inl ⟨List.not_mem_nil, askedAt_nil⟩⟩
  | cons id ids ih =>
    obtain ⟨h_id, h_rest⟩ := List.forall_mem_cons.1 h_ids
    obtain ⟨n, -, h_get, -⟩ := h.get?_root h_id
    rw [fill, ends_bind]
    refine ends_true_iff.2 fun v m₁ h_value => ?_
    obtain ⟨-, h_settled⟩ := h.steps_of_value h_get h_quiet h_value
    exact (ih h_rest _ (h_settled.quiet h_quiet) (h_free.of_settled h_settled)).mono
      (fun _ _ => h.turns_cons h_lonely h_own h_get h_quiet h_free h_value) fun _ _ _ => trivial

/-- **A pass.** The node turns, and asks its child for what it turns to. -/
theorem generate_turns (h_root : id ∈ g.roots) (h_own : g.graph.nodes.get? id = some k)
    (h_quiet : m.Quiet) (h_free : Unfixed m) {d : DataSet}
    (h_pass : g.generate case m = (.ok d, m')) :
    ∃ asked, (m.cell k.key).choice.Turn case asked (m'.cell k.key).choice ∧
      g.PassAsks k child case m asked := by
  have h_settled := settled_passBegun tops m
  have h_cell := cell_passBegun (m := m) h_lonely.member
  have h_awaits : Awaits k (m.cell k.key).choice (passBegun tops m) :=
    ⟨by rw [h_cell]; rfl, by rw [h_cell]; rfl⟩
  have h_ends : Ends (g.generate case) m (fun _ m' =>
      ∃ asked, (m.cell k.key).choice.Turn case asked (m'.cell k.key).choice ∧
        g.PassAsks k child case m asked) Anyhow := by
    rw [generate, ends_bind, h.ends_beginPass, ends_bind]
    refine (h.ends_fill_turns h_lonely h_own (m.passes + 1) g.roots (fun _ h_id => h_id) .empty
      (h_settled.quiet h_quiet) (h_free.of_settled h_settled)).mono (fun d' m' h_turns => ?_)
        fun _ _ _ => trivial
    -- the node is one of the roots
    obtain ⟨asked, after, h_turn, h_turned, h_asked⟩ :=
      (h_turns.awaits _ h_awaits).resolve_left fun h_not => h_not.1 h_root
    rw [ends_bind, ends_log, ends_pure]
    refine ⟨asked, ?_, ?_⟩
    · exact h_turned.choice ▸ h_turn
    · rw [PassAsks, h.memory_beginPass]
      exact h_asked
  exact h_ends.of_ok h_pass

end Lonely

/-! ### All passes -/

/-- **All passes.** -/
theorem inTurn_of_passed (h_graph : g.graph.Coherent)
    (h_lonely : g.scope.Lonely (Member tops) k child) (h_root : id ∈ g.roots)
    (h_own : g.graph.nodes.get? id = some k) {start : Memory} (h_quiet : start.Quiet)
    (h_free : Unfixed start) (h_fresh : (start.cell k.key).choice = .fresh)
    {past : List (FieldCase × Memory)} (h_passed : g.Passed start past m) :
    g.InTurn k child past m := by
  induction h_passed with
  | start =>
    refine ⟨h_quiet, h_free, [], ⟨.nil, nofun⟩, ?_⟩
    rw [h_fresh]
    exact FairChoice.showed_fresh
  | @pass past m case d m' _ h_pass ih =>
    obtain ⟨sides, h_past, h_showed⟩ := ih.sides
    have h_settled := (h.generate_settles (crashesOnly_true _) case ih.quiet).of_ok h_pass
    obtain ⟨asked, h_turn, h_asks⟩ :=
      h.generate_turns h_lonely h_root h_own ih.quiet ih.free h_pass
    exact ⟨h_settled.quiet ih.quiet, ih.free.of_settled h_settled,
      h_past.exists_append h_showed h_turn h_asks⟩
  -- looking for cases or ids changes nothing
  | hasNextCase _ ih => exact ih.same ((Runs.hasNextCase h_graph).same ih.quiet)
  | countCases _ ih => exact ih.same ((Runs.countCases h_graph).same ih.quiet)
  | containedIds _ id ih => exact ih.same ((Runs.containedIds h_graph id).same ih.quiet)
  | nodeHasNext _ h_n ih =>
    have h_runs := Runs.walk h_graph (Node.hasNextCase_walks g.scope g.fuel) h_n
    exact ih.same (h_runs.same ih.quiet)
  | nodeCount _ h_n ih =>
    have h_runs := Runs.walk h_graph (Node.countCases_walks g.scope g.fuel) h_n
    exact ih.same (h_runs.same ih.quiet)

/-- An optional constraint of the top level to which nothing else refers. -/
theorem exists_lonely {x : Config.Constraint} (h_x : x ∈ c.constraints) (h_id : x.id = some id)
    {part : Config.Child} (h_kind : x.kind = .optional part (.fixed false))
    (h_others : ∀ p y, c.at? p = some y → y.id ≠ some id → .reference id ∉ y.children)
    (h_heeds : g.ignoreOptional = false) : ∃ n link, g.graph.nodes.get? id = some n ∧
      g.scope.Lonely (Member tops) n link := by
  obtain ⟨n, i, h_place, h_get, h_mirrors⟩ := h.exists_get?_top h_x h_id
  -- what refers to itself is in a circle
  have h_unnamed : ∀ p y, c.at? p = some y → .reference id ∉ y.children := by
    intro p y h_y h_ref
    by_cases h_own : y.id = some id
    · exact h.wellFormed.acyclic p (.single (.reference h_y h_ref h_y h_own))
    · exact h_others p y h_y h_own h_ref
  rw [h_kind] at h_mirrors
  generalize h_node : n.kind = kind at h_mirrors
  cases h_mirrors with
  | @optional _ _ link _ _ =>
    exact ⟨n, link, h_get, {
      closed := fun _ _ => h.member_of_calls
      apart := fun _ _ => h.eq_of_key_eq
      heeding := h_heeds
      member := ⟨[i], h_place⟩
      kind := h_node
      unlinked := h.unlinked_of_top h_place h_get h_unnamed }⟩

end Represents

/-- **Optional roots take turns.** Take a root that is optional and never has to be there, and to
which nothing else refers, in a generator that heeds optional nodes. Let no node be overridden.
From the last time that the cases were reset, let passes for any cases return data sets, and let any
questions for cases and ids be asked between them; the random stream may be any.

In each pass the root asks its child for one case, or not at all. In the passes without a case it
asks for a value or for null, and the two passes of a pair, so the first and the second of them, the
third and the fourth and so on, take opposite sides. Hence the child is generated in half of them,
up to one, and the root has a case left just in case there were fewer than two. In the other passes
it asks for what the pass is for, and only in those for null it does not ask. -/
theorem passes_alternate {c : Config} {o : GeneratorOptions} {random : UInt64} {g : Generator}
    (h_ok : ofConfig c o random = .ok g) (h_heeds : o.ignoreOptional = false) {m : Memory}
    (h_reachable : g.Reachable m) (h_free : Unfixed m) {x : Config.Constraint}
    (h_x : x ∈ c.constraints) {id : String} (h_id : x.id = some id) {part : Config.Child}
    (h_kind : x.kind = .optional part (.fixed false))
    (h_others : ∀ p y, c.at? p = some y → y.id ≠ some id → .reference id ∉ y.children)
    {past : List (FieldCase × Memory)} {m' : Memory}
    (h_passed : g.Passed (g.resetCases m).2 past m') :
    ∃ n link sides, g.graph.nodes.get? id = some n ∧ n.kind = .optional link (.fixed false) ∧
      g.Alternates n link past sides ∧
      (∀ k a b, sides[2 * k]? = some a → sides[2 * k + 1]? = some b → b = !a) ∧
      ((past.map Prod.fst).count .normal / 2 ≤ sides.count true ∧
        sides.count true ≤ ((past.map Prod.fst).count .normal + 1) / 2) ∧
      (g.nodeHasNext n m').1 = .ok (decide ((past.map Prod.fst).count .normal < 2)) := by
  obtain ⟨⟨tops, h_of⟩, h_ignore, -⟩ := ofConfig_represents h_ok
  obtain ⟨n, link, h_get, h_lonely⟩ :=
    h_of.exists_lonely h_x h_id h_kind h_others (h_ignore.trans h_heeds)
  rw [h_of.memory_resetCases] at h_passed
  have h_settled := settled_casesReset tops m
  have h_fresh : ((casesReset tops m).cell n.key).choice = .fresh := by
    rw [Represents.cell_casesReset h_lonely.member]
    rfl
  have h_root := h_of.mem_roots_iff.2 ⟨x, h_x, h_id⟩
  have h_quiet := h_settled.quiet (h_of.quiet_of_reachable h_reachable)
  -- From a fresh choice the passes show the two sides in turn; the rest is counting.
  have h_turns := h_of.inTurn_of_passed (Session.coherent_ofConfig h_ok) h_lonely h_root h_get
    h_quiet (h_free.of_settled h_settled) h_fresh h_passed
  obtain ⟨sides, h_past, h_showed⟩ := h_turns.sides
  have h_length := (length_undirected past).symm.trans h_past.normal.length_eq
  refine ⟨n, link, sides, h_get, h_lonely.kind, h_past, fun k a b => h_showed.paired.opposite, ?_,
    ?_⟩
  · rw [h_length]
    exact h_showed.paired.count_bounds
  · rw [h_length, ← h_showed.hasNext_eq]
    exact h_lonely.hasNextCase_eq (h_turns.quiet n.key).2 g.graph.size

/-- A letter that is there if a note is, which comes after it and may be left out. -/
def letterAndNote : Config :=
  ⟨Config.supportedVersion, none, .empty, [
    .mk (some "letter") none
      (.optional (.embedded (.mk none none (.constant "x"))) (.whenPresent "note")),
    .mk (some "note") none (.optional (.embedded (.mk none none (.constant "y"))) (.fixed false))]⟩

theorem unnamed_letterAndNote {p : Place} {y : Config.Constraint}
    (h_y : letterAndNote.at? p = some y) : .reference "note" ∉ y.children := by
  match p with
  | i :: p =>
    obtain ⟨x, h_x, h_y⟩ := Config.at?_cons.1 h_y
    -- all parts are embedded
    refine Config.Constraint.forall_at?_of_parts (P := fun z => .reference "note" ∉ z.children)
      ?_ (fun z h_z => ?_) p y h_y
    all_goals rcases List.mem_pair.1 (List.mem_of_getElem? h_x) with rfl | rfl
    · exact fun h_mem => nomatch List.mem_singleton.1 h_mem
    · exact fun h_mem => nomatch List.mem_singleton.1 h_mem
    · cases List.mem_singleton.1 h_z
      exact Config.Constraint.forall_at?_of_parts List.not_mem_nil fun _ h_none => nomatch h_none
    · cases List.mem_singleton.1 h_z
      exact Config.Constraint.forall_at?_of_parts List.not_mem_nil fun _ h_none => nomatch h_none

/-- The note is there in one of two passes, between which there is one for blanks. -/
theorem passes_alternate_letterAndNote : ∃ g past m', ofConfig letterAndNote {} 0 = .ok g ∧
    g.Reachable (g.freshMemory.withDraws default) ∧
    Unfixed (g.freshMemory.withDraws default) ∧
    g.Passed (g.resetCases (g.freshMemory.withDraws default)).2 past m' ∧
    past.map Prod.fst = [.normal, .blank, .normal] ∧
    ∃ n link sides, g.graph.nodes.get? "note" = some n ∧ g.Alternates n link past sides ∧
      sides.count true = 1 ∧ (g.nodeHasNext n m').1 = .ok false := by
  have h_run : (ofConfig letterAndNote {} 0).toOption.map (fun g =>
      let m₀ := (g.resetCases (g.freshMemory.withDraws default)).2
      let m₁ := (g.generate .normal m₀).2
      let m₂ := (g.generate .blank m₁).2
      ((g.generate .normal m₀).1.toOption.isSome, (g.generate .blank m₁).1.toOption.isSome,
        (g.generate .normal m₂).1.toOption.isSome)) = some (true, true, true) := by decide +kernel
  obtain ⟨g, h_ok, h_g⟩ := exists_ok_of_map h_run
  obtain ⟨h_first, h_g⟩ := Prod.mk.inj h_g
  obtain ⟨h_second, h_third⟩ := Prod.mk.inj h_g
  obtain ⟨_, h_first⟩ := Option.isSome_iff_exists.1 h_first
  obtain ⟨_, h_second⟩ := Option.isSome_iff_exists.1 h_second
  obtain ⟨_, h_third⟩ := Option.isSome_iff_exists.1 h_third
  obtain ⟨past, m', h_passed, h_past⟩ : ∃ past m',
      g.Passed (g.resetCases (g.freshMemory.withDraws default)).2 past m' ∧
        past.map Prod.fst = [.normal, .blank, .normal] :=
    ⟨_, _, ((Passed.start.pass (eq_ok_of_toOption h_first)).pass
      (eq_ok_of_toOption h_second)).pass (eq_ok_of_toOption h_third), rfl⟩
  have h_free : Unfixed (g.freshMemory.withDraws default) := fun _ => rfl
  obtain ⟨n, link, sides, h_get, -, h_sides, -, h_count, h_next⟩ :=
    passes_alternate h_ok rfl (.start default) h_free (.tail _ (.head _)) rfl rfl
      (fun _ _ h_y _ => unnamed_letterAndNote h_y) h_passed
  rw [h_past] at h_count h_next
  exact ⟨g, past, m', h_ok, .start default, h_free, h_passed, h_past, n, link, sides, h_get,
    h_sides, Nat.le_antisymm h_count.2 h_count.1, h_next⟩

end Generator

end Specimen
