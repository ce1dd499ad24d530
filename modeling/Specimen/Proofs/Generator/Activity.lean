import Specimen.Proofs.Generator.Requests
import Specimen.Proofs.Graph.Coherent
import Specimen.Proofs.Node.Looking

/-!
# What a generator does, step by step

At each point of its life a generator rests, evaluates a node, or looks through one (`Activity`).
`Generator.Acts` lists the steps that lead from one point to the next, for any graph of nodes: one
whose references lead in circles, or to nothing, as well.

* `Activity.Guarded` says of a point that tokens and marks show just what is going on there.
  `Activity.Sound` is the invariant behind it, which every step keeps (`Activity.Sound.act`).
* `Generator.Runs`: a computation goes from rest to rest in such steps, and never lacks fuel.
  `Request.runs` shows it of every request.
* `Generator.Runs.same`: what only looks through nodes leaves the memory as it was, even if it
  fails.
-/

namespace Specimen

/-- What a generator is doing. -/
inductive Activity where
  | resting (m : Memory)
  | evaluating (x : Evaluation)
  | walking (x : Walk)

namespace Activity

/-- What the nodes remember. -/
def memory : Activity → Memory
  | resting m => m
  | evaluating x => x.memory
  | walking x => x.memory

/-- The nodes that are generating, the innermost first. -/
def computing : Activity → List Evaluation.Frame
  | evaluating x => x.stack
  | _ => []

/-- The nodes that are being looked through, the innermost first. -/
def walked : Activity → List Node
  | walking x => x.stack
  | _ => []

end Activity

namespace Generator

variable (g : Generator)

/-- A node is evaluated. -/
inductive Evaluates : Activity → Activity → Prop where
  | ask {n c m} (h : g.graph.Holds n) : Evaluates (.resting m) (.evaluating ⟨[], .ask n c, m⟩)
  | step {x y} (h : g.scope.Step x y) : Evaluates (.evaluating x) (.evaluating y)
  | answered {v m} : Evaluates (.evaluating ⟨[], .answer v, m⟩) (.resting m)
  | failed {f m} : Evaluates (.evaluating ⟨[], .fail f, m⟩) (.resting m)

/-- A node is looked through. -/
inductive LooksThrough : Activity → Activity → Prop where
  | look {n m} (h : g.graph.Holds n) : LooksThrough (.resting m) (.walking ⟨[], .look n, m⟩)
  | step {x y} (h : g.scope.WalkStep x y) : LooksThrough (.walking x) (.walking y)
  | seen {m} : LooksThrough (.walking ⟨[], .back, m⟩) (.resting m)
  | failed {f m} : LooksThrough (.walking ⟨[], .fail f, m⟩) (.resting m)

/-- What is done to the memory between evaluations and walks. -/
inductive Tidies : Activity → Activity → Prop where
  | takeToken {m} : Tidies (.resting m) (.resting m.nextToken)
  | countPass {m} : Tidies (.resting m) (.resting { m with passes := m.passes + 1 })
  | log {e m} : Tidies (.resting m) (.resting (m.logged e))
  | resetValues {n m} : Tidies (.resting m) (.resting (m.resetValues n))
  | resetCases {n m} : Tidies (.resting m) (.resting (m.resetCases n))
  | fix {key values m} : Tidies (.resting m)
      (.resting (m.update key fun cell => { cell with override := values, used := 0 }))

/-- One step of what a generator does. -/
inductive Acts (a b : Activity) : Prop where
  | evaluates (h : g.Evaluates a b)
  | looks (h : g.LooksThrough a b)
  | tidies (h : Tidies a b)

/-- Any number of steps. -/
abbrev Proceeds : Activity → Activity → Prop := Relation.ReflTransGen g.Acts

end Generator

/-! ### Tokens and marks -/

/-- Tokens and marks show what is going on: the nodes that hold a token are those that are
generating, with ascending tokens from the outermost one inwards, and the nodes that are marked are
those that are being looked through. A request to compute or to look through a node is turned down
as re-entrant just then. -/
structure Activity.Guarded (g : Generator) (a : Activity) : Prop where
  holds : ∀ fr ∈ a.computing, g.graph.Holds fr.node
  token_iff : ∀ n, g.graph.Holds n → ∀ t, (a.memory.cell n.key).token = some t ↔
    ∃ fr ∈ a.computing, fr.node = n ∧ fr.token = t
  ascending : a.computing.Pairwise fun inner outer => outer.token < inner.token
  below : ∀ fr ∈ a.computing, fr.token < a.memory.tokens
  mark_iff : ∀ n, g.graph.Holds n → ((a.memory.cell n.key).isVisited = true ↔ n ∈ a.walked)
  guarded_iff : ∀ n c generate, g.graph.Holds n →
    ((guarded n.key n.identity c generate a.memory).1 = .error (.fault (.reentrant n.display)) ↔
      ∃ fr ∈ a.computing, fr.node = n)
  traverse_iff : ∀ n (α : Type) (visit : Eval α), g.graph.Holds n →
    ((traverse n.key n.identity visit a.memory).1 = .error (.fault (.reentrant n.display)) ↔
      n ∈ a.walked)

/-- The invariant of each activity. -/
def Activity.Sound (g : Generator) : Activity → Prop
  | resting m => m.Quiet
  | evaluating x => x.Guarded ∧ x.Within g.scope g.graph.Holds
  | walking x => (∃ m : Memory, m.Quiet ∧ x.Marked m) ∧ x.Within g.graph.Holds

section Sound

variable {g : Generator} {a b : Activity}

theorem Generator.scope_closed (g : Generator) : g.scope.Closed g.graph.Holds :=
  g.graph.holds_closed g.ignoreOptional

/-- What is done between evaluations and walks leaves tokens and marks as they are. -/
theorem Generator.Tidies.sound (h : Tidies a b) (h_sound : a.Sound g) : b.Sound g := by
  have h_update : ∀ {m : Memory} {key : Nat} {change : Cell → Cell}, m.Quiet →
      (∀ c, (change c).token = c.token ∧ (change c).isVisited = c.isVisited) →
        (m.update key change).Quiet := by
    intro m key change h_quiet h_change other
    rw [Memory.cell_update]
    split
    · exact ⟨(h_change _).1.trans (h_quiet key).1, (h_change _).2.trans (h_quiet key).2⟩
    · exact h_quiet other
  cases h with
  | takeToken | countPass | log => exact h_sound
  | resetValues => exact (Memory.Settled.resetValues _ _).quiet h_sound
  | resetCases => exact (Memory.Settled.resetCases _ _).quiet h_sound
  | fix => exact h_update h_sound fun _ => ⟨rfl, rfl⟩

/-- **One step.** -/
theorem Activity.Sound.act (h : a.Sound g) (h_act : g.Acts a b) : b.Sound g := by
  cases h_act with
  | tidies h_tidies => exact h_tidies.sound h
  | evaluates h_evaluates =>
    cases h_evaluates with
    | ask h_n => exact ⟨.start h _, ⟨nofun, h_n⟩⟩
    | step h_step => exact ⟨h.1.step h_step, h.2.step g.scope_closed h_step⟩
    | answered | failed => exact fun key => ⟨h.1.token_eq_none rfl key, h.1.unmarked key⟩
  | looks h_looks =>
    cases h_looks with
    | look h_n => exact ⟨⟨_, h, .start (fun key => (h key).2) _⟩, ⟨nofun, h_n⟩⟩
    | step h_step =>
      obtain ⟨⟨m, h_quiet, h_marked⟩, h_within⟩ := h
      exact ⟨⟨m, h_quiet, h_marked.step h_step⟩, h_within.step g.scope_closed h_step⟩
    | seen | failed =>
      -- at the end of a walk each cell is what it was at its beginning
      obtain ⟨⟨m, h_quiet, h_marked⟩, -⟩ := h
      intro key
      rw [h_marked.cell_eq rfl fun key => (h_quiet key).2]
      exact h_quiet key

/-- **All steps.** -/
theorem Activity.Sound.proceed (h : a.Sound g) (h_proceeds : g.Proceeds a b) : b.Sound g := by
  induction h_proceeds with
  | refl => exact h
  | tail _ h_act ih => exact ih.act h_act

/-- While a node is looked through, none holds a token. -/
theorem Walk.Marked.token_eq_none {m : Memory} {x : Walk} (h : x.Marked m) (h_quiet : m.Quiet)
    (key : Nat) : (x.memory.cell key).token = none :=
  (congrArg Cell.token (h.cell key)).trans (h_quiet key).1

/-- Tokens and marks, as far as they can be seen from a key. -/
theorem Activity.Sound.cell (h : a.Sound g) (key : Nat) :
    (∀ t, (a.memory.cell key).token = some t ↔
      ∃ fr ∈ a.computing, fr.node.key = key ∧ fr.token = t) ∧
    ((a.memory.cell key).isVisited = true ↔ ∃ n ∈ a.walked, n.key = key) := by
  cases a with
  | resting m =>
    have h_quiet : m.Quiet := h
    simp [Activity.memory, Activity.computing, Activity.walked, h_quiet key]
  | evaluating x =>
    refine ⟨h.1.token_iff key, ?_⟩
    have h_mark : (x.memory.cell key).isVisited = false := h.1.unmarked key
    simp [Activity.memory, Activity.walked, h_mark]
  | walking x =>
    obtain ⟨⟨m, h_quiet, h_marked⟩, -⟩ := h
    refine ⟨fun t => ?_, h_marked.visited_iff key⟩
    have h_token : (x.memory.cell key).token = none := h_marked.token_eq_none h_quiet key
    simp [Activity.memory, Activity.computing, h_token]

/-- What is going on is about nodes of the graph. -/
theorem Activity.Sound.holds (h : a.Sound g) :
    (∀ fr ∈ a.computing, g.graph.Holds fr.node) ∧ ∀ n ∈ a.walked, g.graph.Holds n := by
  cases a with
  | resting m => exact ⟨nofun, nofun⟩
  | evaluating x => exact ⟨fun fr h_fr => (h.2.stack fr h_fr).1, nofun⟩
  | walking x => exact ⟨nofun, h.2.stack⟩

/-- Tokens ascend inwards, and the next one is above all of them. -/
theorem Activity.Sound.tokens (h : a.Sound g) :
    a.computing.Pairwise (fun inner outer => outer.token < inner.token) ∧
      ∀ fr ∈ a.computing, fr.token < a.memory.tokens := by
  cases a with
  | resting m => exact ⟨.nil, nofun⟩
  | evaluating x => exact ⟨h.1.ascending, h.1.below⟩
  | walking x => exact ⟨.nil, nofun⟩

/-- **The guard.** In a graph whose nodes are told apart by their keys, the invariant says that
tokens and marks show what is going on. -/
theorem Activity.Sound.guarded (h_graph : g.graph.Coherent) (h : a.Sound g) : a.Guarded g := by
  -- the invariant speaks of keys, and in the graph a key stands for one node
  have h_same : ∀ {n n' : Node}, g.graph.Holds n → g.graph.Holds n' → n'.key = n.key → n' = n :=
    fun h_n h_n' h_key => h_graph.eq_of_key_eq _ _ (.inl h_n') (.inl h_n) h_key
  have h_token : ∀ n, g.graph.Holds n → ∀ t, (a.memory.cell n.key).token = some t ↔
      ∃ fr ∈ a.computing, fr.node = n ∧ fr.token = t := by
    intro n h_n t
    rw [(h.cell n.key).1]
    constructor
    · rintro ⟨fr, h_fr, h_key, h_t⟩
      exact ⟨fr, h_fr, h_same h_n (h.holds.1 fr h_fr) h_key, h_t⟩
    · rintro ⟨fr, h_fr, rfl, h_t⟩
      exact ⟨fr, h_fr, rfl, h_t⟩
  have h_mark : ∀ n, g.graph.Holds n →
      ((a.memory.cell n.key).isVisited = true ↔ n ∈ a.walked) := by
    intro n h_n
    rw [(h.cell n.key).2]
    constructor
    · rintro ⟨n', h_n', h_key⟩
      exact h_same h_n (h.holds.2 n' h_n') h_key ▸ h_n'
    · exact fun h_walked => ⟨n, h_walked, rfl⟩
  refine ⟨h.holds.1, h_token, h.tokens.1, h.tokens.2, h_mark, fun n c generate h_n => ?_,
    fun n α visit h_n => traverse_reentrant_iff.trans (h_mark n h_n)⟩
  -- every token that is held belongs to a node that is generating, and is older than the next one
  have h_older : ∀ held, (a.memory.cell n.key).token = some held → held < a.memory.tokens := by
    intro held h_held
    obtain ⟨fr, h_fr, -, rfl⟩ := (h_token n h_n held).1 h_held
    exact h.tokens.2 fr h_fr
  refine (guarded_reentrant_iff h_older).trans (Option.ne_none_iff_exists'.trans ?_)
  constructor
  · rintro ⟨t, h_t⟩
    obtain ⟨fr, h_fr, h_node, -⟩ := (h_token n h_n t).1 h_t
    exact ⟨fr, h_fr, h_node⟩
  · rintro ⟨fr, h_fr, h_node⟩
    exact ⟨fr.token, (h_token n h_n fr.token).2 ⟨fr, h_fr, h_node, rfl⟩⟩

end Sound

/-! ### From rest to rest -/

namespace Generator

variable {g : Generator} {α β : Type} {step step' : Activity → Activity → Prop} {m m' m'' : Memory}

/-- Steps lead from rest to rest again. -/
structure Returns (step : Activity → Activity → Prop) (m m' : Memory) : Prop where
  quiet : m'.Quiet
  steps : Relation.ReflTransGen step (.resting m) (.resting m')

theorem Returns.refl (h : m.Quiet) : Returns step m m := ⟨h, .refl⟩

theorem Returns.trans (h : Returns step m m') (h' : Returns step m' m'') : Returns step m m'' :=
  ⟨h'.quiet, h.steps.trans h'.steps⟩

theorem Returns.tidies (h_quiet : m.Quiet) (h : Tidies (.resting m) (.resting m')) :
    Returns g.Acts m m' :=
  ⟨h.sound (g := g) h_quiet, .single (.tidies h)⟩

/-- A computation goes from rest to rest in steps of a kind, and never lacks fuel. -/
def Runs {α : Type} (step : Activity → Activity → Prop) (e : Eval α) : Prop :=
  ∀ m : Memory, m.Quiet →
    Ends e m (fun _ m' => Returns step m m') fun f m' => f ≠ .tooDeep ∧ Returns step m m'

namespace Runs

theorem pure (a : α) : Runs step (Pure.pure a : Eval α) := fun _ h_quiet => .refl h_quiet

theorem bind {e : Eval α} {k : α → Eval β} (h : Runs step e) (h_next : ∀ a, Runs step (k a)) :
    Runs step (e >>= k) := by
  intro m h_quiet
  rw [ends_bind]
  refine (h m h_quiet).mono (fun a m' h_first => ?_) fun _ _ h_bad => h_bad
  exact (h_next a m' h_first.quiet).mono (fun _ _ h_rest => h_first.trans h_rest)
    fun f m'' h_bad => ⟨h_bad.1, h_first.trans h_bad.2⟩

theorem map {e : Eval α} {k : α → β} (h : Runs step e) : Runs step (k <$> e) := by
  rw [← bind_pure_comp]
  exact h.bind fun a => .pure (k a)

/-- Steps of one kind are steps of another. -/
theorem mono {e : Eval α} (h : Runs step e) (h_step : ∀ a b, step a b → step' a b) :
    Runs step' e := by
  have h_returns : ∀ {m m'}, Returns step m m' → Returns step' m m' :=
    fun h_m => ⟨h_m.quiet, Relation.ReflTransGen.mono h_step _ _ h_m.steps⟩
  exact fun m h_quiet => (h m h_quiet).mono (fun _ _ => h_returns)
    fun _ _ h_bad => ⟨h_bad.1, h_returns h_bad.2⟩

/-- An id is looked up: only nodes of the graph are found. -/
theorem find {id : String} {k : Node → Eval β} (h : ∀ n, g.graph.Holds n → Runs step (k n)) :
    Runs step (g.find id >>= k) := by
  intro m h_quiet
  rw [ends_bind, Generator.find, Scope.ends_find]
  exact ⟨fun n h_get => h n ⟨id, n, h_get, n.inside_self⟩ m h_quiet,
    fun _ => ⟨by simp, .refl h_quiet⟩⟩

/-! ### One node -/

/-- **Values are evaluated in steps.** -/
theorem nodeValue (h_graph : g.graph.Coherent) {n : Node} (h_n : g.graph.Holds n) (c : FieldCase) :
    Runs g.Evaluates (g.nodeValue n c) := by
  intro m h_quiet
  have h_start : Evaluation.Guarded ⟨[], .ask n c, m⟩ := .start h_quiet _
  have h_within : Evaluation.Within g.scope g.graph.Holds ⟨[], .ask n c, m⟩ := ⟨nofun, h_n⟩
  -- the steps of the evaluation are steps of the generator
  have h_lift : ∀ {y}, g.scope.Steps ⟨[], .ask n c, m⟩ y →
      Relation.ReflTransGen g.Evaluates (.resting m) (.evaluating y) := by
    intro y h_steps
    exact .head (.ask h_n) (h_steps.lift Activity.evaluating fun _ _ => .step)
  have h_rest : ∀ {control m'}, g.scope.Steps ⟨[], .ask n c, m⟩ ⟨[], control, m'⟩ → m'.Quiet :=
    fun h_steps key => ⟨(h_start.steps h_steps).token_eq_none rfl key,
      (h_start.steps h_steps).unmarked key⟩
  have h_steps := Node.value_guarded g.scope_closed (fun n h_n => h_graph.key_lt n (.inl h_n))
    (Nat.lt_succ_self g.graph.size) h_n h_start
  refine h_steps.mono (fun v m' h_ok => ?_) fun f m' h_error => ⟨?_, ?_⟩
  · exact ⟨h_rest h_ok, (h_lift h_ok).tail .answered⟩
  · exact (h_within.steps g.scope_closed h_error).control
  · exact ⟨h_rest h_error, (h_lift h_error).tail .failed⟩

/-- **Nodes are looked through in steps.** -/
theorem walk (h_graph : g.graph.Coherent) {walk : Node → Eval α}
    (h : g.scope.Walks g.fuel walk) {n : Node} (h_n : g.graph.Holds n) :
    Runs g.LooksThrough (walk n) := by
  intro m h_quiet
  have h_mark : ∀ key, (m.cell key).isVisited = false := fun key => (h_quiet key).2
  have h_start : Walk.Marked m ⟨[], .look n, m⟩ := .start h_mark _
  have h_within : Walk.Within g.graph.Holds ⟨[], .look n, m⟩ := ⟨nofun, h_n⟩
  -- the steps of the walk are steps of the generator
  have h_lift : ∀ {y}, g.scope.WalkSteps ⟨[], .look n, m⟩ y →
      Relation.ReflTransGen g.LooksThrough (.resting m) (.walking y) := by
    intro y h_steps
    exact .head (.look h_n) (h_steps.lift Activity.walking fun _ _ => .step)
  have h_rest : ∀ {control m'},
      g.scope.WalkSteps ⟨[], .look n, m⟩ ⟨[], control, m'⟩ → m'.Quiet := by
    intro control m' h_steps key
    have h_cell : m'.cell key = m.cell key := (h_start.steps h_steps).cell_eq rfl h_mark key
    exact h_cell ▸ h_quiet key
  have h_steps := h.guarded g.scope_closed (fun n h_n => h_graph.key_lt n (.inl h_n))
    (Nat.lt_succ_self g.graph.size) h_n h_mark
  refine h_steps.mono (fun v m' h_ok => ?_) fun f m' h_error => ⟨?_, ?_⟩
  · exact ⟨h_rest h_ok, (h_lift h_ok).tail .seen⟩
  · exact (h_within.steps g.scope_closed h_error).control
  · exact ⟨h_rest h_error, (h_lift h_error).tail .failed⟩

theorem value (h_graph : g.graph.Coherent) (id : String) (c : FieldCase) :
    Runs g.Evaluates (g.value id c) :=
  .find fun _ h_n => nodeValue h_graph h_n c

theorem containedIds (h_graph : g.graph.Coherent) (id : String) :
    Runs g.LooksThrough (g.containedIds id) :=
  .find fun _ h_n => walk h_graph (Node.containedIds_walks g.scope g.fuel) h_n

/-! ### All roots -/

theorem countCases (h_graph : g.graph.Coherent) : Runs g.LooksThrough g.countCases := by
  have h_go : ∀ (ids : List String) most, Runs g.LooksThrough (countCases.go g most ids) := by
    intro ids
    induction ids with
    | nil => exact fun most => .pure most
    | cons id ids ih =>
      refine fun most => .find fun n h_n => ?_
      exact (walk h_graph (Node.countCases_walks g.scope g.fuel) h_n).bind fun _ => ih _
  exact h_go g.roots 0

theorem hasNextCase (h_graph : g.graph.Coherent) : Runs g.LooksThrough g.hasNextCase := by
  have h_go : ∀ ids : List String, Runs g.LooksThrough (hasNextCase.go g ids) := by
    intro ids
    induction ids with
    | nil => exact .pure false
    | cons id ids ih =>
      refine .find fun n h_n => ?_
      refine (walk h_graph (Node.hasNextCase_walks g.scope g.fuel) h_n).bind fun found => ?_
      split
      · exact .pure true
      · exact ih
  exact h_go g.roots

theorem forRoots {act : Node → Memory → Memory}
    (h_act : ∀ n m, Tidies (.resting m) (.resting (act n m))) (ids : List String) :
    Runs g.Acts (g.forRoots act ids) := by
  induction ids with
  | nil => exact .pure _
  | cons id ids ih =>
    refine .find fun n _ => .bind (e := modify (act n)) (fun m h_quiet => ?_) fun _ => ih
    exact .tidies h_quiet (h_act n m)

theorem resetValues : Runs g.Acts g.resetValues := .forRoots (fun _ _ => .resetValues) g.roots

theorem resetCases : Runs g.Acts g.resetCases := .forRoots (fun _ _ => .resetCases) g.roots

/-! ### Overrides and tokens -/

theorem setOverride (id : String) (values : Option Override) :
    Runs g.Acts (g.setOverride id values) :=
  .find fun _ _ _ h_quiet => .tidies h_quiet .fix

theorem applyFixed (d : DataSet) : Runs g.Acts (g.applyFixed d) := by
  -- the overrides are set one after the other
  have h_loop : ∀ ids : List String, Runs g.Acts (forIn ids PUnit.unit fun id _ => do
      g.setOverride id ((d.fixed.get? id).map fun value _ => some value)
      Pure.pure (ForInStep.yield PUnit.unit)) := by
    intro ids
    induction ids with
    | nil => exact .pure _
    | cons id ids ih =>
      rw [List.forIn_cons]
      refine ((setOverride id _).bind fun _ => .pure _).bind fun r => ?_
      cases r with
      | done _ => exact .pure _
      | yield _ => exact ih
  rw [Generator.applyFixed]
  exact (h_loop g.graph.ids).bind fun _ => .pure _

theorem log (e : LogEvent) : Runs g.Acts (Eval.log e) := fun _ h_quiet => .tidies h_quiet .log

theorem takeToken : Runs g.Acts Eval.takeToken := fun _ h_quiet => .tidies h_quiet .takeToken

/-! ### Passes -/

theorem beginPass : Runs g.Acts g.beginPass := by
  intro m h_quiet
  rw [Generator.beginPass, ends_bind, ends_get, ends_bind, ends_set]
  have h_count : Returns g.Acts m { m with passes := m.passes + 1 } := .tidies h_quiet .countPass
  have h_rest : Runs g.Acts (g.resetValues >>= fun _ => Pure.pure (m.passes + 1)) :=
    resetValues.bind fun _ => .pure _
  exact (h_rest { m with passes := m.passes + 1 } h_count.quiet).mono
    (fun _ _ h => h_count.trans h) fun _ _ h => ⟨h.1, h_count.trans h.2⟩

variable (h_graph : g.graph.Coherent)
include h_graph

theorem fill (c : FieldCase) (number : Nat) (ids : List String) (d : DataSet) :
    Runs g.Evaluates (g.fill c number ids d) := by
  induction ids generalizing d with
  | nil => exact .pure d
  | cons id ids ih => exact (value h_graph id c).bind fun v => ih _

theorem generate (c : FieldCase) : Runs g.Acts (g.generate c) :=
  beginPass.bind fun number =>
    ((fill h_graph c number g.roots .empty).mono fun _ _ => .evaluates).bind fun d =>
      (log _).bind fun _ => .pure d

theorem goOn (limit allowed : Nat) (done : List DataSet) :
    Runs g.Acts (g.goOn limit allowed done) := by
  have h_next : Runs g.Acts g.hasNextCase := (hasNextCase h_graph).mono fun _ _ => .looks
  induction allowed generalizing done with
  | zero =>
    rw [goOn.eq_def]
    refine h_next.bind fun more => ?_
    split
    · exact (log _).bind fun _ => .pure _
    · exact .pure _
  | succ allowed ih =>
    rw [goOn.eq_def]
    refine h_next.bind fun more => ?_
    split
    · exact (generate h_graph .normal).bind fun d => ih _
    · exact .pure _

theorem enumerate (limit : Nat) : Runs g.Acts (g.enumerate limit) :=
  resetCases.bind fun _ => goOn h_graph limit limit []

end Runs

end Generator

/-- **Requests go from rest to rest**, whatever they are for and however they end. -/
theorem Request.runs {g : Generator} (h : g.graph.Coherent) (r : Request) :
    Generator.Runs g.Acts (r.perform g) := by
  cases r with
  | value id c => exact ((Generator.Runs.value h id c).mono fun _ _ => .evaluates).map
  | generate c => exact (Generator.Runs.generate h c).map
  | enumerate limit => exact (Generator.Runs.enumerate h limit).map
  | countCases => exact ((Generator.Runs.countCases h).mono fun _ _ => .looks).map
  | hasNextCase => exact ((Generator.Runs.hasNextCase h).mono fun _ _ => .looks).map
  | containedIds id => exact ((Generator.Runs.containedIds h id).mono fun _ _ => .looks).map
  | setOverride id values => exact (Generator.Runs.setOverride id values).map
  | applyFixed d => exact (Generator.Runs.applyFixed d).map
  | resetValues => exact Generator.Runs.resetValues.map
  | resetCases => exact Generator.Runs.resetCases.map
  | takeToken => exact Generator.Runs.takeToken.map

/-! ### Looking changes nothing -/

/-- Two memories are the same, cell by cell. -/
structure Memory.Same (m m' : Memory) : Prop where
  cell : ∀ key, m'.cell key = m.cell key
  tokens : m'.tokens = m.tokens
  draws : m'.draws = m.draws
  passes : m'.passes = m.passes
  log : m'.log = m.log

theorem Memory.Same.refl (m : Memory) : m.Same m := ⟨fun _ => rfl, rfl, rfl, rfl, rfl⟩

theorem Memory.Same.trans {m m' m'' : Memory} (h : m.Same m') (h' : m'.Same m'') : m.Same m'' :=
  ⟨fun key => (h'.cell key).trans (h.cell key), h'.tokens.trans h.tokens, h'.draws.trans h.draws,
    h'.passes.trans h.passes, h'.log.trans h.log⟩

theorem Memory.Same.quiet {m m' : Memory} (h : m.Same m') (h_quiet : m.Quiet) : m'.Quiet :=
  fun key => h.cell key ▸ h_quiet key

/-- The memory is that at the beginning, up to the marks of a walk. -/
def Activity.Unchanged (m : Memory) : Activity → Prop
  | resting m' => m.Same m'
  | evaluating _ => False
  | walking x => ∃ m', m.Same m' ∧ x.Marked m'

theorem Activity.Unchanged.look {g : Generator} {a b : Activity} {m : Memory} (h_quiet : m.Quiet)
    (h : a.Unchanged m) (h_look : g.LooksThrough a b) : b.Unchanged m := by
  cases h_look with
  | look _ => exact ⟨_, h, .start (fun key => (h.quiet h_quiet key).2) _⟩
  | step h_step =>
    obtain ⟨m', h_same, h_marked⟩ := h
    exact ⟨m', h_same, h_marked.step h_step⟩
  | seen | failed =>
    obtain ⟨m', h_same, h_marked⟩ := h
    obtain ⟨h_tokens, h_draws, h_passes, h_log⟩ := h_marked.rest
    have h_cell := h_marked.cell_eq rfl fun key => (h_same.quiet h_quiet key).2
    exact h_same.trans ⟨h_cell, h_tokens, h_draws, h_passes, h_log⟩

/-- **Looking changes nothing**, even if it fails. -/
theorem Generator.Runs.same {g : Generator} {α : Type} {e : Eval α}
    (h : Generator.Runs g.LooksThrough e) {m : Memory} (h_quiet : m.Quiet) : m.Same (e m).2 := by
  have h_same : ∀ {m'}, Returns g.LooksThrough m m' → m.Same m' := by
    intro m' h_returns
    -- it is unchanged at every point of the walks
    have h_unchanged : ∀ b, Relation.ReflTransGen g.LooksThrough (.resting m) b →
        b.Unchanged m := by
      intro b h_steps
      induction h_steps with
      | refl => exact Memory.Same.refl m
      | tail _ h_look ih => exact ih.look h_quiet h_look
    exact h_unchanged _ h_returns.steps
  exact Ends.state ((h m h_quiet).mono (fun _ _ => h_same) fun _ _ h_bad => h_same h_bad.2)

end Specimen
