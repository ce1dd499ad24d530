import Specimen.Proofs.Generator.Activity

/-!
# Sessions

A session is what becomes of a generator: it begins without nodes or with those of a configuration,
and from then on nodes are built or registered, roots are added and requests are made, in any order
and whether they succeed or not (`Generator.Session`). References may lead in circles or to nothing.

Tokens and marks show at each point of a session what is going on there, and between requests none
is left (`Generator.Session.guard`).
-/

namespace Specimen

namespace Generator

/-- The generator after something was built in its graph, even if that failed half way. -/
def afterBuild {α : Type} (g : Generator) (e : Build α) : Generator :=
  { g with graph := (e g.graph).2 }

/-- The generators and memories of sessions. A node that comes in from outside is told apart by its
key, as are those inside it, from one another and from the nodes of the graph. -/
inductive Session : Generator → Memory → Prop where
  | empty (o : GeneratorOptions) (random : UInt64) (draws : Draws) :
    Session (.empty o random) ((empty o random).freshMemory.withDraws draws)
  | ofConfig {c : Config} {o : GeneratorOptions} {random : UInt64} {g : Generator}
    (h : ofConfig c o random = .ok g) (draws : Draws) : Session g (g.freshMemory.withDraws draws)
  | build {g : Generator} {m : Memory} (h : Session g m) (above : Option Identity)
    (x : Config.Constraint) : Session (g.afterBuild (Graph.build above x)) m
  | buildConfig {g : Generator} {m : Memory} (h : Session g m) (c : Config) :
    Session (g.afterBuild (Graph.buildConfig c)) m
  | declareCharset {g : Generator} {m : Memory} (h : Session g m) (id chars : String) :
    Session (g.afterBuild (Graph.declareCharset id chars)) m
  | register {g : Generator} {m : Memory} (h : Session g m) {n : Node} {size : Nat}
    (h_apart : { g.graph with size := size }.Admits n.Inside) :
    Session { g with graph := { (Graph.register n g.graph).2 with size := size } } m
  | addRoot {g g' : Generator} {m : Memory} (h : Session g m) {n : Node} {size : Nat}
    (h_apart : { g.graph with size := size }.Admits n.Inside)
    (h_added : g.addRoot n size = .ok g') : Session g' m
  | request {g : Generator} {m : Memory} (h : Session g m) (r : Request) :
    Session g (r.perform g m).2
  | act {g : Generator} {m m' : Memory} (h : Session g m)
    (h_acts : g.Proceeds (.resting m) (.resting m')) : Session g m'

/-- Adding a root registers it. -/
theorem addRoot_graph {g g' : Generator} {n : Node} {size : Nat} (h : g.addRoot n size = .ok g') :
    g'.graph = { (Graph.register n g.graph).2 with size := size } := by
  unfold addRoot at h
  split at h
  · cases h
  · split at h
    · next graph h_register =>
      cases h
      have h_graph : (Graph.register n g.graph).2 = graph := congrArg Prod.snd h_register
      rw [h_graph]
    · cases h

namespace Session

variable {g : Generator} {m : Memory}

/-- A generator without nodes, and one that was built from a configuration, has nodes that are told
apart. -/
theorem coherent_ofConfig {c : Config} {o : GeneratorOptions} {random : UInt64}
    (h : Generator.ofConfig c o random = .ok g) : g.graph.Coherent := by
  have h_built : (Graph.buildConfig c (.empty .builtin)).2.Coherent :=
    Graph.Coherent.of_keeps (Graph.Keeps.buildConfig c) (Graph.empty_coherent .builtin)
  unfold Generator.ofConfig at h
  simp only at h
  split at h
  · split at h
    · next roots graph h_ok =>
      cases h
      have h_graph : (Graph.buildConfig c (.empty .builtin)).2 = graph := congrArg Prod.snd h_ok
      exact h_graph ▸ h_built
    · cases h
  · cases h

/-- **In a session** the nodes are told apart by their keys, and between requests nothing is being
evaluated or looked through. -/
theorem coherent_quiet (h : g.Session m) : g.graph.Coherent ∧ m.Quiet := by
  induction h with
  | empty o random draws => exact ⟨Graph.empty_coherent .builtin, fun _ => ⟨rfl, rfl⟩⟩
  | ofConfig h draws => exact ⟨coherent_ofConfig h, fun _ => ⟨rfl, rfl⟩⟩
  | build _ above x ih => exact ⟨.of_keeps (Graph.Keeps.build above x) ih.1, ih.2⟩
  | buildConfig _ c ih => exact ⟨.of_keeps (Graph.Keeps.buildConfig c) ih.1, ih.2⟩
  | declareCharset _ id chars ih =>
    exact ⟨.of_keeps (Graph.Keeps.declareCharset id chars) ih.1, ih.2⟩
  -- what comes in from outside was told apart by whoever made it
  | register _ h_apart ih => exact ⟨h_apart.coherent_register, ih.2⟩
  | addRoot _ h_apart h_added ih =>
    exact ⟨addRoot_graph h_added ▸ h_apart.coherent_register, ih.2⟩
  | @request g m _ r ih =>
    refine ⟨ih.1, Ends.state ((r.runs ih.1 m ih.2).mono (fun _ _ => Returns.quiet) ?_)⟩
    exact fun _ _ h_bad => h_bad.2.quiet
  | @act g m m' _ h_acts ih => exact ⟨ih.1, Activity.Sound.proceed (a := .resting m) ih.2 h_acts⟩

/-- A constraint that is built apart from the graph can come in as a root. -/
theorem addBuilt (h : g.Session m) {x : Config.Constraint} {n : Node} {graph : Graph}
    {g' : Generator}
    (h_built : Graph.build none x g.graph.apart = (.ok n, graph))
    (h_added : g.addRoot n graph.size = .ok g') : g'.Session m :=
  h.addRoot (h.coherent_quiet.1.admits_built h_built) h_added

/-- A value is the end of the one course that its evaluation has. -/
theorem nodeValue_course (h : g.Session m) {n : Node} (h_n : g.graph.Holds n) (c : FieldCase) :
    Ends (g.nodeValue n c) m
      (fun v m' => ∀ x, g.scope.Steps ⟨[], .ask n c, m⟩ x → g.scope.Steps x ⟨[], .answer v, m'⟩)
      fun f m' => ∀ x, g.scope.Steps ⟨[], .ask n c, m⟩ x → g.scope.Steps x ⟨[], .fail f, m'⟩ := by
  obtain ⟨h_graph, h_quiet⟩ := h.coherent_quiet
  have h_steps := Node.value_guarded (c := c) g.scope_closed
    (fun n h_n => h_graph.key_lt n (.inl h_n)) (Nat.lt_succ_self g.graph.size) h_n
    (.start h_quiet _)
  exact h_steps.mono (fun v m' h_ok x => h_ok.onTheWay (.inl ⟨v, rfl⟩))
    fun f m' h_error x => h_error.onTheWay (.inr ⟨f, rfl⟩)

/-- **The guard.** Take any graph of nodes, and any point of a session with it where the generator
rests.

At each point to which steps lead from there, the nodes that hold a token are those that are
generating, with ascending tokens from the outermost one inwards; the marked nodes are those that
are being looked through; and a request is turned down as re-entrant for these nodes only. A value
is the end of the one course of steps that its evaluation has. Every request goes in steps and ends
where no token is held and no node is marked, whether it succeeds, fails or breaks off. Counting
cases, asking whether one is left and collecting ids leave everything as it was. -/
theorem guard (h : g.Session m) :
    (∀ a, g.Proceeds (.resting m) a → a.Guarded g) ∧
    (∀ n c, g.graph.Holds n → Ends (g.nodeValue n c) m
      (fun v m' => ∀ x, g.scope.Steps ⟨[], .ask n c, m⟩ x → g.scope.Steps x ⟨[], .answer v, m'⟩)
      fun f m' => ∀ x, g.scope.Steps ⟨[], .ask n c, m⟩ x → g.scope.Steps x ⟨[], .fail f, m'⟩) ∧
    (∀ r : Request, g.Proceeds (.resting m) (.resting (r.perform g m).2) ∧
      (∀ key, ((r.perform g m).2.cell key).token = none ∧
        ((r.perform g m).2.cell key).isVisited = false) ∧
      (r.perform g m).1 ≠ .error .tooDeep) ∧
    m.Same (g.countCases m).2 ∧ m.Same (g.hasNextCase m).2 ∧
      ∀ id, m.Same (g.containedIds id m).2 := by
  obtain ⟨h_graph, h_quiet⟩ := h.coherent_quiet
  refine ⟨fun a h_a => ?_, fun n c h_n => h.nodeValue_course h_n c, fun r => ?_, ?_, ?_,
    fun id => ?_⟩
  -- the invariant holds at rest, and each step keeps it
  · have h_sound : (Activity.resting m).Sound g := h_quiet
    exact (h_sound.proceed h_a).guarded h_graph
  · have h_run := r.runs h_graph m h_quiet
    have h_returns : Returns g.Acts m (r.perform g m).2 :=
      Ends.state (h_run.mono (fun _ _ h_ok => h_ok) fun _ _ h_bad => h_bad.2)
    -- a request that goes from rest to rest never lacks fuel
    refine ⟨h_returns.steps, h_returns.quiet, fun h_deep => ?_⟩
    exact (h_run.of_error (Prod.ext h_deep rfl)).1 rfl
  · exact (Runs.countCases h_graph).same h_quiet
  · exact (Runs.hasNextCase h_graph).same h_quiet
  · exact (Runs.containedIds h_graph id).same h_quiet

end Session

/-- Two nodes each of which is the source of the other. -/
def circle : Generator :=
  ((empty {} 0).afterBuild (Graph.build none (.mk (some "a") none (.source (.reference "b")))))
    |>.afterBuild (Graph.build none (.mk (some "b") none (.combined [.reference "a"] "")))

/-- The first of them waits for itself, and afterwards no token is held. -/
theorem Session.guard_circle :
    circle.Session (circle.freshMemory.withDraws default) ∧
    ((Request.value "a" .normal).perform circle (circle.freshMemory.withDraws default)).1 =
      .error (.fault (.inNode "a" (.inNode "b" (.reentrant "a")))) ∧
    ∀ key, (((Request.value "a" .normal).perform circle
      (circle.freshMemory.withDraws default)).2.cell key).token = none := by
  have h_session : circle.Session (circle.freshMemory.withDraws default) :=
    ((Session.empty {} 0 default).build none _).build none _
  refine ⟨h_session, by rfl, fun key => ?_⟩
  exact ((Session.guard h_session).2.2.1 (.value "a" .normal)).2.1 key |>.1

end Generator

end Specimen
