import Specimen.Proofs.Field
import Specimen.Proofs.Generator.Origin
import Specimen.Proofs.Node.Circles

/-!
# Requests to a generator

A generator takes requests one after the other. `Request` lists them, and a memory is reachable if
some sequence of requests leads to it from the start, whatever they were and however they ended
(`Reachable`).

In a reachable memory no node holds a token and none is marked (`Reachable.quiet`), so every request
to a generator of a configuration settles. It follows that the requests never fail with a fault
(`Reachable.never_faults`).
-/

namespace Specimen

/-- What a generator can be asked for. -/
inductive Request where
  | value (id : String) (c : FieldCase)
  | generate (c : FieldCase)
  | enumerate (limit : Nat)
  | countCases
  | hasNextCase
  | containedIds (id : String)
  | setOverride (id : String) (values : Option Override)
  | applyFixed (d : DataSet)
  | resetValues
  | resetCases
  | takeToken

/-- What a generator replies. -/
inductive Reply where
  | value (v : Option String)
  | dataSet (d : DataSet)
  | dataSets (ds : List DataSet)
  | count (n : Nat)
  | flag (b : Bool)
  | ids (s : NameSet)
  | done

namespace Request

/-- The ids that a request is about. -/
def ids : Request → List String
  | value id _ | containedIds id | setOverride id _ => [id]
  | _ => []

/-- The reply to a request. -/
def perform (g : Generator) : Request → Eval Reply
  | value id c => .value <$> g.value id c
  | generate c => .dataSet <$> g.generate c
  | enumerate limit => .dataSets <$> g.enumerate limit
  | countCases => .count <$> g.countCases
  | hasNextCase => .flag <$> g.hasNextCase
  | containedIds id => .ids <$> g.containedIds id
  | setOverride id values => (fun _ => .done) <$> g.setOverride id values
  | applyFixed d => (fun _ => .done) <$> g.applyFixed d
  | resetValues => (fun _ => .done) <$> g.resetValues
  | resetCases => (fun _ => .done) <$> g.resetCases
  | takeToken => .count <$> Eval.takeToken

end Request

namespace Generator

/-- A memory to which requests lead, from that of a generator that was never asked for anything,
with any random stream. -/
inductive Reachable (g : Generator) : Memory → Prop where
  | start (draws : Draws) : Reachable g (g.freshMemory.withDraws draws)
  | step {m : Memory} (h : Reachable g m) (r : Request) : Reachable g (r.perform g m).2

end Generator

/-! ### Quiet memories -/

/-- No node holds a token and none is marked: nothing is being evaluated. -/
def Memory.Quiet (m : Memory) : Prop :=
  ∀ key, (m.cell key).token = none ∧ (m.cell key).isVisited = false

theorem Memory.Settled.quiet {m m' : Memory} (h : m.Settled m') (h_quiet : m.Quiet) : m'.Quiet :=
  fun key => ⟨(h key).1.trans (h_quiet key).1, (h key).2.1.trans (h_quiet key).2⟩

theorem Memory.Quiet.freeBelow {m : Memory} (h : m.Quiet) (rank : Nat → Nat) (r : Nat) :
    m.FreeBelow rank r := fun key _ => (h key).1

theorem Memory.Settled.updateAll (change : Cell → Cell) (h_change : ∀ c,
    (change c).token = c.token ∧ (change c).isVisited = c.isVisited ∧
      (change c).override = c.override) (keys : List Nat) (m : Memory) :
    m.Settled (m.updateAll change keys) := by
  induction keys generalizing m with
  | nil => exact .refl m
  | cons key keys ih => exact ((Memory.Settled.refl m).update h_change).trans (ih _)

/-- Starting over keeps tokens, marks and overrides. -/
theorem Memory.Settled.resetValues (n : Node) (m : Memory) : m.Settled (m.resetValues n) :=
  .updateAll Cell.forgetValue (fun _ => ⟨rfl, rfl, rfl⟩) n.keys m

theorem Memory.Settled.resetCases (n : Node) (m : Memory) : m.Settled (m.resetCases n) :=
  .updateAll Cell.forgetCases (fun _ => ⟨rfl, rfl, rfl⟩) n.keys m

variable {expected : Crash → Prop}

/-- The evaluation answers or crashes as expected, and nothing is being evaluated after it. -/
def Rests {α : Type} (expected : Crash → Prop) (e : Eval α) (m : Memory) : Prop :=
  Ends e m (fun _ m' => m'.Quiet) fun f m' => f.IsCrash expected ∧ m'.Quiet

theorem Settles.rests {α : Type} {e : Eval α} {m : Memory} (h : Settles expected e m)
    (h_quiet : m.Quiet) : Rests expected e m :=
  h.mono (fun _ _ h_m' => h_m'.quiet h_quiet) fun _ _ h_bad => ⟨h_bad.1, h_bad.2.quiet h_quiet⟩

theorem Rests.map {α β : Type} {e : Eval α} {k : α → β} {m : Memory} (h : Rests expected e m) :
    Rests expected (k <$> e) m := by
  rw [Rests, ends_map]
  exact h

namespace Generator

/-- No node is overridden. -/
def Unfixed (m : Memory) : Prop := ∀ key, (m.cell key).override = none

theorem Unfixed.of_settled {m m' : Memory} (h_free : Unfixed m) (h : m.Settled m') : Unfixed m' :=
  fun key => (h key).2.2.trans (h_free key)

variable {g : Generator} {c : Config} {tops : List Node} {m : Memory}

theorem find_eq {id : String} {n : Node} (h : g.graph.nodes.get? id = some n) :
    g.find id = pure n := by
  rw [find, Scope.find, scope, h]

/-- A request for an id that is not registered fails, and nothing changes. -/
theorem find_unknown {α : Type} {id : String} (h : g.graph.nodes.get? id = none)
    (k : Node → Eval α) : (g.find id >>= k) m = (.error (.fault (.unknownId id)), m) := by
  have h_find : g.find id = Eval.fail (.unknownId id) := by
    rw [find, Scope.find, scope, h]
  rw [h_find]
  rfl

/-! ### Overrides -/

theorem setOverride_rests {id : String} (h_id : id ∈ g.graph.ids) (values : Option Override)
    (h_quiet : m.Quiet) : Rests expected (g.setOverride id values) m := by
  obtain ⟨n, h_get⟩ := Dict.contains_iff.1 (Dict.mem_keys_iff.1 h_id)
  rw [setOverride, find_eq h_get, pure_bind]
  intro key
  rw [Memory.cell_update]
  split
  · exact h_quiet n.key
  · exact h_quiet key

theorem applyFixed_rests (d : DataSet) (h_quiet : m.Quiet) :
    Rests expected (g.applyFixed d) m := by
  have h_loop : ∀ (ids : List String) (m : Memory), (∀ id ∈ ids, id ∈ g.graph.ids) → m.Quiet →
      Rests expected (forIn ids PUnit.unit fun id _ => do
        g.setOverride id ((d.fixed.get? id).map fun value _ => some value)
        pure (ForInStep.yield PUnit.unit)) m := by
    intro ids
    induction ids with
    | nil => exact fun _ _ h_quiet => h_quiet
    | cons id ids ih =>
      intro m h_ids h_quiet
      rw [List.forIn_cons, Rests, ends_bind, ends_bind]
      refine (setOverride_rests (h_ids id List.mem_cons_self) _ h_quiet).mono
        (fun _ m' h_m' => ?_) fun _ _ h_bad => h_bad
      exact ih m' (fun id' h_id' => h_ids id' (List.mem_cons_of_mem _ h_id')) h_m'
  rw [applyFixed, Rests, ends_bind]
  exact h_loop g.graph.ids m (fun _ => id) h_quiet

/-- A request for an id that is not registered changes nothing. -/
theorem perform_unknown (r : Request) {id : String} (h_id : id ∈ r.ids)
    (h_unknown : id ∉ g.graph.ids) :
    r.perform g m = (.error (.fault (.unknownId id)), m) := by
  have h_get : g.graph.nodes.get? id = none := by
    cases h_get : g.graph.nodes.get? id with
    | none => rfl
    | some n => exact absurd (Dict.mem_keys_iff.2 (Dict.contains_iff.2 ⟨n, h_get⟩)) h_unknown
  have h_map : ∀ {α : Type} (e : Eval α) (k : α → Reply),
      e m = (.error (.fault (.unknownId id)), m) →
        (k <$> e) m = (.error (.fault (.unknownId id)), m) := by
    intro α e k h_e
    rw [← bind_pure_comp]
    simp only [bind, ExceptT.bind, ExceptT.mk, StateT.bind, ExceptT.bindCont, h_e]
    rfl
  -- A request names at most one identifier, and looks it up before anything else.
  cases r with
  | value id' c =>
    obtain rfl := List.mem_singleton.1 h_id
    exact h_map _ _ (find_unknown h_get _)
  | containedIds id' =>
    obtain rfl := List.mem_singleton.1 h_id
    exact h_map _ _ (find_unknown h_get _)
  | setOverride id' values =>
    obtain rfl := List.mem_singleton.1 h_id
    exact h_map _ _ (find_unknown h_get _)
  | generate _ | enumerate _ | countCases | hasNextCase | applyFixed _ | resetValues | resetCases
  | takeToken => exact absurd h_id List.not_mem_nil

/-- All crashes together are expected. -/
theorem crashesOnly_true (Member : Node → Prop) : Scope.CrashesOnly Member fun _ => True := by
  intro n f set _ _ c draws failure h_failure
  obtain ⟨reason, rfl⟩ := f.generate_error c set draws h_failure
  trivial

namespace Represents

variable (h : g.Represents c tops) (h_crash : Scope.CrashesOnly (Member tops) expected)
include h

/-! ### One node -/

include h_crash in
theorem nodeValue_settles {n : Node} (h_n : Member tops n) (c : FieldCase) (h_quiet : m.Quiet) :
    Settles expected (g.nodeValue n c) m := by
  obtain ⟨rank, h_fuel, h_ordered, -⟩ := h.exists_ordered
  exact Node.value_settles h_ordered h_crash g.fuel n c m h_n (h_fuel n.key)
    (h_quiet.freeBelow rank _)

theorem walk_settles {α : Type} {walk : Node → Eval α} (h_walks : g.scope.Walks g.fuel walk)
    {n : Node} (h_n : Member tops n) (h_quiet : m.Quiet) : Settles expected (walk n) m := by
  obtain ⟨rank, -, h_ordered, -⟩ := h.exists_ordered
  exact h_walks.settles h_ordered (fun n n' h_n => h.member_of_calls h_n) (fun n => h.key_lt)
    (Nat.lt_succ_self g.graph.size) (fun n n' => h.eq_of_key_eq) h_n fun key => (h_quiet key).2

include h_crash in
theorem value_settles {id : String} (h_id : id ∈ g.graph.ids) (c : FieldCase)
    (h_quiet : m.Quiet) : Settles expected (g.value id c) m := by
  obtain ⟨n, h_get⟩ := Dict.contains_iff.1 (Dict.mem_keys_iff.1 h_id)
  rw [value, find_eq h_get, pure_bind]
  exact h.nodeValue_settles h_crash (h.get?_iff.1 h_get).1 c h_quiet

theorem containedIds_settles {id : String} (h_id : id ∈ g.graph.ids) (h_quiet : m.Quiet) :
    Settles expected (g.containedIds id) m := by
  obtain ⟨n, h_get⟩ := Dict.contains_iff.1 (Dict.mem_keys_iff.1 h_id)
  rw [containedIds, find_eq h_get, pure_bind]
  exact h.walk_settles (Node.containedIds_walks g.scope g.fuel) (h.get?_iff.1 h_get).1 h_quiet

/-! ### All roots -/

theorem mem_ids_of_mem_roots {id : String} (h_id : id ∈ g.roots) : id ∈ g.graph.ids := by
  obtain ⟨n, -, h_get, -⟩ := h.get?_root h_id
  exact Dict.mem_keys_iff.2 (Dict.contains_iff.2 ⟨n, h_get⟩)

theorem forRoots_settles {act : Node → Memory → Memory}
    (h_act : ∀ n (m : Memory), m.Settled (act n m))
    (ids : List String) (h_ids : ∀ id ∈ ids, id ∈ g.roots) :
    Settles expected (g.forRoots act ids) m := by
  induction ids generalizing m with
  | nil => exact .pure _
  | cons id ids ih =>
    obtain ⟨n, -, h_get, -⟩ := h.get?_root (h_ids id List.mem_cons_self)
    rw [forRoots, find_eq h_get, pure_bind]
    exact .bind (.modify (h_act n m)) fun _ _ _ =>
      ih fun id' h_id' => h_ids id' (List.mem_cons_of_mem _ h_id')

theorem resetValues_settles : Settles expected g.resetValues m :=
  h.forRoots_settles .resetValues g.roots fun _ => id

theorem resetCases_settles : Settles expected g.resetCases m :=
  h.forRoots_settles .resetCases g.roots fun _ => id

theorem countCases_settles (h_quiet : m.Quiet) : Settles expected g.countCases m := by
  have h_go : ∀ (ids : List String) (most : Nat) (m : Memory), (∀ id ∈ ids, id ∈ g.roots) →
      m.Quiet → Settles expected (countCases.go g most ids) m := by
    intro ids
    induction ids with
    | nil => exact fun _ _ _ _ => .pure _
    | cons id ids ih =>
      intro most m h_ids h_quiet
      obtain ⟨n, -, h_get, -⟩ := h.get?_root (h_ids id List.mem_cons_self)
      rw [countCases.go, find_eq h_get, pure_bind]
      refine .bind (h.walk_settles (Node.countCases_walks g.scope g.fuel) (h.get?_iff.1 h_get).1
        h_quiet) fun k m' h_m' => ?_
      exact ih _ m' (fun id' h_id' => h_ids id' (List.mem_cons_of_mem _ h_id')) (h_m'.quiet h_quiet)
  exact h_go g.roots 0 m (fun _ => id) h_quiet

theorem hasNextCase_settles (h_quiet : m.Quiet) : Settles expected g.hasNextCase m := by
  have h_go : ∀ (ids : List String) (m : Memory), (∀ id ∈ ids, id ∈ g.roots) →
      m.Quiet → Settles expected (hasNextCase.go g ids) m := by
    intro ids
    induction ids with
    | nil => exact fun _ _ _ => .pure _
    | cons id ids ih =>
      intro m h_ids h_quiet
      obtain ⟨n, -, h_get, -⟩ := h.get?_root (h_ids id List.mem_cons_self)
      rw [hasNextCase.go, find_eq h_get, pure_bind]
      refine .bind (h.walk_settles (Node.hasNextCase_walks g.scope g.fuel) (h.get?_iff.1 h_get).1
        h_quiet) fun b m' h_m' => ?_
      split
      · exact .pure _
      · exact ih m' (fun id' h_id' => h_ids id' (List.mem_cons_of_mem _ h_id')) (h_m'.quiet h_quiet)
  exact h_go g.roots m (fun _ => id) h_quiet

/-! ### Passes -/

theorem beginPass_settles : Settles expected g.beginPass m := by
  rw [beginPass]
  refine .of_get (.bind (Memory.Settled.of_cells fun _ => rfl) fun _ _ _ => ?_)
  exact .bind h.resetValues_settles fun _ _ _ => .pure _

include h_crash in
theorem fill_settles (c : FieldCase) (number : Nat) (ids : List String)
    (h_ids : ∀ id ∈ ids, id ∈ g.roots) (d : DataSet) (h_quiet : m.Quiet) :
    Settles expected (g.fill c number ids d) m := by
  induction ids generalizing m d with
  | nil => exact .pure _
  | cons id ids ih =>
    have h_id := h.mem_ids_of_mem_roots (h_ids id List.mem_cons_self)
    rw [fill]
    refine .bind (h.value_settles h_crash h_id c h_quiet) fun v m' h_m' => ?_
    exact ih (fun id' h_id' => h_ids id' (List.mem_cons_of_mem _ h_id')) _ (h_m'.quiet h_quiet)

include h_crash in
theorem generate_settles (c : FieldCase) (h_quiet : m.Quiet) :
    Settles expected (g.generate c) m := by
  rw [generate]
  refine .bind h.beginPass_settles fun number m' h_m' => ?_
  refine .bind (h.fill_settles h_crash c number g.roots (fun _ => id) _ (h_m'.quiet h_quiet))
    fun d m'' _ => ?_
  exact .bind (.log _) fun _ _ _ => .pure _

include h_crash in
theorem goOn_settles (limit allowed : Nat) (done : List DataSet) (h_quiet : m.Quiet) :
    Settles expected (g.goOn limit allowed done) m := by
  induction allowed generalizing done m with
  | zero =>
    rw [goOn.eq_def]
    refine .bind (h.hasNextCase_settles h_quiet) fun more m' _ => ?_
    split
    · exact .bind (.log _) fun _ _ _ => .pure _
    · exact .pure _
  | succ allowed ih =>
    rw [goOn.eq_def]
    refine .bind (h.hasNextCase_settles h_quiet) fun more m' h_m' => ?_
    split
    · refine .bind (h.generate_settles h_crash .normal (h_m'.quiet h_quiet)) fun d m'' h_m'' => ?_
      exact ih _ (h_m''.quiet (h_m'.quiet h_quiet))
    · exact .pure _

include h_crash in
theorem enumerate_settles (limit : Nat) (h_quiet : m.Quiet) :
    Settles expected (g.enumerate limit) m := by
  rw [enumerate]
  refine .bind h.resetCases_settles fun _ m' h_m' => ?_
  exact h.goOn_settles h_crash limit limit [] (h_m'.quiet h_quiet)

/-! ### Requests -/

include h_crash in
/-- **Requests rest.** A request for registered ids to a generator at rest answers or crashes as
expected, and the generator is at rest again. -/
theorem perform_rests (r : Request) (h_ids : ∀ id ∈ r.ids, id ∈ g.graph.ids) (h_quiet : m.Quiet) :
    Rests expected (r.perform g) m := by
  cases r with
  | value id c =>
    exact ((h.value_settles h_crash (h_ids id List.mem_cons_self) c h_quiet).rests h_quiet).map
  | generate c => exact ((h.generate_settles h_crash c h_quiet).rests h_quiet).map
  | enumerate limit => exact ((h.enumerate_settles h_crash limit h_quiet).rests h_quiet).map
  | countCases => exact ((h.countCases_settles h_quiet).rests h_quiet).map
  | hasNextCase => exact ((h.hasNextCase_settles h_quiet).rests h_quiet).map
  | containedIds id =>
    exact ((h.containedIds_settles (h_ids id List.mem_cons_self) h_quiet).rests h_quiet).map
  | setOverride id values =>
    exact (setOverride_rests (h_ids id List.mem_cons_self) values h_quiet).map
  | applyFixed d => exact (applyFixed_rests d h_quiet).map
  | resetValues => exact (h.resetValues_settles.rests h_quiet).map
  | resetCases => exact (h.resetCases_settles.rests h_quiet).map
  | takeToken => exact Rests.map (e := Eval.takeToken) h_quiet

/-- **Rest between requests.** In a reachable memory nothing is being evaluated. -/
theorem quiet_of_reachable (h_m : g.Reachable m) : m.Quiet := by
  induction h_m with
  | start draws => exact fun _ => ⟨rfl, rfl⟩
  | @step m _ r ih =>
    by_cases h_ids : ∀ id ∈ r.ids, id ∈ g.graph.ids
    · have h_rests := h.perform_rests (crashesOnly_true _) r h_ids ih
      rcases h_eq : r.perform g m with ⟨f | a, m'⟩
      · exact (h_rests.of_error h_eq).2
      · exact h_rests.of_ok h_eq
    · push Not at h_ids
      obtain ⟨id, h_id, h_unknown⟩ := h_ids
      rw [perform_unknown r h_id h_unknown]
      exact ih

end Represents

/-- **Generators of configurations never fail.** In every reachable memory a request for
registered ids is replied to, unless the program breaks off in a field. -/
theorem Reachable.never_faults {c : Config} {o : GeneratorOptions} {random : UInt64}
    {g : Generator} (h : ofConfig c o random = .ok g) {m : Memory} (h_m : g.Reachable m)
    (r : Request) (h_ids : ∀ id ∈ r.ids, id ∈ g.graph.ids) :
    (∃ reply m', r.perform g m = (.ok reply, m')) ∨
      ∃ reason m', r.perform g m = (.error (.crash reason), m') := by
  obtain ⟨⟨tops, h_of⟩, -⟩ := ofConfig_represents h
  have h_rests := h_of.perform_rests (crashesOnly_true _) r h_ids (h_of.quiet_of_reachable h_m)
  rcases h_eq : r.perform g m with ⟨f | a, m'⟩
  · have h_crash := (h_rests.of_error h_eq).1
    cases f with
    | crash reason => exact .inr ⟨reason, m', rfl⟩
    | fault _ => exact h_crash.elim
    | tooDeep => exact h_crash.elim
  · exact .inl ⟨a, m', rfl⟩

/-- What is computed from a result shows that there is one. -/
theorem exists_ok_of_map {ε α β : Type} {e : Except ε α} {f : α → β} {b : β}
    (h : e.toOption.map f = some b) : ∃ a, e = .ok a ∧ f a = b := by
  cases e with
  | error _ => cases h
  | ok a => exact ⟨a, rfl, Option.some.inj h⟩

/-- What an evaluation answers is known from the option that is made of its result. -/
theorem eq_ok_of_toOption {α : Type} {e : Eval α} {m : Memory} {a : α}
    (h : (e m).1.toOption = some a) : e m = (.ok a, (e m).2) := by
  rcases h_e : e m with ⟨f | b, m'⟩
  · rw [h_e] at h
    cases h
  · rw [h_e] at h
    cases h
    rfl

/-- Whatever is made of an answer, the memory is the same. -/
theorem snd_map {α β : Type} (e : Eval α) (k : α → β) (m : Memory) :
    ((k <$> e) m).2 = (e m).2 := by
  rw [← bind_pure_comp]
  rcases h_e : e m with ⟨f | a, m'⟩
  · rw [bind_of_error h_e]
  · rw [bind_of_ok h_e]
    rfl

/-- A number, and a copy of it that is there whenever the number is. -/
def numberAndCopy : Config :=
  ⟨Config.supportedVersion, none, .empty, [
    .mk (some "number") none (.field (.number 0 2)),
    .mk (some "copy") none (.optional (.reference "number") (.whenPresent "number"))]⟩

theorem at?_numberAndCopy {p : Place} {x : Config.Constraint}
    (h : numberAndCopy.at? p = some x) : (p = [0] ∧ x.kind = .field (.number 0 2)) ∨
      (p = [1] ∧ x.kind = .optional (.reference "number") (.whenPresent "number")) := by
  -- none of the two constraints embeds another one
  match p with
  | 0 :: q =>
    obtain ⟨y, h_y, h_x⟩ := Config.at?_cons.1 h
    cases h_y
    obtain ⟨rfl, rfl⟩ := Config.Constraint.at?_of_flat (fun _ => List.not_mem_nil) h_x
    exact .inl ⟨rfl, rfl⟩
  | 1 :: q =>
    obtain ⟨y, h_y, h_x⟩ := Config.at?_cons.1 h
    cases h_y
    obtain ⟨rfl, rfl⟩ := Config.Constraint.at?_of_flat
      (fun z h_z => by cases List.mem_singleton.1 h_z) h_x
    exact .inr ⟨rfl, rfl⟩
  | (i + 2) :: q =>
    obtain ⟨y, h_y, -⟩ := Config.at?_cons.1 h
    cases h_y

theorem exists_ofConfig_numberAndCopy :
    ∃ g, ofConfig numberAndCopy {} 0 = .ok g ∧ g.graph.ids = ["copy", "number"] := by
  have h_ids : (ofConfig numberAndCopy {} 0).toOption.map (·.graph.ids) =
      some ["copy", "number"] := by decide +kernel
  obtain ⟨g, h_some, h_graph⟩ := Option.map_eq_some_iff.1 h_ids
  refine ⟨g, ?_, h_graph⟩
  cases h : ofConfig numberAndCopy {} 0 with
  | error _ => rw [h] at h_some; cases h_some
  | ok g' => rw [h] at h_some; cases h_some; rfl

theorem Reachable.never_faults_numberAndCopy : ∃ g, ofConfig numberAndCopy {} 0 = .ok g ∧
    "copy" ∈ g.graph.ids ∧ g.Reachable (g.freshMemory.withDraws default) ∧
    ((∃ reply m', (Request.value "copy" .normal).perform g (g.freshMemory.withDraws default) =
        (.ok reply, m')) ∨
      ∃ reason m', (Request.value "copy" .normal).perform g (g.freshMemory.withDraws default) =
        (.error (.crash reason), m')) := by
  obtain ⟨g, h_ok, h_graph⟩ := exists_ofConfig_numberAndCopy
  have h_mem : "copy" ∈ g.graph.ids := by rw [h_graph]; exact List.mem_cons_self
  refine ⟨g, h_ok, h_mem, .start default, ?_⟩
  refine Reachable.never_faults h_ok (.start default) (.value "copy" .normal) fun id h_id => ?_
  rw [List.mem_singleton.1 h_id]
  exact h_mem

end Generator

end Specimen
