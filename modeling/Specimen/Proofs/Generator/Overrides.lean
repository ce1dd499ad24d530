import Specimen.Proofs.Generator.Comparing
import Specimen.Proofs.Generator.Stability
import Specimen.Proofs.Graph.Growth

/-!
# Overrides

A node that is fixed answers with the values of its override and does nothing else: no kind of node
looks at what it keeps, takes a token or asks another node before that. So an override that has been
taken away again leaves nothing behind that a later request could see
(`Generator.Session.overrides_win`).
-/

namespace Specimen

/-! ### Nothing but overrides -/

/-- Nothing is different in the second memory but overrides and how many of their values have been
used. -/
structure Memory.UpToOverrides (m m' : Memory) : Prop where
  cell : ∀ key, m'.cell key =
    { m.cell key with override := (m'.cell key).override, used := (m'.cell key).used }
  tokens : m'.tokens = m.tokens
  draws : m'.draws = m.draws
  passes : m'.passes = m.passes
  log : m'.log = m.log

/-- The cell is fixed to values, or free, and none of the values have been used. -/
def Cell.fix (values : Option Override) (c : Cell) : Cell :=
  { c with override := values, used := 0 }

namespace Memory.UpToOverrides

variable {m m' m'' : Memory}

theorem refl (m : Memory) : m.UpToOverrides m := ⟨fun _ => rfl, rfl, rfl, rfl, rfl⟩

theorem trans (h : m.UpToOverrides m') (h' : m'.UpToOverrides m'') : m.UpToOverrides m'' where
  cell key := by rw [h'.cell key, h.cell key]
  tokens := h'.tokens.trans h.tokens
  draws := h'.draws.trans h.draws
  passes := h'.passes.trans h.passes
  log := h'.log.trans h.log

theorem update (m : Memory) (key : Nat) {change : Cell → Cell} (h_change : ∀ c,
    change c = { c with override := (change c).override, used := (change c).used }) :
    m.UpToOverrides (m.update key change) := by
  refine ⟨fun other => ?_, rfl, rfl, rfl, rfl⟩
  rw [Memory.cell_update]
  split
  · next h_eq => exact h_eq ▸ h_change _
  · rfl

end Memory.UpToOverrides

namespace Generator

variable {g : Generator} {m m' : Memory} {id : String} {n : Node}

/-- Fixing a registered node changes its cell. -/
theorem setOverride_eq (h_get : g.graph.nodes.get? id = some n) (values : Option Override)
    (m : Memory) : g.setOverride id values m = (.ok (), m.update n.key (Cell.fix values)) := by
  rw [setOverride, find_eq h_get, pure_bind]
  rfl

/-- **A fixed node answers with its override**, for every case, and one more value is used. -/
theorem value_eq_of_fixed (h_get : g.graph.nodes.get? id = some n) {values : Override}
    (h_fixed : (m.cell n.key).override = some values) (c : FieldCase) :
    g.value id c m = (.ok (values (m.cell n.key).used), m.update n.key Cell.use) := by
  have h_ends : Ends (g.value id c) m
      (fun v m' => v = values (m.cell n.key).used ∧ m' = m.update n.key Cell.use)
      fun _ _ => False := by
    rw [value, find_eq h_get, pure_bind]
    exact (Node.ends_value_overridden h_fixed).2 ⟨rfl, rfl⟩
  obtain ⟨v, h_eq, rfl, h_m⟩ := h_ends.exists_ok
  rw [h_eq, h_m]

/-! ### A node is fixed for a while -/

/-- A node is fixed, asked for values, and made free again. -/
def fixedFor (g : Generator) (id : String) (values : Override) (cs : List FieldCase) :
    List (Generator × Request) :=
  (g, .setOverride id (some values)) ::
    (cs.map fun c => (g, .value id c)) ++ [(g, .setOverride id none)]

/-- Since a memory a node was fixed to values, of which some have been used, and nothing else has
happened. -/
structure FixedSince (m : Memory) (key : Nat) (values : Override) (used : Nat) (m' : Memory) :
    Prop where
  upToOverrides : m.UpToOverrides m'
  cell_of_ne : ∀ other, other ≠ key → m'.cell other = m.cell other
  override : (m'.cell key).override = some values
  used_eq : (m'.cell key).used = used

theorem FixedSince.start (m : Memory) (key : Nat) (values : Override) :
    FixedSince m key values 0 (m.update key (Cell.fix (some values))) where
  upToOverrides := .update m key fun _ => rfl
  cell_of_ne _ h_ne := Memory.cell_update_of_ne m _ h_ne
  override := by rw [Memory.cell_update_self]; rfl
  used_eq := by rw [Memory.cell_update_self]; rfl

/-- **One request** for the fixed node. -/
theorem FixedSince.value {key used : Nat} {values : Override}
    (h : FixedSince m key values used m') :
    FixedSince m key values (used + 1) (m'.update key Cell.use) where
  upToOverrides := h.upToOverrides.trans (.update m' key fun _ => rfl)
  cell_of_ne other h_ne := (Memory.cell_update_of_ne m' _ h_ne).trans (h.cell_of_ne other h_ne)
  override := by rw [Memory.cell_update_self]; exact h.override
  used_eq := by rw [Memory.cell_update_self]; exact congrArg (· + 1) h.used_eq

/-- **All requests** for the fixed node: they get the values one after the other. -/
theorem FixedSince.values {used : Nat} {values : Override}
    (h_get : g.graph.nodes.get? id = some n) (h : FixedSince m n.key values used m')
    (cs : List FieldCase) (later : List (Generator × Request)) :
    ∃ m'', FixedSince m n.key values (used + cs.length) m'' ∧
      performAll ((cs.map fun c => (g, .value id c)) ++ later) m' =
        ((List.range' used cs.length).map (fun i => .ok (.value (values i))) ++
          (performAll later m'').1, (performAll later m'').2) := by
  induction cs generalizing used m' with
  | nil => exact ⟨m', h, rfl⟩
  | cons c cs ih =>
    have h_first : (Request.value id c).perform g m' =
        (.ok (.value (values used)), m'.update n.key Cell.use) := by
      rw [Request.perform, ← bind_pure_comp,
        bind_of_ok (value_eq_of_fixed h_get h.override c), h.used_eq]
      rfl
    obtain ⟨m'', h_last, h_rest⟩ := ih h.value
    refine ⟨m'', by rwa [List.length_cons, Nat.add_comm cs.length, ← Nat.add_assoc], ?_⟩
    rw [List.map_cons, List.cons_append, performAll, h_first, h_rest]
    rfl

/-- When it is made free again, everything is as it was. -/
theorem FixedSince.like {key used : Nat} {values : Override}
    (h : FixedSince m key values used m') (h_free : (m.cell key).override = none) :
    m.Like (m'.update key (Cell.fix none)) := by
  have h_last : m'.UpToOverrides (m'.update key (Cell.fix none)) := .update m' key fun _ => rfl
  have h_all := h.upToOverrides.trans h_last
  refine ⟨fun other => ?_, h_all.tokens, h_all.draws, h_all.passes, h_all.log⟩
  by_cases h_eq : other = key
  · subst h_eq
    refine ⟨0, ?_, fun h_fixed => absurd h_free h_fixed⟩
    rw [Memory.cell_update_self, h.upToOverrides.cell other, ← h_free]
    rfl
  · rw [Memory.cell_update_of_ne _ _ h_eq, h.cell_of_ne other h_eq]
    exact .refl _

/-! ### Fixing what a data set fixes -/

/-- **In a session** nodes are registered under their own ids. -/
theorem Session.named (h : g.Session m) : g.graph.Named := by
  have h_grows := Graph.named_grows
  induction h with
  | empty o random draws => exact Graph.named_empty .builtin
  | ofConfig h _ =>
    obtain ⟨⟨tops, h⟩, -⟩ := ofConfig_represents h
    exact fun id n h_get => ((h.registered id n).1 h_get).2
  | build _ above x ih => exact (h_grows.build above x).state _ ih
  | buildConfig _ c ih => exact (h_grows.buildConfig c).state _ ih
  | declareCharset _ id chars ih => exact (h_grows.declareCharset id chars).state _ ih
  | register _ _ ih => exact (h_grows.register _).state _ ih
  | addRoot _ _ h_added ih =>
    rw [addRoot_graph h_added]
    exact (h_grows.register _).state _ ih
  | request _ _ ih => exact ih
  | act _ _ ih => exact ih

/-- In a session the nodes of different ids have different keys. -/
theorem Session.id_unique (h : g.Session m) {id' : String} {n' : Node}
    (h_get : g.graph.nodes.get? id = some n) (h_get' : g.graph.nodes.get? id' = some n')
    (h_key : n'.key = n.key) : id' = id := by
  obtain rfl := h.coherent_quiet.1.eq_of_key_eq n' n (.inl ⟨id', n', h_get', n'.inside_self⟩)
    (.inl ⟨id, n, h_get, n.inside_self⟩) h_key
  exact Option.some.inj ((h.named id' n' h_get').symm.trans (h.named id n' h_get))

/-- What a data set fixes an id to. -/
def fixedTo (d : DataSet) (id : String) : Option Override :=
  (d.fixed.get? id).map fun value _ => some value

/-- The overrides are set one after the other, each at its own node. -/
theorem Session.ends_applyFixed (h : g.Session m) (d : DataSet) (m₀ : Memory) :
    Ends (g.applyFixed d) m₀ (fun _ m' => m₀.UpToOverrides m' ∧
      ∀ id n, g.graph.nodes.get? id = some n → (m'.cell n.key).override = fixedTo d id)
      fun _ _ => False := by
  -- Over any list of known identifiers, since the induction drops those already treated.
  have h_loop : ∀ (ids : List String) (m₀ : Memory), (∀ id ∈ ids, id ∈ g.graph.ids) →
      Ends (forIn ids PUnit.unit fun id _ => do
        g.setOverride id ((d.fixed.get? id).map fun value _ => some value)
        pure (ForInStep.yield PUnit.unit)) m₀ (fun _ m' => m₀.UpToOverrides m' ∧
          ∀ id n, g.graph.nodes.get? id = some n → (m'.cell n.key).override =
            if id ∈ ids then fixedTo d id else (m₀.cell n.key).override) fun _ _ => False := by
    intro ids
    induction ids with
    | nil => exact fun m₀ _ => ⟨.refl m₀, fun id n _ => (if_neg List.not_mem_nil).symm⟩
    | cons id ids ih =>
      intro m₀ h_ids
      obtain ⟨n, h_get⟩ := Dict.contains_iff.1 (Dict.mem_keys_iff.1 (h_ids id List.mem_cons_self))
      rw [List.forIn_cons, ends_bind, ends_bind, Ends, setOverride_eq h_get]
      refine (ih (m₀.update n.key (Cell.fix (fixedTo d id)))
        fun id' h_id' => h_ids id' (List.mem_cons_of_mem _ h_id')).mono
        (fun _ m' h_m' => ?_) fun _ _ h_bad => h_bad
      have h_fix : m₀.UpToOverrides (m₀.update n.key (Cell.fix (fixedTo d id))) :=
        .update m₀ n.key fun _ => rfl
      refine ⟨h_fix.trans h_m'.1, fun id' n' h_get' => ?_⟩
      rw [h_m'.2 id' n' h_get', Memory.cell_update]
      -- Should `id` come again in the rest, it is given the same value once more.
      by_cases h_eq : id' = id
      · subst h_eq
        obtain rfl := Option.some.inj (h_get.symm.trans h_get')
        simp [Cell.fix]
      · have h_ne : n'.key ≠ n.key := fun h_key => h_eq (h.id_unique h_get h_get' h_key)
        simp [h_eq, h_ne]
  rw [applyFixed, ends_bind]
  refine (h_loop g.graph.ids m₀ fun _ => id).mono (fun _ m' h_m' => ⟨h_m'.1, fun id n h_get => ?_⟩)
    fun _ _ h_bad => h_bad
  have h_mem : id ∈ g.graph.ids := Dict.mem_keys_iff.2 (Dict.contains_iff.2 ⟨n, h_get⟩)
  rw [h_m'.2 id n h_get, if_pos h_mem]

/-! ### Overrides win and leave no trace -/

/-- **Overrides win and leave no trace.** Take any graph of nodes, and any point of a session with
it.

A request for a node that is fixed gets the next value of the override, whatever the case, and
counts it as used; otherwise the memory is the same. So a node that is fixed, asked for any values
and made free again, at a point where it was free, is answered with the values of the override one
after the other, and all later requests get the replies that they would have got without this,
whatever generator each is made to. Fixing what a data set fixes sets just the overrides of the
registered ids: to the text that the data set fixes an id to, and to none if it fixes it to none,
whatever overrides there were before. -/
theorem Session.overrides_win (h : g.Session m) :
    (∀ id n values, g.graph.nodes.get? id = some n → (m.cell n.key).override = some values →
      ∀ c, g.value id c m = (.ok (values (m.cell n.key).used), m.update n.key Cell.use)) ∧
    (∀ id n values cs, g.graph.nodes.get? id = some n → (m.cell n.key).override = none →
      ∀ later, (performAll (g.fixedFor id values cs ++ later) m).1 =
          .ok .done :: (List.range cs.length).map (fun i => .ok (.value (values i))) ++
            .ok .done :: (performAll later m).1 ∧
        (performAll later m).2.Like (performAll (g.fixedFor id values cs ++ later) m).2) ∧
    ∀ d, ∃ m', g.applyFixed d m = (.ok (), m') ∧ m.UpToOverrides m' ∧
      ∀ id n, g.graph.nodes.get? id = some n → (m'.cell n.key).override =
        (d.fixed.get? id).map fun value _ => some value := by
  refine ⟨fun id n values h_get h_fixed c => value_eq_of_fixed h_get h_fixed c,
    fun id n values cs h_get h_free later => ?_, fun d => ?_⟩
  · -- the block ends in a memory that is like the first one
    have h_set : ∀ values m, (Request.setOverride id values).perform g m =
        (.ok .done, m.update n.key (Cell.fix values)) := by
      intro values m
      rw [Request.perform, ← bind_pure_comp, bind_of_ok (setOverride_eq h_get values m)]
      rfl
    obtain ⟨m', h_since, h_values⟩ := (FixedSince.start m n.key values).values h_get cs
      ((g, .setOverride id none) :: later)
    have h_like := (h_since.like h_free).performAll later
    rw [fixedFor, List.append_assoc, List.cons_append, List.singleton_append, performAll, h_set,
      h_values, performAll, h_set, List.range_eq_range']
    exact ⟨by rw [List.cons_append, h_like.1], h_like.2⟩
  · obtain ⟨_, h_eq, h_after⟩ := (h.ends_applyFixed d m).exists_ok
    exact ⟨_, h_eq, h_after⟩

/-- A text, and a node whose source it is. -/
def textAndCopy : Generator :=
  ((empty {} 0).afterBuild (Graph.build none (.mk (some "text") none (.constant "two"))))
    |>.afterBuild (Graph.build none (.mk (some "copy") none (.source (.reference "text"))))

/-- The text is fixed for two requests, and its copy does not know of it then. A data set fixes the
text and makes the copy free. -/
theorem Session.overrides_win_textAndCopy :
    textAndCopy.Session (textAndCopy.freshMemory.withDraws default) ∧
    (performAll (textAndCopy.fixedFor "text" (fun i => ["five", "six"][i]?) [.max, .null] ++
        [(textAndCopy, .value "copy" .max)])
      (textAndCopy.freshMemory.withDraws default)).1 =
        [.ok .done, .ok (.value (some "five")), .ok (.value (some "six")), .ok .done,
          .ok (.value (some "two"))] ∧
    ∃ text copy m', textAndCopy.graph.nodes.get? "text" = some text ∧
      textAndCopy.graph.nodes.get? "copy" = some copy ∧
      textAndCopy.applyFixed (DataSet.empty.fix "text" "7")
        (textAndCopy.freshMemory.withDraws default) = (.ok (), m') ∧
      ((m'.cell text.key).override.map fun values => values 0) = some (some "7") ∧
      (m'.cell copy.key).override = none ∧
      (textAndCopy.value "text" .null m').1 = .ok (some "7") := by
  have h_session : textAndCopy.Session (textAndCopy.freshMemory.withDraws default) :=
    ((Session.empty {} 0 default).build none _).build none _
  obtain ⟨-, h_block, h_fix⟩ := Session.overrides_win h_session
  obtain ⟨m', h_applied, -, h_overrides⟩ := h_fix (DataSet.empty.fix "text" "7")
  have h_session' : textAndCopy.Session m' := by
    have h_next := h_session.request (.applyFixed (DataSet.empty.fix "text" "7"))
    rw [Request.perform, ← bind_pure_comp, bind_of_ok h_applied] at h_next
    exact h_next
  obtain ⟨text, h_text⟩ : ∃ n, textAndCopy.graph.nodes.get? "text" = some n := ⟨_, rfl⟩
  obtain ⟨copy, h_copy⟩ : ∃ n, textAndCopy.graph.nodes.get? "copy" = some n := ⟨_, rfl⟩
  refine ⟨h_session, ?_, text, copy, m', h_text, h_copy, h_applied, ?_, ?_, ?_⟩
  · rw [(h_block "text" text (fun i => ["five", "six"][i]?) [.max, .null] h_text rfl
      [(textAndCopy, .value "copy" .max)]).1]
    rfl
  · rw [h_overrides "text" text h_text]
    rfl
  · rw [h_overrides "copy" copy h_copy]
    rfl
  · rw [(Session.overrides_win h_session').1 "text" text (fun _ => some "7") h_text
      (h_overrides "text" text h_text)]

end Generator

end Specimen
