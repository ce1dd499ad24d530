import Mathlib.Data.List.Chain
import Specimen.Proofs.Field
import Specimen.Proofs.Node.Stability

/-!
# Evaluations that fail

A fault comes up through all nodes that are generating, from the innermost one outwards, and takes
their names with it. What is on the stack and what the fault has come up through is one path from
the node that was asked first to where the fault arose, and each node on it was asked by the one
before (`Evaluation.Descends`). One step keeps this up (`Descends.step`): the path becomes longer
when a node is asked and shorter when one answers, and a fault on its way leaves it as it is.

* `Scope.Arises` says what the faults of evaluations are due to: the last node of the path is on it
  twice, or it names an id that no node has.
* No node on the path of a fault has a value for the pass, as a node that is generating keeps
  nothing yet.
* `Evaluation.steps_filled`: a value that is kept in the end and was not before is what a node has
  generated on the way there.
-/

namespace Specimen

open Evaluation

/-! ### Paths -/

/-- A node names an id, in a reference to a part or in its rule. -/
def Node.Names (n : Node) (id : String) : Prop :=
  .reference id ∈ n.kind.links ∨ n.kind.ruleId? = some id

/-- What a fault is due to at the end of a path of nodes. -/
inductive Scope.Arises (s : Scope) : List Node → Fault → Prop where
  /-- The last node was asked again while it was generating. -/
  | reentrant {path : List Node} {n : Node} (h : n ∈ path) :
    Arises s (path ++ [n]) (.reentrant n.display)
  /-- The last node names an id that no node has. -/
  | unknownId {path : List Node} {n : Node} {id : String} (h : n.Names id)
    (h_lost : s.nodes.get? id = none) : Arises s (path ++ [n]) (.unknownId id)

theorem Scope.Arises.ne_nil {s : Scope} {path : List Node} {f : Fault} (h : s.Arises path f) :
    path ≠ [] := by
  cases h <;> simp

/-- A path from a node on which each node may ask the next one. -/
structure Scope.Descent (s : Scope) (origin : Node) (path : List Node) : Prop where
  head : ∀ n ∈ path.head?, n = origin
  chain : path.IsChain s.Calls

namespace Evaluation

/-- The nodes on a stack from the outermost one inwards, and further nodes inside. -/
def trail : List Frame → List Node → List Node
  | [], way => way
  | fr :: st, way => trail st (fr.node :: way)

theorem trail_append (st : List Frame) (way way' : List Node) :
    trail st (way ++ way') = trail st way ++ way' := by
  induction st generalizing way with
  | nil => rfl
  | cons fr st ih => exact ih (fr.node :: way)

theorem trail_eq (st : List Frame) (way : List Node) : trail st way = trail st [] ++ way :=
  trail_append st [] way

theorem mem_trail {st : List Frame} {way : List Node} {n : Node} :
    n ∈ trail st way ↔ (∃ fr ∈ st, fr.node = n) ∨ n ∈ way := by
  induction st generalizing way with
  | nil => simp [trail]
  | cons fr st ih => simp [trail, ih, or_assoc, or_left_comm, eq_comm]

end Evaluation

namespace Scope.Descent

variable {s : Scope} {origin : Node} {path : List Node} {st : List Frame} {way : List Node}

/-- A path that is broken off is one still. -/
theorem of_append {rest : List Node} (h : s.Descent origin (path ++ rest)) :
    s.Descent origin path where
  head n h_n := by
    rw [Option.mem_def] at h_n
    exact h.head n (by rw [List.head?_append, h_n]; rfl)
  chain := h.chain.left_of_append

/-- The nodes on the stack are on the path. -/
theorem back (h : s.Descent origin (trail st way)) : s.Descent origin (trail st []) :=
  of_append (trail_eq st way ▸ h)

/-- So are the nodes around the innermost one. -/
theorem out {fr : Frame} (h : s.Descent origin (trail (fr :: st) way)) :
    s.Descent origin (trail st []) :=
  of_append (trail_eq st (fr.node :: way) ▸ h)

/-- The innermost node asks one that it may ask. -/
theorem ask {fr : Frame} (h : s.Descent origin (trail (fr :: st) [])) {n : Node}
    (h_calls : s.Calls fr.node n) : s.Descent origin (trail (fr :: st) [n]) := by
  have h_split : trail (fr :: st) [n] = trail st [] ++ [fr.node, n] := trail_eq st [fr.node, n]
  refine ⟨?_, ?_⟩
  · -- the path begins where it began before
    have h_head : (trail (fr :: st) [n]).head? = (trail (fr :: st) []).head? := by
      rw [h_split, show trail (fr :: st) [] = trail st [] ++ [fr.node] from trail_eq st [fr.node]]
      simp
    exact h_head ▸ h.head
  · rw [h_split, List.isChain_split]
    refine ⟨?_, List.isChain_pair.2 h_calls⟩
    rw [← trail_eq st [fr.node]]
    exact h.chain

end Scope.Descent

/-! ### Faults on their way -/

/-- A fault has come up through some nodes, none of which has a value for the pass. -/
structure Evaluation.Rises (s : Scope) (f : Fault) (st : List Frame) (way : List Node)
    (m : Memory) : Prop where
  path : f.path = way.map Node.display
  arises : s.Arises (trail st way) f.root
  unset : ∀ n ∈ way, n.MustCompute m

/-- An evaluation that began with a request to a node has come down a path from there: to the node
that is asked next, or through the nodes that a fault has come up through. -/
structure Evaluation.Descends (s : Scope) (origin : Node) (x : Evaluation) (way : List Node) :
    Prop where
  descent : s.Descent origin (trail x.stack way)
  asked : ∀ n c, x.control = .ask n c → way = [n]
  fault : ∀ f, x.control = .fail (.fault f) → Rises s f x.stack way x.memory

section Moves

variable {s : Scope} {fr : Frame} {c : FieldCase} {stage : Stage} {control control' : Control}
  {m m' : Memory}

/-- Fields never fail with a fault: they answer or break off. -/
theorem fieldValue_ne_fault (key : Nat) (f : Field) (set : CharacterSet) (c : FieldCase)
    (m : Memory) (fault : Fault) : (fieldValue key f set c m).1 ≠ .error (.fault fault) := by
  intro h_error
  have h_crash : Ends (fieldValue key f set c) m (fun _ _ => True)
      fun failure _ => ∃ reason, failure = .crash reason := by
    rw [ends_fieldValue (Prod.eta _).symm]
    refine ⟨fun _ _ => trivial, fun failure h_failure => ?_⟩
    obtain ⟨reason, rfl⟩ := f.generate_error _ set m.draws h_failure
    exact ⟨reason, rfl⟩
  obtain ⟨_, h_eq⟩ := h_crash.of_error (Prod.ext h_error rfl)
  cases h_eq

/-- A node that fails by itself names an id that no node has. -/
theorem Scope.Moves.fault {f : Fault}
    (h : s.Moves fr.node c fr.stage control m stage (.fail (.fault f)) m') (h_sound : fr.Sound s) :
    ∃ id, f = .unknownId id ∧ fr.node.Names id ∧ s.nodes.get? id = none := by
  -- Only a node that is missed gives a fault: a field that breaks off does so in another way.
  obtain ⟨n, asked, token, old⟩ := fr
  generalize h_control : Control.fail (.fault f) = control' at h
  cases h with
  | @constant value _ =>
    cases c <;> cases h_control
  | @field field set _ h_kind =>
    refine absurd ?_ (fieldValue_ne_fault n.key field set c m f)
    revert h_control
    cases (fieldValue n.key field set c m).1 with
    | ok v => exact nofun
    | error failure => exact fun h_eq => congrArg Except.error (Control.fail.inj h_eq).symm
  | @partLost values id links _ h_lost =>
    cases h_control
    exact ⟨id, rfl, .inl (h_sound _ List.mem_cons_self), h_lost⟩
  | @ruleLost child id n' _ h_kind _ _ _ h_lost =>
    cases h_control
    exact ⟨id, rfl, .inr (by rw [h_kind]; rfl), h_lost⟩
  | @childLost id _ h_link h_lost =>
    cases h_control
    refine ⟨id, rfl, .inl ?_, h_lost⟩
    rcases h_link with ⟨rule, h_kind, -⟩ | h_kind
    · exact h_kind ▸ List.mem_singleton_self _
    · exact h_kind ▸ List.mem_singleton_self _
  | _ => cases h_control

end Moves

namespace Evaluation.Descends

variable {s : Scope} {origin : Node} {x y : Evaluation} {way : List Node} {Member : Node → Prop}

theorem start (s : Scope) (n : Node) (c : FieldCase) (m : Memory) :
    Descends s n ⟨[], .ask n c, m⟩ [n] where
  descent := ⟨fun k h_k => (Option.some.inj h_k).symm, List.isChain_singleton n⟩
  asked _ _ h := by
    cases h
    rfl
  fault := nofun

/-- What comes next is neither a request nor a fault. -/
theorem of_calm {st : List Frame} {control : Control} {m : Memory}
    (h : s.Descent origin (trail st [])) (h_ask : ∀ n c, control ≠ .ask n c)
    (h_fail : ∀ f, control ≠ .fail (.fault f)) : Descends s origin ⟨st, control, m⟩ [] where
  descent := h
  asked n c h_control := (h_ask n c h_control).elim
  fault f h_control := (h_fail f h_control).elim

/-- **One move** of the innermost node. -/
theorem move {fr : Frame} {st : List Frame} {c : FieldCase} {stage : Stage}
    {control control' : Control} {m m' : Memory}
    (h : s.Descent origin (trail (fr :: st) [])) (h_sound : fr.Sound s)
    (h_move : s.Moves fr.node c fr.stage control m stage control' m') :
    ∃ way, Descends s origin ⟨fr.at stage :: st, control', m'⟩ way := by
  have h_calls := (h_move.sound h_sound).2
  cases control' with
  | ask n c =>
    refine ⟨[n], h.ask h_calls, fun n' c' h_control => ?_, nofun⟩
    cases h_control
    rfl
  | fail failure =>
    cases failure with
    | fault f =>
      -- the node itself fails, and the fault has not come up through any other
      obtain ⟨id, rfl, h_names, h_lost⟩ := h_move.fault h_sound
      refine ⟨[], h, nofun, fun f h_control => ?_⟩
      cases h_control
      refine ⟨rfl, ?_, nofun⟩
      change s.Arises (trail st [fr.node]) (.unknownId id)
      rw [trail_eq]
      exact .unknownId h_names h_lost
    | crash _ | tooDeep => exact ⟨[], of_calm h nofun nofun⟩
  | go | generated _ | answer _ => exact ⟨[], of_calm h nofun nofun⟩

/-- **One step.** -/
theorem step (h : x.Descends s origin way) (h_guarded : x.Guarded) (h_fresh : x.Fresh)
    (h_within : x.Within s Member)
    (h_keys : ∀ n n', Member n → Member n' → n.key = n'.key → n = n') (h_step : s.Step x y) :
    ∃ way', y.Descends s origin way' := by
  cases h_step with
  | overridden _ | remembered _ _ _ => exact ⟨[], of_calm h.descent.back nofun nofun⟩
  | @reentrant st n c m held h_must h_token _ =>
    -- who holds a token is on the stack, so the node is asked from inside itself
    obtain rfl : way = [n] := h.asked n c rfl
    obtain ⟨fr, h_fr, h_key, -⟩ := (h_guarded.token_iff n.key held).1 h_token
    have h_node : fr.node = n := h_keys _ _ (h_within.stack fr h_fr).1 h_within.control h_key
    refine ⟨[n], h.descent, nofun, fun f h_f => ?_⟩
    cases h_f
    refine ⟨rfl, ?_, fun k h_k => ?_⟩
    · rw [trail_eq]
      exact .reentrant (mem_trail.2 (.inl ⟨fr, h_fr, h_node⟩))
    · obtain rfl := List.mem_singleton.1 h_k
      exact h_must
  | @begin st n c m _ _ =>
    obtain rfl : way = [n] := h.asked n c rfl
    exact ⟨[], of_calm h.descent nofun nofun⟩
  | @move st fr control m stage control' m' h_move =>
    exact move h.descent.back (h_within.stack fr List.mem_cons_self).2 h_move
  | @finish st fr v m => exact ⟨[], of_calm h.descent.out nofun nofun⟩
  | @fail st fr failure m =>
    cases failure with
    | fault f =>
      -- the path is the same as before, and the node that failed had nothing to keep
      have h_same := Memory.KeepsSame.update m fr.node.key Cell.release fun _ => ⟨rfl, rfl⟩
      have h_rises := h.fault f rfl
      refine ⟨fr.node :: way, h.descent, nofun, fun f' h_f' => ?_⟩
      cases h_f'
      refine ⟨congrArg (fr.node.display :: ·) h_rises.path, h_rises.arises, ?_⟩
      refine List.forall_mem_cons.2 ⟨h_same.mustCompute (h_fresh fr List.mem_cons_self), ?_⟩
      exact fun n h_n => h_same.mustCompute (h_rises.unset n h_n)
    | crash _ | tooDeep => exact ⟨[], of_calm h.descent.out nofun nofun⟩

/-- **All steps.** -/
theorem steps (h : ∃ way, x.Descends s origin way) (h_guarded : x.Guarded) (h_fresh : x.Fresh)
    (h_within : x.Within s Member) (h_closed : s.Closed Member)
    (h_keys : ∀ n n', Member n → Member n' → n.key = n'.key → n = n') (h_steps : s.Steps x y) :
    ∃ way, y.Descends s origin way := by
  induction h_steps with
  | refl => exact h
  | tail h_before h_step ih =>
    obtain ⟨way, h_way⟩ := ih
    exact h_way.step (h_guarded.steps h_before) (h_fresh.steps h_guarded h_before).1
      (h_within.steps h_closed h_before) h_keys h_step

end Evaluation.Descends

/-! ### Values that are kept -/

section Filled

variable {s : Scope} {x y : Evaluation} {key : Nat} {w : Option String}

/-- A point at which a node has generated a value that it is to keep. -/
def Evaluation.Fills (key : Nat) (w : Option String) (x : Evaluation) : Prop :=
  ∃ fr st v, x.stack = fr :: st ∧ x.control = .generated v ∧ fr.node.key = key ∧
    fr.node.kind.isStateless = false ∧ w = derive fr.asked v

/-- **One step.** A value comes to be kept only when its own node has generated it. -/
theorem Scope.Step.filled (h_step : s.Step x y) (h_none : (x.memory.cell key).cache = none)
    (h_some : (y.memory.cell key).cache = some w) : x.Fills key w := by
  -- whatever keeps the same cannot be the step
  have h_same : ∀ {m m' : Memory}, (m.cell key).cache = none → (m'.cell key).cache = some w →
      ¬ m.KeepsSame m' := fun h_m h_m' h_keeps =>
    Option.some_ne_none w (h_m'.symm.trans ((h_keeps.cache key).trans h_m))
  cases h_step with
  | overridden _ =>
    exact (h_same h_none h_some (.update _ _ Cell.use fun _ => ⟨rfl, rfl⟩)).elim
  | remembered _ _ _ => exact (h_same h_none h_some ⟨fun _ => rfl, fun _ => rfl⟩).elim
  | reentrant _ _ _ => exact (h_same h_none h_some ⟨fun _ => rfl, fun _ => rfl⟩).elim
  | begin _ _ => exact (h_same h_none h_some (.begun ..)).elim
  | move h_move => exact (h_same h_none h_some (.goesOn h_move.goesOn)).elim
  | fail => exact (h_same h_none h_some (.update _ _ Cell.release fun _ => ⟨rfl, rfl⟩)).elim
  | @finish st fr v m =>
    by_cases h_key : key = fr.node.key
    · subst h_key
      rw [Memory.cell_kept_self.2] at h_some
      split at h_some
      · cases h_none.symm.trans h_some
      · next h_kind =>
        exact ⟨fr, st, v, rfl, rfl, rfl, by simpa using h_kind, (Option.some.inj h_some).symm⟩
    · rw [Memory.cell_kept_of_ne h_key] at h_some
      cases h_none.symm.trans h_some

/-- **All steps.** What is kept in the end and was not in the beginning was generated on the way. -/
theorem Evaluation.steps_filled (h_guarded : x.Guarded) (h_fresh : x.Fresh)
    (h_steps : s.Steps x y) (h_none : (x.memory.cell key).cache = none)
    (h_some : (y.memory.cell key).cache = some w) :
    ∃ z, s.Steps x z ∧ s.Steps z y ∧ z.Fills key w := by
  induction h_steps with
  | refl => cases h_none.symm.trans h_some
  | @tail y y' h_before h_step ih =>
    cases h_cache : (y.memory.cell key).cache with
    | none => exact ⟨y, h_before, .single h_step, h_step.filled h_cache h_some⟩
    | some w' =>
      -- what is kept before the last step is kept after it
      have h_keeps := (h_fresh.steps h_guarded h_before).1.step (h_guarded.steps h_before) h_step
      obtain rfl : w' = w :=
        Option.some.inj ((h_keeps.2.cache key w' h_cache).symm.trans h_some)
      obtain ⟨z, h_z, h_rest, h_fills⟩ := ih h_cache
      exact ⟨z, h_z, h_rest.tail h_step, h_fills⟩

end Filled

end Specimen
