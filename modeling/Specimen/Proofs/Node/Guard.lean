import Mathlib.Data.List.Perm.Subperm
import Specimen.Proofs.Node.Stepping

/-!
# Tokens and the stack of an evaluation

A node holds a token just as long as it is on the stack of the evaluation, and the tokens ascend
from the outermost node inwards (`Evaluation.Guarded`). One step keeps this up (`Guarded.step`), so
it holds at every point of an evaluation that begins with no token held (`Guarded.steps`).

A request to compute is turned down as re-entrant exactly when its node holds a token
(`guarded_reentrant_iff`), so exactly when the node is on the stack. It follows that the stack is
never longer than there are nodes (`Guarded.length_le`), and that fuel for one more request than
there are nodes never runs out (`Node.value_guarded`).
-/

namespace Specimen

open Evaluation

/-! ### What moves keep -/

/-- Generating without asking leaves tokens, marks, overrides and the values of the pass as they
are. -/
structure Memory.GoesOn (m m' : Memory) : Prop where
  settled : m.Settled m'
  cache : ∀ key, (m'.cell key).cache = (m.cell key).cache
  tokens : m'.tokens = m.tokens

namespace Memory.GoesOn

theorem refl (m : Memory) : m.GoesOn m := ⟨.refl m, fun _ => rfl, rfl⟩

theorem update {m m' : Memory} (h : m.GoesOn m') {key : Nat} {change : Cell → Cell}
    (h_change : ∀ c, (change c).token = c.token ∧ (change c).isVisited = c.isVisited ∧
      (change c).override = c.override) (h_cache : ∀ c, (change c).cache = c.cache) :
    m.GoesOn (m'.update key change) where
  settled := h.settled.update h_change
  cache other :=
    (Memory.cell_update_keeps Cell.cache change h_cache m' key other).trans (h.cache other)
  tokens := h.tokens

theorem withDraws {m m' : Memory} (h : m.GoesOn m') (draws : Draws) :
    m.GoesOn (m'.withDraws draws) :=
  ⟨h.settled.withDraws draws, h.cache, h.tokens⟩

theorem serve {m m' : Memory} (h : m.GoesOn m') (key : Nat) (position : Int) :
    m.GoesOn (m'.update key (Cell.serve position)) :=
  h.update (fun _ => ⟨by simp, by simp, by simp⟩) fun _ => by simp

theorem decided (m : Memory) (key : Nat) (mandatory : Bool) :
    m.GoesOn (m.decided key mandatory).2 := by
  have h_noted : m.GoesOn (m.update key (Cell.decide mandatory)) :=
    (refl m).update (fun _ => ⟨rfl, rfl, rfl⟩) fun _ => rfl
  cases mandatory with
  | true => exact h_noted
  | false => exact (h_noted.withDraws _).update (fun _ => ⟨rfl, rfl, rfl⟩) fun _ => rfl

theorem constantValue (m : Memory) (key : Nat) (value : String) (c : FieldCase) :
    m.GoesOn (constantValue key value c m).2 := by
  cases c with
  | null | blank => exact refl m
  | normal | min | avg | max => exact (refl m).serve key 0

theorem served (m : Memory) (key : Nat) (f : Field) (c : FieldCase) :
    m.GoesOn (m.served key f c) := by
  rw [Memory.served]
  split
  · exact (refl m).serve key _
  · exact refl m

theorem fieldValue (m : Memory) (key : Nat) (f : Field) (set : CharacterSet) (c : FieldCase) :
    m.GoesOn (fieldValue key f set c m).2 := by
  refine Ends.state ?_
  rw [ends_fieldValue (Prod.eta _).symm]
  exact ⟨fun _ _ => (served m key f _).withDraws _, fun _ _ => (served m key f _).withDraws _⟩

end Memory.GoesOn

/-- A move leaves tokens and the values of the pass as they are. -/
theorem Scope.Moves.goesOn {s : Scope} {n : Node} {c : FieldCase} {stage stage' : Stage}
    {control control' : Control} {m m' : Memory}
    (h : s.Moves n c stage control m stage' control' m') : m.GoesOn m' := by
  cases h with
  | constant _ => exact .constantValue ..
  | field _ => exact .fieldValue ..
  | decided => exact .decided ..
  | _ => exact .refl m

/-! ### Re-entrance -/

/-- A failure that comes from inside a node is told by the name of the node around it. -/
theorem Failure.inNode_ne_reentrant (f : Failure) (node other : String) :
    f.inNode node ≠ .fault (.reentrant other) := by
  cases f <;> exact nofun

/-- What can only fail inside a node is not turned down as re-entrant itself. -/
theorem fst_ne_reentrant {α : Type} {e : Eval α} {m : Memory} {other : String}
    (h : Ends e m (fun _ _ => True) fun f _ => ∃ node f', f = Failure.inNode node f') :
    (e m).1 ≠ .error (.fault (.reentrant other)) := by
  intro h_error
  obtain ⟨_, f, h_f⟩ := h.of_error (Prod.ext h_error rfl)
  exact f.inNode_ne_reentrant _ _ h_f.symm

/-- **Requests to compute.** Whatever is to be generated, a node is turned down as re-entrant
exactly when it holds a token, as all tokens in use are older than the next one. -/
theorem guarded_reentrant_iff {key : Nat} {i : Identity} {c : FieldCase}
    {generate : Eval (Option String)} {m : Memory}
    (h : ∀ held, (m.cell key).token = some held → held < m.tokens) :
    (guarded key i c generate m).1 = .error (.fault (.reentrant i.display)) ↔
      (m.cell key).token ≠ none := by
  constructor
  · intro h_error h_none
    -- without a token the node computes, and what fails then fails inside it
    refine fst_ne_reentrant ?_ h_error
    rw [ends_guarded (by simp [h_none])]
    exact ends_iff.2 ⟨fun _ _ _ => trivial, fun f _ _ => ⟨_, f, rfl⟩⟩
  · intro h_some
    obtain ⟨held, h_held⟩ := Option.ne_none_iff_exists'.1 h_some
    have h_fails : Ends (guarded key i c generate) m (fun _ _ => False)
        fun f _ => f = .fault (.reentrant i.display) :=
      (ends_guarded_held h_held (h held h_held)).2 rfl
    exact h_fails.fst_eq_error

/-! ### The guard -/

/-- The nodes that hold a token are those on the stack, in the order of their tokens, and none is
being looked through. -/
structure Evaluation.Guarded (x : Evaluation) : Prop where
  token_iff : ∀ key t, (x.memory.cell key).token = some t ↔
    ∃ fr ∈ x.stack, fr.node.key = key ∧ fr.token = t
  ascending : x.stack.Pairwise fun inner outer => outer.token < inner.token
  below : ∀ fr ∈ x.stack, fr.token < x.memory.tokens
  unmarked : ∀ key, (x.memory.cell key).isVisited = false

namespace Evaluation.Guarded

variable {s : Scope} {x y : Evaluation}

/-- Where nothing is being evaluated, an evaluation begins. -/
theorem start {m : Memory}
    (h_quiet : ∀ key, (m.cell key).token = none ∧ (m.cell key).isVisited = false)
    (control : Control) : Guarded ⟨[], control, m⟩ where
  token_iff key t := by simp [(h_quiet key).1]
  ascending := .nil
  below := by simp
  unmarked key := (h_quiet key).2

/-- The nodes on the stack that have the same key hold the same token. -/
theorem token_eq (h : x.Guarded) {fr fr' : Frame} (h_fr : fr ∈ x.stack) (h_fr' : fr' ∈ x.stack)
    (h_key : fr.node.key = fr'.node.key) : fr.token = fr'.token := by
  have h_held := (h.token_iff fr.node.key fr.token).2 ⟨fr, h_fr, rfl, rfl⟩
  have h_held' := (h.token_iff fr.node.key fr'.token).2 ⟨fr', h_fr', h_key.symm, rfl⟩
  exact Option.some.inj (h_held.symm.trans h_held')

/-- The same stack and tokens are guarded the same way. -/
theorem congr (h : x.Guarded) {control : Control} {m : Memory}
    (h_cell : ∀ key, (m.cell key).token = (x.memory.cell key).token ∧
      (m.cell key).isVisited = (x.memory.cell key).isVisited)
    (h_tokens : x.memory.tokens ≤ m.tokens) : Guarded ⟨x.stack, control, m⟩ where
  token_iff key t := by rw [(h_cell key).1]; exact h.token_iff key t
  ascending := h.ascending
  below fr h_fr := Nat.lt_of_lt_of_le (h.below fr h_fr) h_tokens
  unmarked key := (h_cell key).2.trans (h.unmarked key)

/-- A node that has no older token takes one, and comes innermost. -/
theorem push {st : List Frame} {n : Node} {c : FieldCase} {m : Memory} {control : Control}
    (h : Guarded ⟨st, control, m⟩)
    (h_token : ∀ held, (m.cell n.key).token = some held → m.tokens ≤ held) :
    Guarded ⟨⟨n, c, m.tokens, .begun⟩ :: st, .go, m.begun n.key n.identity (n.computedCase c)⟩ := by
  -- a token that it held would be younger than all that were handed out
  have h_free : ∀ fr ∈ st, fr.node.key ≠ n.key := by
    intro fr h_fr h_key
    have h_held := (h.token_iff n.key fr.token).2 ⟨fr, h_fr, h_key, rfl⟩
    exact absurd (h.below fr h_fr) (Nat.not_lt.2 (h_token fr.token h_held))
  -- only the cell of the node has changed
  refine ⟨fun key t => ?_, ?_, ?_, fun key => ?_⟩
  · rw [Memory.cell_begun]
    split
    · next h_eq =>
      subst h_eq
      constructor
      · intro h_t
        exact ⟨_, List.mem_cons_self, rfl, Option.some.inj h_t⟩
      · rintro ⟨fr, h_fr, h_key, rfl⟩
        rcases List.mem_cons.1 h_fr with rfl | h_fr
        · rfl
        · exact absurd h_key (h_free fr h_fr)
    · next h_ne =>
      rw [h.token_iff]
      constructor
      · rintro ⟨fr, h_fr, h_key⟩
        exact ⟨fr, List.mem_cons_of_mem _ h_fr, h_key⟩
      · rintro ⟨fr, h_fr, h_key, h_t⟩
        rcases List.mem_cons.1 h_fr with rfl | h_fr
        · exact absurd h_key.symm h_ne
        · exact ⟨fr, h_fr, h_key, h_t⟩
  · exact List.pairwise_cons.2 ⟨h.below, h.ascending⟩
  · intro fr h_fr
    rcases List.mem_cons.1 h_fr with rfl | h_fr
    · exact Nat.lt_succ_self _
    · exact Nat.lt_succ_of_lt (h.below fr h_fr)
  · rw [Memory.cell_begun]
    split
    · next h_eq => exact h_eq ▸ h.unmarked key
    · exact h.unmarked key

/-- The innermost node gives back its token. -/
theorem pop {fr : Frame} {st : List Frame} {m : Memory} {control control' : Control}
    (h : Guarded ⟨fr :: st, control, m⟩) :
    Guarded ⟨st, control', m.update fr.node.key Cell.release⟩ := by
  -- no other node on the stack has the key, as its token is older
  have h_other : ∀ fr' ∈ st, fr'.node.key ≠ fr.node.key := by
    intro fr' h_fr' h_key
    have h_older := (List.pairwise_cons.1 h.ascending).1 fr' h_fr'
    have h_same := h.token_eq (List.mem_cons_of_mem _ h_fr') List.mem_cons_self h_key
    exact absurd h_same (Nat.ne_of_lt h_older)
  refine ⟨fun key t => ?_, (List.pairwise_cons.1 h.ascending).2,
    fun fr' h_fr' => h.below fr' (List.mem_cons_of_mem _ h_fr'), fun key => ?_⟩
  · rw [Memory.cell_update]
    split
    · next h_eq =>
      subst h_eq
      constructor
      · intro h_t
        cases h_t
      · rintro ⟨fr', h_fr', h_key, -⟩
        exact absurd h_key (h_other fr' h_fr')
    · next h_ne =>
      rw [h.token_iff]
      constructor
      · rintro ⟨fr', h_fr', h_key, h_t⟩
        rcases List.mem_cons.1 h_fr' with rfl | h_fr'
        · exact absurd h_key.symm h_ne
        · exact ⟨fr', h_fr', h_key, h_t⟩
      · rintro ⟨fr', h_fr', h_key⟩
        exact ⟨fr', List.mem_cons_of_mem _ h_fr', h_key⟩
  · exact (Memory.cell_update_keeps Cell.isVisited Cell.release (fun _ => rfl) m _ key).trans
      (h.unmarked key)

/-- **One step.** -/
theorem step (h : x.Guarded) (h_step : s.Step x y) : y.Guarded := by
  cases h_step with
  | overridden _ =>
    refine h.congr (fun key => ⟨?_, ?_⟩) (Nat.le_refl _)
    · exact Memory.cell_update_keeps Cell.token Cell.use (fun _ => rfl) _ _ key
    · exact Memory.cell_update_keeps Cell.isVisited Cell.use (fun _ => rfl) _ _ key
  | remembered _ _ _ => exact h.congr (fun _ => ⟨rfl, rfl⟩) (Nat.le_refl _)
  | reentrant _ _ _ => exact h.congr (fun _ => ⟨rfl, rfl⟩) (Nat.le_succ _)
  | begin _ h_token => exact h.push h_token
  | move h_move =>
    have h_goesOn := h_move.goesOn
    have h_next : Guarded ⟨_, .go, _⟩ :=
      h.congr (fun key => ⟨(h_goesOn.settled key).1, (h_goesOn.settled key).2.1⟩)
        (Nat.le_of_eq h_goesOn.tokens.symm)
    -- another stage is neither another node nor another token
    refine ⟨fun key t => ?_, ?_, ?_, h_next.unmarked⟩
    · rw [h_next.token_iff]
      simp [Frame.at]
    · exact List.pairwise_cons.2 (List.pairwise_cons.1 h_next.ascending)
    · exact List.forall_mem_cons.2 (List.forall_mem_cons.1 h_next.below)
  | @finish st fr v m =>
    have h_pop : Guarded ⟨st, .answer (fr.node.answerOf fr.asked v), _⟩ := h.pop
    -- keeping a value concerns neither tokens nor marks
    refine h_pop.congr (fun key => ?_) (Nat.le_of_eq ?_)
    · rw [Memory.kept]
      split
      · exact ⟨rfl, rfl⟩
      · exact ⟨Memory.cell_update_keeps Cell.token (Cell.keep _) (fun _ => rfl) _ _ key,
          Memory.cell_update_keeps Cell.isVisited (Cell.keep _) (fun _ => rfl) _ _ key⟩
    · rw [Memory.kept]
      split <;> rfl
  | fail => exact h.pop

/-- **All steps.** -/
theorem steps (h : x.Guarded) (h_steps : s.Steps x y) : y.Guarded := by
  induction h_steps with
  | refl => exact h
  | tail _ h_step ih => exact ih.step h_step

/-- When the stack is empty, no token is held. -/
theorem token_eq_none (h : x.Guarded) (h_stack : x.stack = []) (key : Nat) :
    (x.memory.cell key).token = none := by
  cases h_token : (x.memory.cell key).token with
  | none => rfl
  | some t =>
    obtain ⟨fr, h_fr, -⟩ := (h.token_iff key t).1 h_token
    rw [h_stack] at h_fr
    exact absurd h_fr List.not_mem_nil

end Evaluation.Guarded

/-! ### How deep requests nest -/

/-- What a node was heard to ask for is what it may ask for. -/
def Evaluation.Frame.Sound (s : Scope) (fr : Frame) : Prop :=
  match fr.stage with
  | .parts _ links => ∀ link ∈ links, link ∈ fr.node.kind.links
  | .rule child | .ruled child _ => s.Calls fr.node child
  | .begun | .child => True

/-- What comes next is about the members of a set of nodes. -/
def Evaluation.Control.Within (Member : Node → Prop) : Control → Prop
  | .ask n _ => Member n
  | .fail f => f ≠ .tooDeep
  | _ => True

/-- An evaluation is about the members of a set of nodes. -/
structure Evaluation.Within (s : Scope) (Member : Node → Prop) (x : Evaluation) : Prop where
  stack : ∀ fr ∈ x.stack, Member fr.node ∧ fr.Sound s
  control : x.control.Within Member

/-- A set of nodes contains all nodes that its members may ask. -/
def Scope.Closed (s : Scope) (Member : Node → Prop) : Prop :=
  ∀ n n', Member n → s.Calls n n' → Member n'

section Within

variable {s : Scope} {Member : Node → Prop} {x y : Evaluation}

theorem Scope.calls_of_link {n n' : Node} {child : Link} (h_link : child ∈ n.kind.links)
    (h_target : s.target? child = some n') : s.Calls n n' :=
  .inl ⟨child, h_link, h_target⟩

theorem Failure.inNode_ne_tooDeep {f : Failure} (h : f ≠ .tooDeep) (node : String) :
    f.inNode node ≠ .tooDeep := by
  cases f with
  | fault _ | crash _ => exact nofun
  | tooDeep => exact (h rfl).elim

theorem Field.Failure.lift_ne_tooDeep (f : Field.Failure) : f.lift ≠ .tooDeep := by
  cases f <;> exact nofun

/-- What is computed at once never asks a node, nor for more fuel. -/
theorem Evaluation.Control.within_ofResult {e : Eval (Option String)} {m : Memory}
    (h : Ends e m (fun _ _ => True) fun f _ => f ≠ .tooDeep) :
    (Control.ofResult (e m).1).Within Member := by
  rw [Ends] at h
  split at h
  · next h_eq => rw [h_eq]; exact trivial
  · next h_eq => rw [h_eq]; exact h

/-- A move asks nodes only that the node may ask. -/
theorem Scope.Moves.sound {fr : Frame} {c : FieldCase} {stage : Stage} {control control' : Control}
    {m m' : Memory} (h : s.Moves fr.node c fr.stage control m stage control' m')
    (h_sound : fr.Sound s) :
    (fr.at stage).Sound s ∧ control'.Within (s.Calls fr.node) := by
  obtain ⟨n, asked, token, old⟩ := fr
  have h_child : ∀ {child : Link} {rule : Config.Mandatory}, n.kind = .optional child rule →
      child ∈ n.kind.links := fun h_kind => h_kind ▸ List.mem_singleton_self _
  cases h with
  | @constant value _ =>
    refine ⟨trivial, Control.within_ofResult ?_⟩
    cases c <;> exact trivial
  | @field f set _ =>
    -- a field breaks off, if at all, for reasons of its own
    refine ⟨trivial, Control.within_ofResult ?_⟩
    rw [Specimen.ends_fieldValue (Prod.eta _).symm]
    exact ⟨fun _ _ => trivial, fun failure _ => failure.lift_ne_tooDeep⟩
  | combined h_kind => exact ⟨fun link h_link => h_kind ▸ h_link, trivial⟩
  | part h_target =>
    exact ⟨fun link h_link => h_sound link (List.mem_cons_of_mem _ h_link),
      Scope.calls_of_link (h_sound _ List.mem_cons_self) h_target⟩
  | partLost _ => exact ⟨fun link h_link => h_sound link (List.mem_cons_of_mem _ h_link), nofun⟩
  | partAnswered => exact ⟨h_sound, trivial⟩
  | partsDone _ => exact ⟨h_sound, trivial⟩
  | absent _ _ => exact ⟨trivial, trivial⟩
  | ruleLost _ _ _ _ _ | childLost _ _ => exact ⟨trivial, nofun⟩
  | explicit h_kind _ _ h_target =>
    exact ⟨trivial, Scope.calls_of_link (h_child h_kind) h_target⟩
  | ignoring h_kind _ h_target _ | fixed h_kind _ h_target _ =>
    exact ⟨Scope.calls_of_link (h_child h_kind) h_target, trivial⟩
  | whenPresent h_kind _ h_target _ h_rule =>
    exact ⟨Scope.calls_of_link (h_child h_kind) h_target, .inr ⟨_, by rw [h_kind]; rfl, h_rule⟩⟩
  | ruled => exact ⟨h_sound, trivial⟩
  | decided => exact ⟨trivial, h_sound⟩
  | source h_kind h_target =>
    exact ⟨trivial, Scope.calls_of_link (h_kind ▸ List.mem_singleton_self _) h_target⟩
  | childAnswered => exact ⟨trivial, trivial⟩

theorem Evaluation.Control.Within.mono {Member' : Node → Prop} {control : Control}
    (h : control.Within Member) (h_member : ∀ n, Member n → Member' n) :
    control.Within Member' := by
  cases control with
  | ask n c => exact h_member n h
  | _ => exact h

theorem Evaluation.Within.step (h_closed : s.Closed Member) (h : x.Within s Member)
    (h_step : s.Step x y) : y.Within s Member := by
  cases h_step with
  | overridden _ | remembered _ _ _ => exact ⟨h.stack, trivial⟩
  | reentrant _ _ _ => exact ⟨h.stack, nofun⟩
  | begin _ _ => exact ⟨List.forall_mem_cons.2 ⟨⟨h.control, trivial⟩, h.stack⟩, trivial⟩
  | move h_move =>
    obtain ⟨h_own, h_rest⟩ := List.forall_mem_cons.1 h.stack
    obtain ⟨h_sound, h_next⟩ := h_move.sound h_own.2
    refine ⟨List.forall_mem_cons.2 ⟨⟨h_own.1, h_sound⟩, h_rest⟩, ?_⟩
    exact h_next.mono fun n h_calls => h_closed _ n h_own.1 h_calls
  | finish => exact ⟨(List.forall_mem_cons.1 h.stack).2, trivial⟩
  | fail => exact ⟨(List.forall_mem_cons.1 h.stack).2, Failure.inNode_ne_tooDeep h.control _⟩

theorem Evaluation.Within.steps (h_closed : s.Closed Member) (h : x.Within s Member)
    (h_steps : s.Steps x y) : y.Within s Member := by
  induction h_steps with
  | refl => exact h
  | tail _ h_step ih => exact ih.step h_closed h_step

/-- The keys of the nodes on the stack are all different. -/
theorem Evaluation.Guarded.keys_nodup (h : x.Guarded) :
    (x.stack.map fun fr => fr.node.key).Nodup := by
  refine List.pairwise_map.2 (h.ascending.imp_of_mem fun h_fr h_fr' h_older h_key => ?_)
  exact absurd (h.token_eq h_fr h_fr' h_key).symm (Nat.ne_of_lt h_older)

/-- There are no more different keys than there are numbers below all of them. -/
theorem length_le_of_nodup {keys : List Nat} (h : keys.Nodup) {size : Nat}
    (h_size : ∀ key ∈ keys, key < size) : keys.length ≤ size := by
  have h_range : keys ⊆ List.range size := fun key h_key => List.mem_range.2 (h_size key h_key)
  have h_le := (List.Nodup.subperm h h_range).length_le
  rwa [List.length_range] at h_le

/-- **Depth.** No more nodes are on the stack than there are keys. -/
theorem Evaluation.Guarded.length_le (h : x.Guarded) (h_within : x.Within s Member) {size : Nat}
    (h_size : ∀ n, Member n → n.key < size) : x.stack.length ≤ size := by
  -- the keys on the stack are different numbers below the size
  have h_keys := length_le_of_nodup h.keys_nodup fun key h_key => by
    obtain ⟨fr, h_fr, rfl⟩ := List.mem_map.1 h_key
    exact h_size _ (h_within.stack fr h_fr).1
  rwa [List.length_map] at h_keys

/-- **Values step by step, with enough fuel.** If no token is held, a value or failure is come to in
steps, and fuel for one more request than there are nodes does not run out. -/
theorem Node.value_guarded (h_closed : s.Closed Member) {size fuel : Nat}
    (h_size : ∀ n, Member n → n.key < size) (h_fuel : size < fuel) {n : Node} (h_n : Member n)
    {c : FieldCase} {m : Memory} (h : Evaluation.Guarded ⟨[], .ask n c, m⟩) :
    Ends (n.value s fuel c) m (fun v m' => s.Steps ⟨[], .ask n c, m⟩ ⟨[], .answer v, m'⟩)
      fun f m' => s.Steps ⟨[], .ask n c, m⟩ ⟨[], .fail f, m'⟩ := by
  have h_within : Evaluation.Within s Member ⟨[], .ask n c, m⟩ := ⟨nofun, h_n⟩
  refine (Node.value_steps fuel [] n c m).mono (fun _ _ h_steps => h_steps) fun f m' h_bad => ?_
  rcases h_bad with h_steps | ⟨-, y, h_steps, h_length⟩
  · exact h_steps
  · -- the stack would have become longer than it can
    have h_le := (h.steps h_steps).length_le (h_within.steps h_closed h_steps) h_size
    have h_height : y.stack.length = [].length + fuel := h_length
    simp only [List.length_nil] at h_height
    omega

end Within

end Specimen
