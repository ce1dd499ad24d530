import Mathlib.Logic.Relation
import Specimen.Proofs.Node.Settling

/-!
# Evaluations step by step

`Node.value` nests the requests of nodes in one another. Here the same is said step by step, so that
one can speak of each point on the way: an `Evaluation` has a stack of the nodes that are generating
just now, the innermost first, each with the token it holds, and a control that says what comes
next.

* `Scope.Moves` says how the innermost node goes on with generating, and `Scope.Step` what a step of
  an evaluation is: besides such moves, requests put nodes on the stack, and values and failures
  take them off.
* `Scope.Step.unique`: there is only one way to go on, so that an evaluation has one course.
* `Node.value_steps`: values are come to in such steps, and so are failures. Only fuel that runs out
  is no step; then the stack has become as deep as the fuel allowed.
-/

namespace Specimen

namespace Evaluation

/-- How far a node has got with generating. -/
inductive Stage where
  | begun
  /-- The values of some parts are known, and some parts were not asked yet. -/
  | parts (values : List String) (links : List Link)
  /-- The node that the rule names was asked, and the child waits. -/
  | rule (child : Node)
  /-- What the rule says is known, and the child waits. -/
  | ruled (child : Node) (mandatory : Bool)
  /-- The child was asked. -/
  | child

/-- A node that is generating. -/
structure Frame where
  node : Node
  /-- The case of the request. -/
  asked : FieldCase
  /-- The token that the node holds. -/
  token : Nat
  stage : Stage

/-- What comes next. -/
inductive Control where
  /-- A node is asked. -/
  | ask (n : Node) (c : FieldCase)
  /-- The innermost node goes on. -/
  | go
  /-- The innermost node has generated a value. -/
  | generated (v : Option String)
  /-- The innermost node gets an answer. -/
  | answer (v : Option String)
  /-- The innermost node gets a failure, or fails itself. -/
  | fail (f : Failure)

/-- What a value that was generated at once leads to. -/
def Control.ofResult : Except Failure (Option String) → Control
  | .ok v => .generated v
  | .error f => .fail f

/-- The frame when its node has got somewhere else. -/
def Frame.at (fr : Frame) (stage : Stage) : Frame := { fr with stage }

end Evaluation

/-- An evaluation on its way. -/
structure Evaluation where
  /-- The nodes that are generating, the innermost first. -/
  stack : List Evaluation.Frame
  control : Evaluation.Control
  memory : Memory

open Evaluation

/-! ### Requests and answers -/

namespace Node

/-- The case that a node generates for when it is asked for one. -/
def computedCase (n : Node) (c : FieldCase) : FieldCase :=
  if n.kind.isStateless then c else c.computed

/-- What a node answers when it has generated a value. -/
def answerOf (n : Node) (c : FieldCase) (v : Option String) : Option String :=
  if n.kind.isStateless then v else derive c v

/-- A node has neither an override nor a value of the pass to answer with. -/
def MustCompute (n : Node) (m : Memory) : Prop :=
  (m.cell n.key).override = none ∧ (n.kind.isStateless = false → (m.cell n.key).cache = none)

end Node

namespace Memory

/-- The memory when a node that has generated a value has kept it, if it keeps values at all. -/
def kept (m : Memory) (n : Node) (c : FieldCase) (v : Option String) : Memory :=
  if n.kind.isStateless then m else m.update n.key (Cell.keep (derive c v))

/-- Whether a child is generated, and the memory after this was decided. -/
def decided (m : Memory) (key : Nat) (mandatory : Bool) : Bool × Memory :=
  let m := m.update key (Cell.decide mandatory)
  if mandatory then (true, m)
  else
    let ((chosen, choice), draws) := (m.cell key).choice.next m.draws
    (chosen, (m.withDraws draws).update key (Cell.choose choice))

end Memory

/-! ### Steps -/

namespace Scope

variable (s : Scope)

/-- The innermost node goes on, generating a value for a case. -/
inductive Moves (n : Node) (c : FieldCase) :
    Stage → Control → Memory → Stage → Control → Memory → Prop where
  | constant {value m} (h : n.kind = .constant value) :
    Moves n c .begun .go m .begun (.ofResult (constantValue n.key value c m).1)
      (constantValue n.key value c m).2
  | field {f set m} (h : n.kind = .field f set) :
    Moves n c .begun .go m .begun (.ofResult (fieldValue n.key f set c m).1)
      (fieldValue n.key f set c m).2
  | combined {parts separator m} (h : n.kind = .combined parts separator) :
    Moves n c .begun .go m (.parts [] parts) .go m
  | part {values link links n' m} (h : s.target? link = some n') :
    Moves n c (.parts values (link :: links)) .go m (.parts values links) (.ask n' c) m
  | partLost {values id links m} (h : s.nodes.get? id = none) :
    Moves n c (.parts values (.reference id :: links)) .go m (.parts values links)
      (.fail (.fault (.unknownId id))) m
  | partAnswered {values links v m} :
    Moves n c (.parts values links) (.answer v) m (.parts (values ++ v.toList) links) .go m
  | partsDone {parts separator values m} (h : n.kind = .combined parts separator) :
    Moves n c (.parts values []) .go m (.parts values []) (.generated (joined separator values)) m
  | absent {child rule m} (h : n.kind = .optional child rule) (h_case : c = .null) :
    Moves n c .begun .go m .begun (.generated none) m
  | explicit {child rule n' m} (h : n.kind = .optional child rule) (h_null : c ≠ .null)
    (h_normal : c ≠ .normal) (h_target : s.target? child = some n') :
    Moves n c .begun .go m .child (.ask n' c) m
  | ignoring {child rule n' m} (h : n.kind = .optional child rule) (h_case : c = .normal)
    (h_target : s.target? child = some n') (h_ignoring : s.ignoreOptional = true) :
    Moves n c .begun .go m (.ruled n' true) .go m
  | fixed {child always n' m} (h : n.kind = .optional child (.fixed always)) (h_case : c = .normal)
    (h_target : s.target? child = some n') (h_heeding : s.ignoreOptional = false) :
    Moves n c .begun .go m (.ruled n' always) .go m
  | whenPresent {child id n' r m} (h : n.kind = .optional child (.whenPresent id))
    (h_case : c = .normal) (h_target : s.target? child = some n')
    (h_heeding : s.ignoreOptional = false) (h_rule : s.nodes.get? id = some r) :
    Moves n c .begun .go m (.rule n') (.ask r .normal) m
  | ruleLost {child id n' m} (h : n.kind = .optional child (.whenPresent id))
    (h_case : c = .normal) (h_target : s.target? child = some n')
    (h_heeding : s.ignoreOptional = false) (h_rule : s.nodes.get? id = none) :
    Moves n c .begun .go m .begun (.fail (.fault (.unknownId id))) m
  | ruled {n' v m} :
    Moves n c (.rule n') (.answer v) m (.ruled n' ((v.map Text.isPresent).getD false)) .go m
  | decided {n' mandatory m} :
    Moves n c (.ruled n' mandatory) .go m .child
      (.ask n' (if (m.decided n.key mandatory).1 then .normal else .null))
      (m.decided n.key mandatory).2
  | source {child n' m} (h : n.kind = .source child) (h_target : s.target? child = some n') :
    Moves n c .begun .go m .child (.ask n' c) m
  | childLost {id m} (h : (∃ rule, n.kind = .optional (.reference id) rule ∧ c ≠ .null) ∨
      n.kind = .source (.reference id)) (h_lost : s.nodes.get? id = none) :
    Moves n c .begun .go m .begun (.fail (.fault (.unknownId id))) m
  | childAnswered {v m} : Moves n c .child (.answer v) m .child (.generated v) m

/-- One step of an evaluation. -/
inductive Step : Evaluation → Evaluation → Prop where
  | overridden {st n c m values} (h : (m.cell n.key).override = some values) :
    Step ⟨st, .ask n c, m⟩ ⟨st, .answer (values (m.cell n.key).used), m.update n.key Cell.use⟩
  | remembered {st n c m v} (h_override : (m.cell n.key).override = none)
    (h_kind : n.kind.isStateless = false) (h_cache : (m.cell n.key).cache = some v) :
    Step ⟨st, .ask n c, m⟩ ⟨st, .answer (derive c v), m⟩
  | reentrant {st n c m held} (h : n.MustCompute m) (h_token : (m.cell n.key).token = some held)
    (h_held : held < m.tokens) :
    Step ⟨st, .ask n c, m⟩ ⟨st, .fail (.fault (.reentrant n.display)), m.nextToken⟩
  | begin {st n c m} (h : n.MustCompute m)
    (h_token : ∀ held, (m.cell n.key).token = some held → m.tokens ≤ held) :
    Step ⟨st, .ask n c, m⟩
      ⟨⟨n, c, m.tokens, .begun⟩ :: st, .go, m.begun n.key n.identity (n.computedCase c)⟩
  | move {st fr control m stage control' m'}
    (h : s.Moves fr.node (fr.node.computedCase fr.asked) fr.stage control m stage control' m') :
    Step ⟨fr :: st, control, m⟩ ⟨fr.at stage :: st, control', m'⟩
  | finish {st fr v m} : Step ⟨fr :: st, .generated v, m⟩
      ⟨st, .answer (fr.node.answerOf fr.asked v),
        (m.update fr.node.key Cell.release).kept fr.node fr.asked v⟩
  | fail {st fr f m} : Step ⟨fr :: st, .fail f, m⟩
      ⟨st, .fail (f.inNode fr.node.display), m.update fr.node.key Cell.release⟩

/-- Any number of steps. -/
abbrev Steps : Evaluation → Evaluation → Prop := Relation.ReflTransGen s.Step

end Scope

/-! ### There is one way to go on -/

/-- It is the turn of the innermost node, or it gets an answer. -/
def Evaluation.Control.isTurn : Control → Bool
  | .go | .answer _ => true
  | _ => false

section Unique

variable {s : Scope} {n : Node} {c : FieldCase} {stage stage' stage'' : Stage}
  {control control' control'' : Control} {m m' m'' : Memory}

theorem Scope.Moves.isTurn (h : s.Moves n c stage control m stage' control' m') :
    control.isTurn = true := by
  cases h <;> rfl

theorem Scope.Moves.unique (h : s.Moves n c stage control m stage' control' m')
    (h' : s.Moves n c stage control m stage'' control'' m'') :
    stage' = stage'' ∧ control' = control'' ∧ m' = m'' := by
  cases h <;> cases h' <;> simp_all [Scope.target?]
  -- what is left is a child that is lost, which the link of the node names
  next h_link _ h_link' _ =>
    rcases h_link with ⟨⟨rule, h_kind⟩, -⟩ | h_kind <;> simp_all

/-- **Evaluations have one course.** -/
theorem Scope.Step.unique {x y z : Evaluation} (h : s.Step x y) (h' : s.Step x z) : y = z := by
  -- what an evaluation does next is read off the cell of the node that is asked, or off the stack
  cases h with
  | overridden h_override =>
    cases h' with
    | overridden h_override' => cases h_override.symm.trans h_override'; rfl
    | remembered h_none _ _ => cases h_override.symm.trans h_none
    | reentrant h_must _ _ | begin h_must _ => cases h_override.symm.trans h_must.1
    | move h_move => exact absurd h_move.isTurn Bool.false_ne_true
  | remembered h_none h_kind h_cache =>
    cases h' with
    | overridden h_override => cases h_override.symm.trans h_none
    | remembered _ _ h_cache' => cases h_cache.symm.trans h_cache'; rfl
    | reentrant h_must _ _ | begin h_must _ => cases h_cache.symm.trans (h_must.2 h_kind)
    | move h_move => exact absurd h_move.isTurn Bool.false_ne_true
  | reentrant h_must h_token h_held =>
    cases h' with
    | overridden h_override => cases h_override.symm.trans h_must.1
    | remembered _ h_kind h_cache => cases h_cache.symm.trans (h_must.2 h_kind)
    | reentrant _ _ _ => rfl
    | begin _ h_free => exact absurd h_held (Nat.not_lt.2 (h_free _ h_token))
    | move h_move => exact absurd h_move.isTurn Bool.false_ne_true
  | begin h_must h_free =>
    cases h' with
    | overridden h_override => cases h_override.symm.trans h_must.1
    | remembered _ h_kind h_cache => cases h_cache.symm.trans (h_must.2 h_kind)
    | reentrant _ h_token h_held => exact absurd h_held (Nat.not_lt.2 (h_free _ h_token))
    | begin _ _ => rfl
    | move h_move => exact absurd h_move.isTurn Bool.false_ne_true
  | move h_move =>
    cases h' with
    | move h_move' =>
      obtain ⟨rfl, rfl, rfl⟩ := h_move.unique h_move'
      rfl
    | _ => exact absurd h_move.isTurn Bool.false_ne_true
  | finish =>
    cases h' with
    | finish => rfl
    | move h_move => exact absurd h_move.isTurn Bool.false_ne_true
  | fail =>
    cases h' with
    | fail => rfl
    | move h_move => exact absurd h_move.isTurn Bool.false_ne_true

/-- An evaluation that has come to its answer or failure does not go on. -/
theorem Scope.Step.not_of_over {y : Evaluation}
    (h_over : (∃ v, control = .answer v) ∨ ∃ f, control = .fail f) :
    ¬ s.Step ⟨[], control, m⟩ y := by
  rintro ⟨⟩ <;> simp at h_over

/-- Whatever point an evaluation is at, it is on its way to where it ends. -/
theorem Scope.Steps.onTheWay {x y : Evaluation} (h : s.Steps x ⟨[], control, m⟩)
    (h_over : (∃ v, control = .answer v) ∨ ∃ f, control = .fail f) (h_point : s.Steps x y) :
    s.Steps y ⟨[], control, m⟩ := by
  -- two courses from the same point agree as far as the shorter one goes
  have h_unique : Relator.RightUnique s.Step := fun _ _ _ => Scope.Step.unique
  rcases Relation.ReflTransGen.total_of_right_unique h_unique h h_point with h_after | h_before
  · rcases Relation.ReflTransGen.cases_head h_after with h_eq | ⟨z, h_step, -⟩
    · exact h_eq ▸ .refl
    · exact (Scope.Step.not_of_over h_over h_step).elim
  · exact h_before

end Unique

/-! ### Values come about in steps -/

/-- The fuel that there was has run out: steps lead as deep as it allows. -/
def FuelOut {σ : Type} (step : σ → σ → Prop) (height : σ → Nat) (x : σ) (depth : Nat)
    (f : Failure) : Prop :=
  f = .tooDeep ∧ ∃ y, Relation.ReflTransGen step x y ∧ height y = depth

theorem FuelOut.head {σ : Type} {step : σ → σ → Prop} {height : σ → Nat} {x y : σ} {depth : Nat}
    {f : Failure} (h : FuelOut step height y depth f) (h_steps : Relation.ReflTransGen step x y) :
    FuelOut step height x depth f := by
  obtain ⟨h_f, z, h_z, h_height⟩ := h
  exact ⟨h_f, z, h_steps.trans h_z, h_height⟩

section Values

variable {s : Scope} {x y : Evaluation} {depth : Nat} {f : Failure}

/-- Fuel has run out: the stack has become as deep as it allows. -/
abbrev Scope.RunsOut (s : Scope) (x : Evaluation) (depth : Nat) (f : Failure) : Prop :=
  FuelOut s.Step (·.stack.length) x depth f

/-- The node of a frame fails, or fuel has run out. -/
def Scope.Breaks (s : Scope) (x : Evaluation) (fr : Frame) (st : List Frame) (depth : Nat)
    (f : Failure) (m : Memory) : Prop :=
  (∃ stage, s.Steps x ⟨fr.at stage :: st, .fail f, m⟩) ∨ s.RunsOut x depth f

theorem Scope.Breaks.head {fr : Frame} {st : List Frame} {m : Memory}
    (h : s.Breaks y fr st depth f m) (h_steps : s.Steps x y) : s.Breaks x fr st depth f m := by
  rcases h with ⟨stage, h_fail⟩ | h_out
  · exact .inl ⟨stage, h_steps.trans h_fail⟩
  · exact .inr (h_out.head h_steps)

/-- Requests are answered in steps, with an amount of fuel. -/
def Scope.AsksStep (s : Scope) (fuel : Nat) (ask : Node → FieldCase → Eval (Option String)) :
    Prop :=
  ∀ st n c m, Ends (ask n c) m
    (fun v m' => s.Steps ⟨st, .ask n c, m⟩ ⟨st, .answer v, m'⟩)
    fun f m' => s.Steps ⟨st, .ask n c, m⟩ ⟨st, .fail f, m'⟩ ∨
      s.RunsOut ⟨st, .ask n c, m⟩ (st.length + fuel) f

/-- The node of a frame generates a value in steps. -/
def Scope.GeneratesSteps (s : Scope) (fuel : Nat) (n : Node) (c : FieldCase)
    (generate : Eval (Option String)) : Prop :=
  ∀ (fr : Frame) st m, fr.node = n → n.computedCase fr.asked = c → Ends generate m
    (fun v m' => ∃ stage,
      s.Steps ⟨fr.at .begun :: st, .go, m⟩ ⟨fr.at stage :: st, .generated v, m'⟩)
    (s.Breaks ⟨fr.at .begun :: st, .go, m⟩ fr st (st.length + 1 + fuel))

variable {fuel : Nat} {ask : Node → FieldCase → Eval (Option String)}

/-- A request of the node of a frame. -/
theorem Scope.AsksStep.inFrame (h : s.AsksStep fuel ask) (fr : Frame) (stage : Stage)
    (st : List Frame) (n : Node) (c : FieldCase) (m : Memory) : Ends (ask n c) m
      (fun v m' => s.Steps ⟨fr.at stage :: st, .ask n c, m⟩ ⟨fr.at stage :: st, .answer v, m'⟩)
      (s.Breaks ⟨fr.at stage :: st, .ask n c, m⟩ fr st (st.length + 1 + fuel)) := by
  refine (h (fr.at stage :: st) n c m).mono (fun _ _ h_answer => h_answer) fun f m' h_bad => ?_
  rcases h_bad with h_fail | h_out
  · exact .inl ⟨stage, h_fail⟩
  · exact .inr h_out

/-- The node of a frame makes a move. -/
theorem Scope.Steps.move {fr : Frame} {st : List Frame} {stage stage' : Stage}
    {control control' : Control} {m m' : Memory}
    (h : s.Moves fr.node (fr.node.computedCase fr.asked) stage control m stage' control' m') :
    s.Steps ⟨fr.at stage :: st, control, m⟩ ⟨fr.at stage' :: st, control', m'⟩ :=
  .single (@Scope.Step.move s st (fr.at stage) control m stage' control' m' h)

/-- What is computed without asking leads to its result in one move. -/
theorem Scope.generatesSteps_atOnce {n : Node} {c : FieldCase} {e : Eval (Option String)}
    (h : ∀ m, s.Moves n c .begun .go m .begun (.ofResult (e m).1) (e m).2) :
    s.GeneratesSteps fuel n c e := by
  rintro fr st m rfl rfl
  have h_step : s.Steps ⟨fr.at .begun :: st, .go, m⟩ _ := Scope.Steps.move (h m)
  refine ends_iff.2 ⟨fun v m' h_ok => ⟨.begun, ?_⟩, fun f m' h_error => .inl ⟨.begun, ?_⟩⟩
  · rw [h_ok] at h_step
    exact h_step
  · rw [h_error] at h_step
    exact h_step

theorem Scope.partValues_steps (h_ask : s.AsksStep fuel ask) (fr : Frame) (st : List Frame)
    (links : List Link) (known : List String) (m : Memory) :
    Ends (s.partValues ask (fr.node.computedCase fr.asked) links) m
      (fun values m' => s.Steps ⟨fr.at (.parts known links) :: st, .go, m⟩
        ⟨fr.at (.parts (known ++ values) []) :: st, .go, m'⟩)
      (s.Breaks ⟨fr.at (.parts known links) :: st, .go, m⟩ fr st (st.length + 1 + fuel)) := by
  -- by induction on the links that are left, whatever values are known already
  induction links generalizing known m with
  | nil =>
    rw [Scope.partValues, ends_pure, List.append_nil]
  | cons link links ih =>
    rw [Scope.partValues, ends_bind, Scope.ends_resolve]
    refine ⟨fun n h_target => ?_, fun id h_link h_none => .inl ⟨.parts known links, ?_⟩⟩
    · rw [ends_bind]
      have h_first : s.Steps ⟨fr.at (.parts known (link :: links)) :: st, .go, m⟩
          ⟨fr.at (.parts known links) :: st, .ask n (fr.node.computedCase fr.asked), m⟩ :=
        Scope.Steps.move (.part h_target)
      refine (h_ask.inFrame fr (.parts known links) st n _ m).mono (fun v m' h_answer => ?_)
        fun f m' h_bad => h_bad.head h_first
      have h_steps := (h_first.trans h_answer).trans (Scope.Steps.move .partAnswered)
      rw [ends_bind]
      refine (ih (known ++ v.toList) m').mono (fun values m'' h_rest => ?_)
        fun f m'' h_bad => h_bad.head h_steps
      rw [ends_pure, ← List.append_assoc]
      exact h_steps.trans h_rest
    · subst h_link
      exact Scope.Steps.move (.partLost h_none)

/-- The rest of a decision, when it is known what the rule says. -/
theorem Memory.ends_decided {key : Nat} {mandatory : Bool} {m : Memory}
    {good : Bool → Memory → Prop} {bad : Failure → Memory → Prop} :
    Ends (do
      Eval.update key fun cell => { cell with decision := some mandatory }
      if mandatory then return true
      else
        let (chosen, choice) ← Eval.draw (← Eval.cell key).choice.next
        Eval.update key fun cell => { cell with choice := choice }
        return chosen) m good bad ↔
      good (m.decided key mandatory).1 (m.decided key mandatory).2 := by
  rw [ends_bind, ends_update]
  cases mandatory with
  | true => exact Iff.rfl
  | false =>
    simp only [Bool.false_eq_true, if_false, ends_bind, ends_cell, ends_draw]
    exact Iff.rfl

theorem Scope.decide_steps (h_ask : s.AsksStep fuel ask) (fr : Frame) (st : List Frame)
    {child : Link} {rule : Config.Mandatory} {n' : Node}
    (h_kind : fr.node.kind = .optional child rule)
    (h_case : fr.node.computedCase fr.asked = .normal) (h_target : s.target? child = some n')
    (m : Memory) : Ends (s.decide ask fr.node.key rule) m
      (fun present m' => s.Steps ⟨fr.at .begun :: st, .go, m⟩
        ⟨fr.at .child :: st, .ask n' (if present then .normal else .null), m'⟩)
      (s.Breaks ⟨fr.at .begun :: st, .go, m⟩ fr st (st.length + 1 + fuel)) := by
  -- first the rule is found out, and then the decision is made
  have h_rule : Ends (s.isMandatory ask rule) m
      (fun mandatory m' => s.Steps ⟨fr.at .begun :: st, .go, m⟩
        ⟨fr.at (.ruled n' mandatory) :: st, .go, m'⟩)
      (s.Breaks ⟨fr.at .begun :: st, .go, m⟩ fr st (st.length + 1 + fuel)) := by
    unfold Scope.isMandatory
    split
    · next h_ignoring => exact Scope.Steps.move (.ignoring h_kind h_case h_target h_ignoring)
    · next h =>
      have h_heeding : s.ignoreOptional = false := by simpa using h
      cases rule with
      | fixed always => exact Scope.Steps.move (.fixed h_kind h_case h_target h_heeding)
      | whenPresent id =>
        simp only [ends_bind, Scope.ends_find]
        refine ⟨fun r h_get => ?_, fun h_none => .inl ⟨.begun, ?_⟩⟩
        · have h_first : s.Steps ⟨fr.at .begun :: st, .go, m⟩
              ⟨fr.at (.rule n') :: st, .ask r .normal, m⟩ :=
            Scope.Steps.move (.whenPresent h_kind h_case h_target h_heeding h_get)
          refine (h_ask.inFrame fr (.rule n') st r .normal m).mono (fun v m' h_answer => ?_)
            fun f m' h_bad => h_bad.head h_first
          exact (h_first.trans h_answer).trans (Scope.Steps.move .ruled)
        · exact Scope.Steps.move (.ruleLost h_kind h_case h_target h_heeding h_none)
  rw [Scope.decide, ends_bind]
  refine h_rule.mono (fun mandatory m' h_steps => ?_) fun _ _ h_bad => h_bad
  exact Memory.ends_decided.2 (h_steps.trans (Scope.Steps.move .decided))

/-- The answer of the child is what the node generates. -/
theorem Scope.AsksStep.child (h_ask : s.AsksStep fuel ask) {fr : Frame} {st : List Frame}
    {n' : Node} {c : FieldCase} {m : Memory}
    (h_steps : s.Steps x ⟨fr.at .child :: st, .ask n' c, m⟩) : Ends (ask n' c) m
      (fun v m' => ∃ stage, s.Steps x ⟨fr.at stage :: st, .generated v, m'⟩)
      (s.Breaks x fr st (st.length + 1 + fuel)) := by
  refine (h_ask.inFrame fr .child st n' c m).mono (fun v m' h_answer => ⟨.child, ?_⟩)
    fun f m' h_bad => h_bad.head h_steps
  exact (h_steps.trans h_answer).trans (Scope.Steps.move .childAnswered)

theorem Scope.optionalValue_steps (h_ask : s.AsksStep fuel ask) {n : Node} {child : Link}
    {rule : Config.Mandatory} (h_kind : n.kind = .optional child rule) (c : FieldCase) :
    s.GeneratesSteps fuel n c (s.optionalValue ask n.key child rule c) := by
  rintro fr st m rfl h_case
  unfold Scope.optionalValue
  split
  · next h_null => exact ⟨.begun, Scope.Steps.move (.absent h_kind (h_case.trans h_null))⟩
  · next h_null =>
    rw [ends_bind, Scope.ends_resolve]
    refine ⟨fun n' h_target => ?_, ?_⟩
    · by_cases h_normal : c = .normal
      · subst h_normal
        have h_explicit : ¬ FieldCase.normal.isExplicit = true := by decide
        rw [if_neg h_explicit, ends_bind]
        refine (s.decide_steps h_ask fr st h_kind h_case h_target m).mono
          (fun present m' h_steps => ?_) fun _ _ h_bad => h_bad
        exact h_ask.child h_steps
      -- a case that was asked for goes to the child as it is, without a decision
      · have h_explicit : c.isExplicit = true := by simpa [FieldCase.isExplicit] using h_normal
        rw [if_pos h_explicit, ends_bind, ends_pure]
        subst h_case
        exact h_ask.child (Scope.Steps.move (.explicit h_kind h_null h_normal h_target))
    · rintro id rfl h_none
      exact .inl ⟨.begun,
        Scope.Steps.move (.childLost (.inl ⟨rule, h_kind, h_case ▸ h_null⟩) h_none)⟩

/-! ### Ways to answer -/

theorem Node.mustCompute_iff_stateless {n : Node} {m : Memory}
    (h_kind : n.kind.isStateless = true) : n.MustCompute m ↔ (m.cell n.key).override = none := by
  simp [Node.MustCompute, h_kind]

/-- A node that has to compute takes a token, or fails if it holds an older one. -/
theorem Scope.GeneratesSteps.guarded {n : Node} {c : FieldCase} {generate : Eval (Option String)}
    (h : s.GeneratesSteps fuel n (n.computedCase c) generate) {m : Memory}
    (h_must : n.MustCompute m)
    (st : List Frame) : Ends (guarded n.key n.identity (n.computedCase c) generate) m
      (fun v m' => s.Steps ⟨st, .ask n c, m⟩ ⟨st, .answer (n.answerOf c v), m'.kept n c v⟩)
      fun f m' => s.Steps ⟨st, .ask n c, m⟩ ⟨st, .fail f, m'⟩ ∨
        s.RunsOut ⟨st, .ask n c, m⟩ (st.length + 1 + fuel) f := by
  -- the node comes on the stack unless it holds a token that is older than the next one
  by_cases h_token : ∀ held, (m.cell n.key).token = some held → m.tokens ≤ held
  · have h_begin : s.Steps ⟨st, .ask n c, m⟩ _ := .single (.begin h_must h_token)
    rw [ends_guarded h_token]
    refine (h ⟨n, c, m.tokens, .begun⟩ st _ rfl rfl).mono (fun v m' h_steps => ?_)
      fun f m' h_bad => ?_
    · obtain ⟨stage, h_steps⟩ := h_steps
      exact (h_begin.trans h_steps).tail .finish
    · rcases h_bad.head h_begin with ⟨stage, h_fail⟩ | h_out
      · exact .inl (h_fail.tail .fail)
      · obtain ⟨rfl, h_deep⟩ := h_out
        exact .inr ⟨rfl, h_deep⟩
  · obtain ⟨held, h_held⟩ := Classical.not_forall.1 h_token
    obtain ⟨h_some, h_lt⟩ := Classical.not_imp.1 h_held
    refine (ends_guarded_held h_some (Nat.not_le.1 h_lt)).2 (.inl (.single ?_))
    exact .reentrant h_must h_some (Nat.not_le.1 h_lt)

theorem Scope.GeneratesSteps.stateless {n : Node} (h_kind : n.kind.isStateless = true)
    {c : FieldCase}
    {generate : FieldCase → Eval (Option String)}
    (h : s.GeneratesSteps fuel n c (generate c)) (m : Memory) (st : List Frame) :
    Ends (stateless n.key n.identity c generate) m
      (fun v m' => s.Steps ⟨st, .ask n c, m⟩ ⟨st, .answer v, m'⟩)
      fun f m' => s.Steps ⟨st, .ask n c, m⟩ ⟨st, .fail f, m'⟩ ∨
        s.RunsOut ⟨st, .ask n c, m⟩ (st.length + 1 + fuel) f := by
  cases h_override : (m.cell n.key).override with
  | some values =>
    exact (ends_stateless_overridden h_override).2 (.single (.overridden h_override))
  | none =>
    have h_case : n.computedCase c = c := by rw [Node.computedCase, if_pos h_kind]
    have h_must := (Node.mustCompute_iff_stateless h_kind).2 h_override
    rw [Specimen.ends_stateless h_override]
    -- nothing is kept, so the answer is what was generated
    have h_guarded := Scope.GeneratesSteps.guarded (c := c) (h_case.symm ▸ h) h_must st
    rw [h_case] at h_guarded
    refine h_guarded.mono (fun v m' h_steps => ?_) fun _ _ h_bad => h_bad
    rwa [Node.answerOf, if_pos h_kind, Memory.kept, if_pos h_kind] at h_steps

theorem Scope.GeneratesSteps.cached {n : Node} (h_kind : n.kind.isStateless = false) {c : FieldCase}
    {generate : FieldCase → Eval (Option String)}
    (h : s.GeneratesSteps fuel n c.computed (generate c.computed)) (m : Memory) (st : List Frame) :
    Ends (cached n.key n.identity c generate) m
      (fun v m' => s.Steps ⟨st, .ask n c, m⟩ ⟨st, .answer v, m'⟩)
      fun f m' => s.Steps ⟨st, .ask n c, m⟩ ⟨st, .fail f, m'⟩ ∨
        s.RunsOut ⟨st, .ask n c, m⟩ (st.length + 1 + fuel) f := by
  have h_not : ¬ n.kind.isStateless = true := by rw [h_kind]; exact Bool.false_ne_true
  cases h_override : (m.cell n.key).override with
  | some values => exact (ends_cached_overridden h_override).2 (.single (.overridden h_override))
  | none =>
    cases h_cache : (m.cell n.key).cache with
    | some v =>
      refine (ends_cached_remembered h_override h_cache).2 (.single ?_)
      exact .remembered h_override h_kind h_cache
    | none =>
      have h_case : n.computedCase c = c.computed := by rw [Node.computedCase, if_neg h_not]
      rw [Specimen.ends_cached h_override h_cache]
      -- what was generated is kept first, and the answer is made of it
      have h_guarded := Scope.GeneratesSteps.guarded (c := c) (h_case.symm ▸ h)
        ⟨h_override, fun _ => h_cache⟩ st
      rw [h_case] at h_guarded
      refine h_guarded.mono (fun v m' h_steps => ?_) fun _ _ h_bad => h_bad
      rwa [Node.answerOf, if_neg h_not, Memory.kept, if_neg h_not] at h_steps

/-- **Values step by step.** A value is come to in steps, with the stack that there was before, and
so is a failure. Only if the fuel runs out there is more to do, and the stack has become as deep as
the fuel allows. -/
theorem Node.value_steps : ∀ fuel, s.AsksStep fuel (Node.value s fuel)
  | 0, _, _, _, _ => .inr ⟨rfl, _, .refl, rfl⟩
  | fuel + 1, st, n, c, m => by
    have h_ask : s.AsksStep fuel (Node.value s fuel) := Node.value_steps fuel
    have h_depth : st.length + (fuel + 1) = st.length + 1 + fuel := by omega
    rw [Node.value, h_depth]
    unfold Node.answer
    split
    · next value h_kind =>
      -- constants and fields answer at once
      exact Scope.GeneratesSteps.stateless (by rw [h_kind]; rfl)
        (Scope.generatesSteps_atOnce fun _ => .constant h_kind) m st
    · next f set h_kind =>
      exact Scope.GeneratesSteps.cached (by rw [h_kind]; rfl)
        (Scope.generatesSteps_atOnce fun _ => .field h_kind) m st
    · next parts separator h_kind =>
      refine Scope.GeneratesSteps.cached (by rw [h_kind]; rfl) ?_ m st
      rintro fr st m rfl h_case
      rw [ends_bind, ← h_case]
      -- the parts are asked one after the other, and the texts are joined in one step more
      have h_first : s.Steps ⟨fr.at .begun :: st, .go, m⟩ ⟨fr.at (.parts [] parts) :: st, .go, m⟩ :=
        Scope.Steps.move (.combined h_kind)
      refine (s.partValues_steps h_ask fr st parts [] m).mono (fun values m' h_steps => ?_)
        fun f m' h_bad => h_bad.head h_first
      exact ⟨_, (h_first.trans h_steps).trans (Scope.Steps.move (.partsDone h_kind))⟩
    · next child rule h_kind =>
      exact Scope.GeneratesSteps.cached (by rw [h_kind]; rfl)
        (s.optionalValue_steps h_ask h_kind c.computed) m st
    · next child h_kind =>
      refine Scope.GeneratesSteps.stateless (by rw [h_kind]; rfl) ?_ m st
      rintro fr st m rfl h_case
      rw [ends_bind, Scope.ends_resolve]
      refine ⟨fun n' h_target => ?_, ?_⟩
      · exact h_ask.child (Scope.Steps.move (h_case ▸ .source h_kind h_target))
      · rintro id rfl h_none
        exact .inl ⟨.begun, Scope.Steps.move (.childLost (.inr h_kind) h_none)⟩

end Values

end Specimen
