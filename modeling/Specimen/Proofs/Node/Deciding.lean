import Specimen.Proofs.FairChoice
import Specimen.Proofs.Node.Stability
import Specimen.Proofs.Node.Looking

/-!
# One decision in a pass

An optional node whose rule never asks for its child is told by its choice whether to generate it.
If no link leads to the node, all requests of a pass reach it with the case of the pass, so that it
asks its child once, for what the case and the choice say (`FairChoice.Turn`).

An evaluation of the pass is watched step by step. As long as the node is undecided
(`Evaluation.Undecided`) it has asked for nothing and its choice is as before; then it turns, and
once it is decided (`Evaluation.Decided`) it does not ask again, because it is on the stack or keeps
a value. `Evaluation.Undecided.steps` puts the steps together.
-/

namespace Specimen

open Evaluation

/-- What a pass for a case makes of a choice: what the child is asked for, if it is, and the choice
afterwards. -/
inductive FairChoice.Turn (before : FairChoice) :
    FieldCase → Option FieldCase → FairChoice → Prop where
  /-- The node is null, and the child is not asked. -/
  | absent : Turn before .null none before
  /-- The child is asked for what the node is asked for, and nothing is decided. -/
  | explicit {case : FieldCase} (h_normal : case ≠ .normal) (h_null : case ≠ .null) :
    Turn before case (some case.computed) before
  /-- The choice decides whether the child is asked for a value or for null. -/
  | chosen {side : Bool} {after : FairChoice} {draws draws' : Draws}
    (h : before.next draws = ((side, after), draws')) :
    Turn before .normal (some (if side then .normal else .null)) after

/-- An optional node that no link leads to, among the nodes of a set. Its rule says that the child
need not be generated, and is heeded. -/
structure Scope.Lonely (s : Scope) (Member : Node → Prop) (k : Node) (child : Link) : Prop where
  closed : s.Closed Member
  apart : ∀ n n', Member n → Member n' → n.key = n'.key → n = n'
  heeding : s.ignoreOptional = false
  member : Member k
  kind : k.kind = .optional child (.fixed false)
  unlinked : ∀ n, Member n → ∀ link ∈ n.kind.links, s.target? link ≠ some k

/-- At this point of an evaluation, a node asks its child for a case. -/
def Evaluation.AsksChild (s : Scope) (k : Node) (child : Link) (c : FieldCase) (x : Evaluation) :
    Prop :=
  ∃ fr st n m, x = ⟨fr :: st, .ask n c, m⟩ ∧ fr.node = k ∧ s.target? child = some n

/-- At some points of evaluations, the child is asked for a case, or it is not asked at all. -/
def Scope.AskedAt (s : Scope) (k : Node) (child : Link) (Point : Evaluation → Prop)
    (asked : Option FieldCase) : Prop :=
  ∀ c, (∃ x, Point x ∧ x.AsksChild s k child c) ↔ asked = some c

/-- The evaluation fails. -/
def Evaluation.Fails (x : Evaluation) : Prop := ∃ f, x.control = .fail f

/-! ### Cells of other nodes -/

section Others

variable {s : Scope} {n : Node} {c : FieldCase} {stage stage' : Stage} {control control' : Control}
  {m m' : Memory} {key : Nat}

/-- A move changes only the cell of its own node. -/
theorem Scope.Moves.cell_of_ne (h : s.Moves n c stage control m stage' control' m')
    (h_ne : key ≠ n.key) : m'.cell key = m.cell key := by
  cases h with
  | @constant value _ _ =>
    cases c with
    | null | blank => rfl
    | normal | min | avg | max => exact Memory.cell_update_of_ne _ _ h_ne
  | @field f set _ _ =>
    have h_ends : Ends (fieldValue n.key f set c) m (fun _ m' => m'.cell key = m.cell key)
        fun _ m' => m'.cell key = m.cell key := by
      rw [Specimen.ends_fieldValue (Prod.eta _).symm]
      have h_served : (m.served n.key f (f.caseFor (m.cell n.key).served c)).cell key =
          m.cell key := by rw [Memory.cell_served, if_neg fun h_and => h_ne h_and.1]
      exact ⟨fun _ _ => h_served, fun _ _ => h_served⟩
    exact h_ends.state
  | @decided _ mandatory _ =>
    cases mandatory with
    | true => exact Memory.cell_update_of_ne _ _ h_ne
    | false =>
      exact (Memory.cell_update_of_ne _ _ h_ne).trans (Memory.cell_update_of_ne _ _ h_ne)
  | _ => rfl

/-- If the rule leaves it open, the choice decides. -/
theorem Memory.decided_false (m : Memory) (key : Nat) :
    ∃ draws, (m.cell key).choice.next m.draws =
      (((m.decided key false).1, ((m.decided key false).2.cell key).choice), draws) := by
  rcases h_next : (m.cell key).choice.next m.draws with ⟨⟨side, after⟩, draws⟩
  have h_decided : m.decided key false =
      (side, ((m.update key (Cell.decide false)).withDraws draws).update key
        (Cell.choose after)) := by
    have h_choice : ((m.update key (Cell.decide false)).cell key).choice.next m.draws =
        ((side, after), draws) := by rw [Memory.cell_update_self]; exact h_next
    have h_draws : (m.update key (Cell.decide false)).draws = m.draws := rfl
    simp only [Memory.decided, if_neg Bool.false_ne_true, h_draws, h_choice]
  refine ⟨draws, ?_⟩
  rw [h_decided, Memory.cell_update_self]
  rfl

end Others

/-! ### Requests of a pass -/

/-- A request in a pass for a case: it is without a case only if the pass is, and one node is asked
for the case of the pass only. -/
def Node.HeardIn (n k : Node) (case c : FieldCase) : Prop :=
  (c = .normal → case = .normal) ∧ (n = k → c = case)

/-- An optional node that hears its rule was asked without a case, and its child is not the node. -/
def Evaluation.Frame.Waits (k : Node) (fr : Frame) : Prop :=
  match fr.stage with
  | .rule child | .ruled child _ => fr.asked = .normal ∧ child ≠ k
  | _ => True

/-- All requests on the way are such as there are in a pass for a case. -/
structure Evaluation.Proper (k : Node) (case : FieldCase) (x : Evaluation) : Prop where
  frames : ∀ fr ∈ x.stack, fr.node.HeardIn k case fr.asked ∧ fr.Waits k
  asked : ∀ n c, x.control = .ask n c → n.HeardIn k case c

theorem Node.computedCase_eq_normal_iff {n : Node} {c : FieldCase} :
    n.computedCase c = .normal ↔ c = .normal := by
  rw [Node.computedCase]
  split
  · exact Iff.rfl
  · cases c <;> simp [FieldCase.computed, FieldCase.standard]

/-- Another node than the one that is asked for the case of the pass only. -/
theorem Node.HeardIn.of_ne {n k : Node} {case c : FieldCase} (h_ne : n ≠ k)
    (h_normal : c = .normal → case = .normal) : n.HeardIn k case c :=
  ⟨h_normal, fun h_eq => absurd h_eq h_ne⟩

section Proper

variable {s : Scope} {Member : Node → Prop} {k : Node} {child : Link} {case : FieldCase}
  {x y : Evaluation}

/-- What was generated at once leads to no request. -/
theorem Evaluation.Control.ofResult_ne_ask (result : Except Failure (Option String)) (n : Node)
    (c : FieldCase) : Control.ofResult result ≠ .ask n c := by
  cases result <;> exact nofun

/-- **One move** asks properly if its node was asked so. -/
theorem Scope.Lonely.heardIn_move (h : s.Lonely Member k child) {fr : Frame} {stage : Stage}
    {control control' : Control} {m m' : Memory} (h_member : Member fr.node)
    (h_sound : fr.Sound s) (h_heard : fr.node.HeardIn k case fr.asked) (h_waits : fr.Waits k)
    (h_move : s.Moves fr.node (fr.node.computedCase fr.asked) fr.stage control m stage control'
      m') :
    (fr.at stage).Waits k ∧ ∀ n c, control' = .ask n c → n.HeardIn k case c := by
  obtain ⟨n, asked, token, old⟩ := fr
  have h_unlinked := h.unlinked n h_member
  have h_ne : ∀ {link n'}, link ∈ n.kind.links → s.target? link = some n' → n' ≠ k := by
    rintro link n' h_link h_target rfl
    exact h_unlinked link h_link h_target
  have h_child : ∀ {child rule}, n.kind = .optional child rule → child ∈ n.kind.links :=
    fun h_kind => h_kind ▸ List.mem_singleton_self _
  -- what is passed on is without a case only if the request was
  have h_passed : n.computedCase asked = .normal → case = .normal :=
    fun h_c => h_heard.1 (Node.computedCase_eq_normal_iff.1 h_c)
  cases h_move with
  | constant _ | field _ =>
    exact ⟨trivial, fun n' c h_ask => absurd h_ask (Control.ofResult_ne_ask _ n' c)⟩
  | combined _ | partLost _ | partAnswered | partsDone _ | absent _ _ | ruleLost _ _ _ _ _
  | childLost _ _ | childAnswered => exact ⟨trivial, nofun⟩
  | part h_target =>
    refine ⟨trivial, fun n' c h_ask => ?_⟩
    cases h_ask
    exact .of_ne (h_ne (h_sound _ List.mem_cons_self) h_target) h_passed
  | explicit h_kind _ _ h_target =>
    refine ⟨trivial, fun n' c h_ask => ?_⟩
    cases h_ask
    exact .of_ne (h_ne (h_child h_kind) h_target) h_passed
  | ignoring h_kind h_case h_target _ | fixed h_kind h_case h_target _ =>
    exact ⟨⟨Node.computedCase_eq_normal_iff.1 h_case, h_ne (h_child h_kind) h_target⟩, nofun⟩
  | whenPresent h_kind h_case h_target _ _ =>
    have h_asked : asked = .normal := Node.computedCase_eq_normal_iff.1 h_case
    refine ⟨⟨h_asked, h_ne (h_child h_kind) h_target⟩, fun r c h_ask => ?_⟩
    cases h_ask
    exact ⟨fun _ => h_passed h_case, fun _ => (h_passed h_case).symm⟩
  | ruled => exact ⟨h_waits, nofun⟩
  | decided =>
    refine ⟨trivial, fun n' c h_ask => ?_⟩
    cases h_ask
    exact .of_ne h_waits.2 fun _ => h_heard.1 h_waits.1
  | source h_kind h_target =>
    refine ⟨trivial, fun n' c h_ask => ?_⟩
    cases h_ask
    exact .of_ne (h_ne (h_kind ▸ List.mem_singleton_self _) h_target) h_passed

/-- **One step.** -/
theorem Evaluation.Proper.step (h : s.Lonely Member k child) (h_proper : x.Proper k case)
    (h_within : x.Within s Member) (h_step : s.Step x y) : y.Proper k case := by
  cases h_step with
  | overridden _ | remembered _ _ _ | reentrant _ _ _ => exact ⟨h_proper.frames, nofun⟩
  | begin _ _ =>
    exact ⟨List.forall_mem_cons.2 ⟨⟨h_proper.asked _ _ rfl, trivial⟩, h_proper.frames⟩, nofun⟩
  | move h_move =>
    obtain ⟨⟨h_heard, h_waits⟩, h_rest⟩ := List.forall_mem_cons.1 h_proper.frames
    obtain ⟨h_member, h_sound⟩ := h_within.stack _ List.mem_cons_self
    obtain ⟨h_waits', h_asked⟩ := h.heardIn_move h_member h_sound h_heard h_waits h_move
    exact ⟨List.forall_mem_cons.2 ⟨⟨h_heard, h_waits'⟩, h_rest⟩, h_asked⟩
  | finish | fail => exact ⟨(List.forall_mem_cons.1 h_proper.frames).2, nofun⟩

end Proper

/-! ### Before and after the decision -/

namespace Evaluation

/-- The node has not asked its child yet, nor come to be null, and its choice is as before. -/
structure Undecided (s : Scope) (k : Node) (child : Link) (before : FairChoice) (x : Evaluation) :
    Prop where
  choice : (x.memory.cell k.key).choice = before
  cache : (x.memory.cell k.key).cache = none
  on : ∀ fr ∈ x.stack, fr.node = k → (∃ st, x = ⟨fr :: st, .go, x.memory⟩) ∧
    (fr.stage = .begun ∨ ∃ n, fr.stage = .ruled n false ∧ s.target? child = some n)

/-- The node has asked its child, or come to be null without, and has not finished or keeps what
came of it. -/
structure Decided (k : Node) (asked : Option FieldCase) (after : FairChoice) (x : Evaluation) :
    Prop where
  choice : (x.memory.cell k.key).choice = after
  done : (x.memory.cell k.key).cache ≠ none ∨ ∃ fr ∈ x.stack, fr.node = k
  on : ∀ fr ∈ x.stack, fr.node = k →
    fr.stage = .child ∨ ∃ st v, x = ⟨fr :: st, .generated v, x.memory⟩
  ask : ∀ fr st n c m, x = ⟨fr :: st, .ask n c, m⟩ → fr.node = k → asked = some c

/-- What is known of every point in a pass. -/
structure Regular (s : Scope) (Member : Node → Prop) (k : Node) (case : FieldCase)
    (x : Evaluation) : Prop where
  guarded : x.Guarded
  fresh : x.Fresh
  within : x.Within s Member
  proper : x.Proper k case
  free : ∀ key, (x.memory.cell key).override = none

end Evaluation

section Phases

variable {s : Scope} {Member : Node → Prop} {k : Node} {child : Link} {case : FieldCase}
  {before after : FairChoice} {asked : Option FieldCase} {x y : Evaluation}

theorem Evaluation.Regular.step (h : s.Lonely Member k child) (h_x : x.Regular s Member k case)
    (h_step : s.Step x y) : y.Regular s Member k case := by
  obtain ⟨h_fresh, h_persists⟩ := h_x.fresh.step h_x.guarded h_step
  exact ⟨h_x.guarded.step h_step, h_fresh, h_x.within.step h.closed h_step,
    h_x.proper.step h h_x.within h_step, fun key => (h_persists.override key).trans (h_x.free key)⟩

theorem Evaluation.Regular.steps (h : s.Lonely Member k child) (h_x : x.Regular s Member k case)
    (h_steps : s.Steps x y) : y.Regular s Member k case := by
  induction h_steps with
  | refl => exact h_x
  | tail _ h_step ih => exact ih.step h h_step

/-- Nodes that are not the node have another key. -/
theorem Scope.Lonely.key_ne (h : s.Lonely Member k child) {n : Node} (h_n : Member n)
    (h_ne : n ≠ k) : k.key ≠ n.key :=
  fun h_key => h_ne (h.apart k n h.member h_n h_key).symm

/-- **The move that decides.** The node begins by looking at its rule, which leaves the decision to
the choice; or else it turns, or fails. -/
theorem Scope.Lonely.move (h : s.Lonely Member k child) {stage stage' : Stage}
    {control' : Control} {m m' : Memory} (h_stage : stage = .begun ∨
      ∃ n, stage = .ruled n false ∧ s.target? child = some n ∧ case = .normal)
    (h_move : s.Moves k (k.computedCase case) stage .go m stage' control' m') :
    (control' = .go ∧ m' = m ∧ ∃ n, stage' = .ruled n false ∧ s.target? child = some n) ∨
    (∃ asked after, (m.cell k.key).choice.Turn case asked after ∧
      (m'.cell k.key).choice = after ∧
      ((∃ v, control' = .generated v ∧ asked = none) ∨
        stage' = .child ∧ ∃ n c, control' = .ask n c ∧ asked = some c ∧ s.target? child = some n)) ∨
    ∃ f, control' = .fail f := by
  have h_kind := h.kind
  have h_computed : k.computedCase case = case.computed := by
    rw [Node.computedCase, h_kind]
    rfl
  rw [h_computed] at h_move
  rcases h_stage with rfl | ⟨n, rfl, h_target, rfl⟩
  · cases h_move with
    | constant h' | field h' | combined h' | whenPresent h' | ruleLost h' | source h' =>
      rw [h_kind] at h'
      cases h'
    | absent _ h_case =>
      -- only a request for null is computed for null
      obtain rfl : case = .null := by cases case <;> first | rfl | cases h_case
      exact .inr (.inl ⟨none, _, .absent, rfl, .inl ⟨none, rfl, rfl⟩⟩)
    | @explicit _ _ n' _ h' h_null h_normal h_target =>
      obtain ⟨rfl, -⟩ := NodeKind.optional.inj (h_kind.symm.trans h')
      have h_case : case ≠ .normal ∧ case ≠ .null := by
        constructor
        · rintro rfl
          exact h_normal rfl
        · rintro rfl
          exact h_null rfl
      exact .inr (.inl ⟨_, _, .explicit h_case.1 h_case.2, rfl,
        .inr ⟨rfl, n', _, rfl, rfl, h_target⟩⟩)
    | ignoring _ _ _ h_ignoring =>
      rw [h.heeding] at h_ignoring
      cases h_ignoring
    | @fixed _ _ n' _ h' _ h_target _ =>
      obtain ⟨rfl, h_rule⟩ := NodeKind.optional.inj (h_kind.symm.trans h')
      obtain rfl := Config.Mandatory.fixed.inj h_rule
      exact .inl ⟨rfl, rfl, n', rfl, h_target⟩
    | childLost _ _ => exact .inr (.inr ⟨_, rfl⟩)
  · cases h_move with
    | decided =>
      obtain ⟨draws, h_next⟩ := m.decided_false k.key
      exact .inr (.inl ⟨_, _, .chosen h_next, rfl, .inr ⟨rfl, n, _, rfl, rfl, h_target⟩⟩)

/-- A point at which another node is asked, or goes on, is none of the node. -/
theorem Evaluation.Undecided.off (h : x.Undecided s k child before) {st : List Frame}
    {control : Control} {m : Memory} (h_x : x = ⟨st, control, m⟩)
    (h_other : control = .go → ∀ fr rest, st = fr :: rest → fr.node ≠ k) :
    ∀ fr ∈ st, fr.node ≠ k := by
  subst h_x
  rintro fr h_fr h_node
  obtain ⟨⟨rest, h_eq⟩, -⟩ := h.on fr h_fr h_node
  have h_stack : st = fr :: rest := congrArg Evaluation.stack h_eq
  exact h_other (congrArg Evaluation.control h_eq) fr rest h_stack h_node

/-- Where the node is not on the stack it is undecided as long as its cell stays the same. -/
theorem Evaluation.Undecided.of_cell (h : x.Undecided s k child before)
    (h_cell : (y.memory.cell k.key).choice = (x.memory.cell k.key).choice ∧
      (y.memory.cell k.key).cache = (x.memory.cell k.key).cache)
    (h_off : ∀ fr ∈ y.stack, fr.node ≠ k) : y.Undecided s k child before :=
  ⟨h_cell.1.trans h.choice, h_cell.2.trans h.cache, fun fr h_fr h_node =>
    absurd h_node (h_off fr h_fr)⟩

/-- No node is on the stack twice. -/
theorem Evaluation.Guarded.off_rest {fr : Frame} {st : List Frame} {control : Control} {m : Memory}
    (h : Guarded ⟨fr :: st, control, m⟩) : ∀ fr' ∈ st, fr'.node ≠ fr.node :=
  fun fr' h_fr' h_node => (List.nodup_cons.1 h.keys_nodup).1
    (List.mem_map.2 ⟨fr', h_fr', congrArg Node.key h_node⟩)

/-- **One move of an undecided node.** -/
theorem Evaluation.Undecided.move {fr : Frame} {st : List Frame} {stage : Stage}
    {control control' : Control} {m m' : Memory} (h : s.Lonely Member fr.node child)
    (h_x : Regular s Member fr.node case ⟨fr :: st, control, m⟩)
    (h_un : Undecided s fr.node child before ⟨fr :: st, control, m⟩)
    (h_move : s.Moves fr.node (fr.node.computedCase fr.asked) fr.stage control m stage control'
      m') : Undecided s fr.node child before ⟨fr.at stage :: st, control', m'⟩ ∨
      (∃ asked after, before.Turn case asked after ∧
        Decided fr.node asked after ⟨fr.at stage :: st, control', m'⟩ ∧
        ∀ c, asked = some c → AsksChild s fr.node child c ⟨fr.at stage :: st, control', m'⟩) ∨
      Fails ⟨fr.at stage :: st, control', m'⟩ := by
  have h_rest := h_x.guarded.off_rest
  obtain ⟨⟨h_normal, h_asked⟩, h_waits⟩ := h_x.proper.frames fr List.mem_cons_self
  obtain ⟨⟨rest, h_eq⟩, h_stage⟩ := h_un.on fr List.mem_cons_self rfl
  obtain rfl : control = .go := congrArg Evaluation.control h_eq
  -- the node was asked for the case of the pass
  rw [h_asked rfl] at h_move
  have h_ready : fr.stage = .begun ∨
      ∃ n, fr.stage = .ruled n false ∧ s.target? child = some n ∧ case = .normal := by
    refine h_stage.imp_right fun ⟨n, h_ruled, h_target⟩ => ⟨n, h_ruled, h_target, ?_⟩
    rw [Frame.Waits, h_ruled] at h_waits
    exact (h_asked rfl).symm.trans h_waits.1
  rcases h.move h_ready h_move with ⟨rfl, rfl, n, rfl, h_target⟩ |
    ⟨asked, after, h_turn, h_choice, h_next⟩ | ⟨f, rfl⟩
  · refine .inl ⟨h_un.choice, h_un.cache, List.forall_mem_cons.2 ⟨fun _ => ?_, ?_⟩⟩
    · exact ⟨⟨st, rfl⟩, .inr ⟨n, rfl, h_target⟩⟩
    · exact fun fr' h_fr' h_node => absurd h_node (h_rest fr' h_fr')
  · refine .inr (.inl ⟨asked, after, ?_, ⟨h_choice, .inr ⟨_, List.mem_cons_self, rfl⟩, ?_, ?_⟩, ?_⟩)
    · exact (h_un.choice : (m.cell fr.node.key).choice = before) ▸ h_turn
    · refine List.forall_mem_cons.2 ⟨fun _ => ?_, fun fr' h_fr' h_node =>
        absurd h_node (h_rest fr' h_fr')⟩
      rcases h_next with ⟨v, rfl, -⟩ | ⟨rfl, -⟩
      · exact .inr ⟨st, v, rfl⟩
      · exact .inl rfl
    · rintro fr' st' n c k' h_y -
      rcases h_next with ⟨v, rfl, -⟩ | ⟨-, n', c', rfl, h_some, -⟩
      · cases congrArg Evaluation.control h_y
      · cases congrArg Evaluation.control h_y
        exact h_some
    · rintro c rfl
      rcases h_next with ⟨v, -, h_none⟩ | ⟨-, n, c', rfl, h_some, h_target⟩
      · cases h_none
      · cases h_some
        exact ⟨_, st, n, m', rfl, rfl, h_target⟩
  · exact .inr (.inr ⟨f, rfl⟩)

/-- **One step of an undecided node**: it stays undecided, or turns, or the evaluation fails. -/
theorem Evaluation.Undecided.step (h : s.Lonely Member k child)
    (h_x : x.Regular s Member k case) (h_un : x.Undecided s k child before)
    (h_step : s.Step x y) : y.Undecided s k child before ∨
      (∃ asked after, before.Turn case asked after ∧ y.Decided k asked after ∧
        ∀ c, asked = some c → y.AsksChild s k child c) ∨ y.Fails := by
  cases h_step with
  | @overridden st n c m values h_override =>
    rw [h_x.free n.key] at h_override
    cases h_override
  | remembered _ _ _ => exact .inl (h_un.of_cell ⟨rfl, rfl⟩ (h_un.off rfl nofun))
  | reentrant _ _ _ | fail => exact .inr (.inr ⟨_, rfl⟩)
  | @begin st n c m _ _ =>
    have h_off := h_un.off rfl nofun
    by_cases h_n : n = k
    · subst h_n
      -- the node begins to generate, with nothing but a token
      refine .inl ⟨?_, ?_, List.forall_mem_cons.2 ⟨fun _ => ⟨⟨st, rfl⟩, .inl rfl⟩, ?_⟩⟩
      · rw [Memory.cell_begun_self]
        exact h_un.choice
      · rw [Memory.cell_begun_self]
        exact h_un.cache
      · exact fun fr h_fr h_node => absurd h_node (h_off fr h_fr)
    · have h_cell := Memory.cell_begun_of_ne m n.identity (n.computedCase c)
        (h.key_ne h_x.within.control h_n)
      exact .inl (h_un.of_cell ⟨congrArg Cell.choice h_cell, congrArg Cell.cache h_cell⟩
        (List.forall_mem_cons.2 ⟨h_n, h_off⟩))
  | @finish st fr v m =>
    have h_off := h_un.off rfl nofun
    obtain ⟨h_top, h_rest⟩ := List.forall_mem_cons.1 h_off
    have h_cell := Memory.cell_kept_of_ne (m := m) (c := fr.asked) (v := v)
      (h.key_ne (h_x.within.stack fr List.mem_cons_self).1 h_top)
    exact .inl (h_un.of_cell ⟨congrArg Cell.choice h_cell, congrArg Cell.cache h_cell⟩ h_rest)
  | @move st fr control m stage control' m' h_move =>
    by_cases h_node : fr.node = k
    · subst h_node
      exact h_un.move h h_x h_move
    · have h_off := h_un.off rfl (fun _ fr' _ h_eq => (List.cons.inj h_eq).1 ▸ h_node)
      have h_cell := h_move.cell_of_ne (h.key_ne (h_x.within.stack fr List.mem_cons_self).1 h_node)
      exact .inl (h_un.of_cell ⟨congrArg Cell.choice h_cell, congrArg Cell.cache h_cell⟩
        (List.forall_mem_cons.2 (List.forall_mem_cons.1 h_off)))

/-- Where other nodes go on, the node is decided as it was. -/
theorem Evaluation.Decided.of_cell (h : x.Decided k asked after)
    (h_cell : y.memory.cell k.key = x.memory.cell k.key)
    (h_stack : ∀ fr, fr.node = k → (fr ∈ y.stack ↔ fr ∈ x.stack))
    (h_top : ∀ fr st v, x = ⟨fr :: st, .generated v, x.memory⟩ → fr.node ≠ k)
    (h_ask : ∀ fr st n c m, y = ⟨fr :: st, .ask n c, m⟩ → fr.node ≠ k) :
    y.Decided k asked after where
  choice := (congrArg Cell.choice h_cell).trans h.choice
  done := by
    rw [h_cell]
    exact h.done.imp_right fun ⟨fr, h_fr, h_node⟩ => ⟨fr, (h_stack fr h_node).2 h_fr, h_node⟩
  on fr h_fr h_node := by
    refine (h.on fr ((h_stack fr h_node).1 h_fr) h_node).imp_right fun ⟨st, v, h_eq⟩ => ?_
    exact absurd h_node (h_top fr st v h_eq)
  ask fr st n c m h_y h_node := absurd h_node (h_ask fr st n c m h_y)

/-- A node that is decided has no reason to compute. -/
theorem Evaluation.Decided.not_mustCompute (h : x.Decided k asked after) (h_guarded : x.Guarded)
    (h_kind : k.kind.isStateless = false) (h_must : k.MustCompute x.memory)
    (h_token : ∀ held, (x.memory.cell k.key).token = some held → x.memory.tokens ≤ held) :
    False := by
  rcases h.done with h_cache | ⟨fr, h_fr, rfl⟩
  · exact h_cache (h_must.2 h_kind)
  · -- on the stack it holds a token
    have h_held := (h_guarded.token_iff fr.node.key fr.token).2 ⟨fr, h_fr, rfl, rfl⟩
    exact absurd (h_guarded.below fr h_fr) (Nat.not_lt.2 (h_token fr.token h_held))

/-- The node finishes, and keeps its value. -/
theorem Evaluation.Decided.finish {fr : Frame} {st : List Frame} {v : Option String} {m : Memory}
    (h : Decided fr.node asked after ⟨fr :: st, .generated v, m⟩)
    (h_guarded : Guarded ⟨fr :: st, .generated v, m⟩) (h_kind : fr.node.kind.isStateless = false)
    (answer : Option String) : Decided fr.node asked after
      ⟨st, .answer answer, (m.update fr.node.key Cell.release).kept fr.node fr.asked v⟩ := by
  refine ⟨?_, .inl ?_, fun fr' h_fr' h_node => absurd h_node (h_guarded.off_rest fr' h_fr'),
    fun _ _ _ _ _ h_eq => ?_⟩
  · rw [Memory.kept, h_kind, if_neg Bool.false_ne_true, Memory.cell_update_self,
      Memory.cell_update_self]
    exact h.choice
  · rw [Memory.cell_kept_self.2, h_kind, if_neg Bool.false_ne_true]
    exact Option.some_ne_none _
  · cases congrArg Evaluation.control h_eq

/-- The node gets the answer of its child. -/
theorem Evaluation.Decided.move {fr : Frame} {st : List Frame} {c : FieldCase} {stage : Stage}
    {control control' : Control} {m m' : Memory}
    (h : Decided fr.node asked after ⟨fr :: st, control, m⟩)
    (h_guarded : Guarded ⟨fr :: st, control, m⟩)
    (h_move : s.Moves fr.node c fr.stage control m stage control' m') :
    Decided fr.node asked after ⟨fr.at stage :: st, control', m'⟩ := by
  have h_rest := h_guarded.off_rest
  rcases h.on fr List.mem_cons_self rfl with h_child | ⟨st', v, h_eq⟩
  · rw [h_child] at h_move
    cases h_move with
    | @childAnswered v _ =>
      refine ⟨h.choice, .inr ⟨_, List.mem_cons_self, rfl⟩,
        List.forall_mem_cons.2 ⟨fun _ => .inl rfl, ?_⟩, fun _ _ _ _ _ h_eq => ?_⟩
      · exact fun fr' h_fr' h_node => absurd h_node (h_rest fr' h_fr')
      · cases congrArg Evaluation.control h_eq
  · -- what has been generated is not moved on
    have h_turn := h_move.isTurn
    rw [show control = .generated v from congrArg Evaluation.control h_eq] at h_turn
    cases h_turn

/-- **One step of a decided node**: it stays as decided as it is, or the evaluation fails. -/
theorem Evaluation.Decided.step (h : s.Lonely Member k child) (h_x : x.Regular s Member k case)
    (h_decided : x.Decided k asked after) (h_step : s.Step x y) :
    y.Decided k asked after ∨ y.Fails := by
  have h_kind : k.kind.isStateless = false := by rw [h.kind]; rfl
  cases h_step with
  | @overridden st n c m values h_override =>
    rw [h_x.free n.key] at h_override
    cases h_override
  | remembered _ _ _ =>
    refine .inl (h_decided.of_cell rfl (fun _ _ => Iff.rfl) (fun fr st v h_eq => ?_) nofun)
    cases congrArg Evaluation.control h_eq
  | reentrant _ _ _ | fail => exact .inr ⟨_, rfl⟩
  | @begin st n c m h_must h_token =>
    have h_n : n ≠ k := by
      rintro rfl
      exact h_decided.not_mustCompute h_x.guarded h_kind h_must h_token
    refine .inl (h_decided.of_cell (Memory.cell_begun_of_ne m n.identity (n.computedCase c)
      (h.key_ne h_x.within.control h_n)) (fun fr h_node => ?_) (fun fr st v h_eq => ?_) nofun)
    · refine List.mem_cons.trans (or_iff_right ?_)
      rintro rfl
      exact h_n h_node
    · cases congrArg Evaluation.control h_eq
  | @finish st fr v m =>
    by_cases h_node : fr.node = k
    · subst h_node
      exact .inl (h_decided.finish h_x.guarded h_kind _)
    · have h_member := (h_x.within.stack fr List.mem_cons_self).1
      refine .inl (h_decided.of_cell (Memory.cell_kept_of_ne (h.key_ne h_member h_node))
        (fun fr' h_node' => ?_) (fun fr' st v h_eq => ?_) nofun)
      · refine (List.mem_cons.trans (or_iff_right ?_)).symm
        rintro rfl
        exact h_node h_node'
      · exact (List.cons.inj (congrArg Evaluation.stack h_eq)).1 ▸ h_node
  | @move st fr control m stage control' m' h_move =>
    by_cases h_node : fr.node = k
    · subst h_node
      exact .inl (h_decided.move h_x.guarded h_move)
    · have h_member := (h_x.within.stack fr List.mem_cons_self).1
      refine .inl (h_decided.of_cell (h_move.cell_of_ne (h.key_ne h_member h_node))
        (fun fr' h_node' => ?_) (fun fr' st v h_eq => ?_) (fun fr' st n c m h_eq => ?_))
      · -- only the frame of the other node is different
        rw [List.mem_cons, List.mem_cons, or_iff_right, or_iff_right]
        · rintro rfl
          exact h_node h_node'
        · rintro rfl
          exact h_node h_node'
      · exact (List.cons.inj (congrArg Evaluation.stack h_eq)).1 ▸ h_node
      · exact (List.cons.inj (congrArg Evaluation.stack h_eq)).1 ▸ h_node

/-! ### All steps -/

/-- A failure is passed on to the end. -/
theorem Evaluation.Fails.steps (h : x.Fails) (h_steps : s.Steps x y) : y.Fails := by
  induction h_steps with
  | refl => exact h
  | tail _ h_step ih =>
    obtain ⟨f, h_f⟩ := ih
    cases h_step with
    | @move st fr control m stage control' m' h_move =>
      have h_turn := h_move.isTurn
      rw [show control = .fail f from h_f] at h_turn
      cases h_turn
    | fail => exact ⟨_, rfl⟩
    | _ => cases h_f

/-- **A decided node** stays so to the end. -/
theorem Evaluation.Decided.steps (h : s.Lonely Member k child) (h_x : x.Regular s Member k case)
    (h_decided : x.Decided k asked after) (h_steps : s.Steps x y) :
    y.Decided k asked after ∨ y.Fails := by
  induction h_steps with
  | refl => exact .inl h_decided
  | tail h_before h_step ih =>
    rcases ih with h_y | h_fails
    · exact h_y.step h (h_x.steps h h_before) h_step
    · exact .inr (h_fails.steps (.single h_step))

/-- What a decided node asks its child for is what it was decided to. -/
theorem Evaluation.Decided.asked_eq (h : x.Decided k asked after) {c : FieldCase}
    (h_asks : x.AsksChild s k child c) : asked = some c := by
  obtain ⟨fr, st, n, m, rfl, h_node, -⟩ := h_asks
  exact h.ask fr st n c m rfl h_node

/-- What a decided node asks its child for later on was decided before. -/
theorem Evaluation.Decided.asked_eq_of_steps (h : s.Lonely Member k child)
    (h_x : x.Regular s Member k case) (h_decided : x.Decided k asked after) (h_steps : s.Steps x y)
    {c : FieldCase} (h_asks : y.AsksChild s k child c) : asked = some c := by
  rcases h_decided.steps h h_x h_steps with h_y | ⟨f, h_fails⟩
  · exact h_y.asked_eq h_asks
  · obtain ⟨fr, st, n, m, rfl, -⟩ := h_asks
    cases h_fails

/-- An undecided node asks its child for nothing. -/
theorem Evaluation.Undecided.not_asksChild (h : x.Undecided s k child before) (c : FieldCase) :
    ¬ x.AsksChild s k child c := by
  rintro ⟨fr, st, n, m, rfl, h_node, -⟩
  obtain ⟨⟨_, h_eq⟩, -⟩ := h.on fr List.mem_cons_self h_node
  cases congrArg Evaluation.control h_eq

/-- **One evaluation of a pass.** If it comes to an answer, an undecided node is undecided still and
has asked for nothing on the way; or it has turned, and asked for just what it was decided to. -/
theorem Evaluation.Undecided.steps (h : s.Lonely Member k child)
    (h_x : x.Regular s Member k case) (h_un : x.Undecided s k child before) {v : Option String}
    {m : Memory} (h_steps : s.Steps x ⟨[], .answer v, m⟩) :
    (Undecided s k child before ⟨[], .answer v, m⟩ ∧ s.AskedAt k child (s.Steps x) none) ∨
    ∃ asked after, before.Turn case asked after ∧ Decided k asked after ⟨[], .answer v, m⟩ ∧
      s.AskedAt k child (s.Steps x) asked := by
  induction h_steps using Relation.ReflTransGen.head_induction_on with
  | refl =>
    refine .inl ⟨h_un, fun c => ⟨?_, nofun⟩⟩
    rintro ⟨z, h_z, h_asks⟩
    rcases Relation.ReflTransGen.cases_head h_z with rfl | ⟨y, h_step, -⟩
    · exact absurd h_asks (h_un.not_asksChild c)
    · exact (Scope.Step.not_of_over (.inl ⟨v, rfl⟩) h_step).elim
  | @head x y h_step h_rest ih =>
    have h_y := h_x.step h h_step
    -- nothing is asked at the first point
    have h_points : ∀ {asked}, s.AskedAt k child (s.Steps y) asked →
        s.AskedAt k child (s.Steps x) asked := by
      intro asked h_asked c
      rw [← h_asked c]
      constructor
      · rintro ⟨z, h_z, h_asks⟩
        rcases Relation.ReflTransGen.cases_head h_z with rfl | ⟨y', h_step', h_z'⟩
        · exact absurd h_asks (h_un.not_asksChild c)
        · obtain rfl := h_step.unique h_step'
          exact ⟨z, h_z', h_asks⟩
      · rintro ⟨z, h_z, h_asks⟩
        exact ⟨z, .head h_step h_z, h_asks⟩
    have h_answers : ¬ Fails ⟨[], .answer v, m⟩ := nofun
    rcases h_un.step h h_x h_step with h_un' | ⟨asked, after, h_turn, h_decided, h_asks⟩ | h_fails
    · rcases ih h_y h_un' with ⟨h_end, h_asked⟩ | ⟨asked, after, h_turn, h_end, h_asked⟩
      · exact .inl ⟨h_end, h_points h_asked⟩
      · exact .inr ⟨asked, after, h_turn, h_end, h_points h_asked⟩
    · have h_end := (h_decided.steps h h_y h_rest).resolve_right h_answers
      refine .inr ⟨asked, after, h_turn, h_end, h_points fun c => ⟨?_, fun h_c => ?_⟩⟩
      · -- whatever is asked later was decided here
        rintro ⟨z, h_z, h_asks⟩
        exact h_decided.asked_eq_of_steps h h_y h_z h_asks
      · exact ⟨y, .refl, h_asks c h_c⟩
    · exact absurd (h_fails.steps h_rest) h_answers

end Phases

/-- Whether a case is left is for the choice to say. -/
theorem Scope.Lonely.hasNextCase_eq {s : Scope} {Member : Node → Prop} {k : Node} {child : Link}
    (h : s.Lonely Member k child) {m : Memory} (h_mark : (m.cell k.key).isVisited = false)
    (fuel : Nat) : (k.hasNextCase s (fuel + 1) m).1 = .ok (m.cell k.key).choice.hasNext := by
  have h_choice : ((m.update k.key Cell.visit).cell k.key).choice = (m.cell k.key).choice := by
    rw [Memory.cell_update_self]
    rfl
  have h_ends : Ends (k.hasNextCase s (fuel + 1)) m
      (fun more _ => more = (m.cell k.key).choice.hasNext) fun _ _ => False := by
    simp only [Node.hasNextCase, h.kind]
    rw [ends_traverse h_mark, ends_bind, ends_cell]
    -- the rule is known, and it leaves the answer to the choice
    simp only [Scope.knownMandatory, h.heeding]
    exact congrArg FairChoice.hasNext h_choice
  obtain ⟨more, h_eq, rfl⟩ := h_ends.exists_ok
  rw [h_eq]

end Specimen
