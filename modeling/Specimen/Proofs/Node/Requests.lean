import Specimen.Proofs.Node.Course

/-!
# Requests in the course of a pass

A request comes in the course of a pass (`Scope.Comes`) and is met, and then the pass is still
underway (`Scope.Goes`). Here are the steps that all ways to generate a value have in common: the
node makes requests itself, of its parts and for its rule (`Underway.parts`, `Underway.rule`), and
when these have gone well and its value is generated, its own request has gone well
(`Comes.complete`).
-/

namespace Specimen

/-- A request for a case comes from nowhere in particular, or from an optional node that decided
so. -/
inductive Course.Grants (past : Course) : Option Node → FieldCase → Prop where
  | free : Grants past none .normal
  | chosen {o present} (h : .decided o present ∈ past) :
    Grants past (some o) (if present then .normal else .null)

namespace Course.Grants

variable {past past' : Course} {origin : Option Node} {c : FieldCase}

theorem mono (h : past.Grants origin c) (h_sub : past ⊆ past') : past'.Grants origin c := by
  cases h with
  | free => exact .free
  | chosen h => exact .chosen (h_sub h)

/-- What is asked for null is so because an optional node decided that its child is not present. -/
theorem normal_or_null (h : past.Grants origin c) :
    c = .normal ∨ c = .null ∧ ∃ o, origin = some o ∧ .decided o false ∈ past := by
  cases h with
  | free => exact .inl rfl
  | @chosen o present h =>
    cases present with
    | true => exact .inl rfl
    | false => exact .inr ⟨rfl, o, rfl, h⟩

end Course.Grants

/-- A request to a node for a case comes in the course of a pass, while nodes of a rank and above
may be busy. -/
structure Scope.Comes (s : Scope) (Member : Node → Prop) (rank : Nat → Nat) (before : Memory)
    (r : Nat) (n : Node) (c : FieldCase) (origin : Option Node) (past : Course) (seen : Roster)
    (m : Memory) : Prop where
  member : Member n
  below : rank n.key < r
  underway : s.Underway Member rank before r past seen m
  granted : past.Grants origin c
  nulls : ∀ o, origin = some o → s.Nulls Member o n

/-- The request was met, and the pass is still underway. -/
def Scope.Goes (s : Scope) (Member : Node → Prop) (rank : Nat → Nat) (before : Memory)
    (fuel r : Nat) (n : Node) (c : FieldCase) (origin : Option Node) (past : Course)
    (seen : Roster) (m m' : Memory) : Prop :=
  ∃ past', Course.Met past' n c ∧
    s.Underway Member rank before r past' (s.visit Member fuel n origin seen) m' ∧
      Memory.Busy rank (rank n.key + 1) past m past' m'

/-- Every request that comes in the course of a pass goes well. -/
def Scope.GoesWell (s : Scope) (Member : Node → Prop) (rank : Nat → Nat) (before : Memory)
    (fuel : Nat) : Asking := fun n c m _ m' => ∀ r origin past seen,
  s.Comes Member rank before r n c origin past seen m →
    s.Goes Member rank before fuel r n c origin past seen m m'

/-- A node that has generated gives back its token, and keeps a value if it is one of those that
do. -/
structure Memory.Concludes (n : Node) (m m' : Memory) : Prop where
  others : ∀ key, key ≠ n.key → m'.cell key = m.cell key
  override : (m'.cell n.key).override = (m.cell n.key).override
  served : (m'.cell n.key).served = (m.cell n.key).served
  choice : (m'.cell n.key).choice = (m.cell n.key).choice
  decision : (m'.cell n.key).decision = (m.cell n.key).decision
  kept : n.kind.isStateless = false → (m'.cell n.key).cache ≠ none

/-- When a node has concluded, nodes up to its rank were busy. -/
theorem Memory.BusyWithin.conclude {rank : Nat → Nat} {n : Node} {past past' : Course}
    {m m₁ m' : Memory} (h : BusyWithin rank n past m past' m₁) (h_concludes : Concludes n m₁ m')
    {e : Happening} (h_node : e.node = n) :
    Busy rank (rank n.key + 1) past m (e :: past') m' where
  sub _ h_mem := List.mem_cons_of_mem _ (h.sub h_mem)
  cells key h_le := by
    have h_ne : key ≠ n.key := by
      rintro rfl
      exact absurd h_le (Nat.not_succ_le_self _)
    rw [h_concludes.others key h_ne, h.cells key (Nat.le_of_succ_le h_le) h_ne]
  happenings e' h_e' := by
    rcases List.mem_cons.1 h_e' with rfl | h_mem
    · rw [h_node]
      exact .inr (Nat.lt_succ_self _)
    · rcases h.happenings e' h_mem with h_old | h_lt | h_n'
      · exact .inl h_old
      · exact .inr (Nat.lt_succ_of_lt h_lt)
      · rw [h_n']
        exact .inr (Nat.lt_succ_self _)

section Requests

variable {s : Scope} {Member : Node → Prop} {rank : Nat → Nat} {before : Memory} {fuel r : Nat}
  {n : Node} {c : FieldCase} {origin : Option Node} {past : Course} {seen : Roster}
  {m m₁ m' : Memory} {v : Option String}

namespace Scope

/-! ### What a node asks -/

/-- The requests to what links lead to go well, one after the other. -/
theorem Underway.parts {links : List Link} {values : List String}
    (h_parts : s.Parts (s.GoesWell Member rank before fuel) c links m values m')
    (h_links : ∀ link ∈ links, ∀ n, s.target? link = some n →
      Member n ∧ rank n.key < r ∧ ∀ o, origin = some o → s.Nulls Member o n)
    (h : s.Underway Member rank before r past seen m) (h_granted : past.Grants origin c) :
    ∃ past', s.Underway Member rank before r past'
        (s.visitLinks (s.visit Member fuel) origin links seen) m' ∧
      Memory.Busy rank r past m past' m' ∧
        ∀ link ∈ links, ∀ n, s.target? link = some n → Course.Met past' n c := by
  induction h_parts generalizing past seen with
  | nil => exact ⟨past, h, .refl _ _ _ _, fun _ h_link => absurd h_link List.not_mem_nil⟩
  | @cons link links n m v m₁ values m₂ h_target h_ask _ ih =>
    obtain ⟨h_n, h_rank, h_nulls⟩ := h_links link List.mem_cons_self n h_target
    -- the first request goes well, and what it was granted for still holds for the others
    obtain ⟨past₁, h_met, h₁, h_busy₁⟩ :=
      h_ask r origin past seen ⟨h_n, h_rank, h, h_granted, h_nulls⟩
    obtain ⟨past₂, h₂, h_busy₂, h_rest⟩ :=
      ih (fun l h_l => h_links l (List.mem_cons_of_mem _ h_l)) h₁ (h_granted.mono h_busy₁.sub)
    refine ⟨past₂, ?_, (h_busy₁.mono h_rank).trans h_busy₂, fun l h_l n' h_n' => ?_⟩
    · rw [visitLinks, h_target]
      exact h₂
    · rcases List.mem_cons.1 h_l with rfl | h_l
      · obtain rfl : n = n' := Option.some.inj (h_target.symm.trans h_n')
        exact h_met.mono h_busy₂.sub
      · exact h_rest l h_l n' h_n'

/-- The request of a rule goes well. -/
theorem Underway.rule {rule : Config.Mandatory} {mandatory : Bool}
    (h_rules : s.Rules (s.GoesWell Member rank before fuel) rule m mandatory m')
    (h_rule : ∀ id, rule = .whenPresent id → ∀ n, s.nodes.get? id = some n →
      Member n ∧ rank n.key < r)
    (h : s.Underway Member rank before r past seen m) :
    ∃ past', s.Underway Member rank before r past'
        (s.visitRule (s.visit Member fuel) rule seen) m' ∧
      Memory.Busy rank r past m past' m' := by
  cases h_rules with
  | ignoring h_ignore =>
    refine ⟨past, ?_, .refl _ _ _ _⟩
    unfold visitRule
    rw [if_pos h_ignore]
    exact h
  | fixed h_heed =>
    refine ⟨past, ?_, .refl _ _ _ _⟩
    rw [visitRule, h_heed]
    exact h
  | @whenPresent id n _ _ _ h_heed h_target h_ask =>
    obtain ⟨h_n, h_rank⟩ := h_rule id rfl n h_target
    obtain ⟨past', -, h', h_busy⟩ := h_ask r none past seen ⟨h_n, h_rank, h, .free, by simp⟩
    refine ⟨past', ?_, h_busy.mono h_rank⟩
    simp only [visitRule, h_heed, h_target]
    exact h'

/-- A decision is made after the rule was heard, and changes the cell of the node only. -/
theorem decided_of_decides {R : Asking} {key : Nat} {rule : Config.Mandatory} {present : Bool}
    (h : s.Decides R key rule m present m') : ∃ m₁ mandatory, s.Rules R rule m mandatory m₁ ∧
      (∀ other, other ≠ key → m'.cell other = m₁.cell other) ∧
      (m'.cell key).override = (m₁.cell key).override ∧
      (m'.cell key).cache = (m₁.cell key).cache ∧
      s.Decided rule (m₁.cell key) (m'.cell key) present ∧
      (present = false → s.maySkip rule = true) ∧
      (m'.cell key).token = (m₁.cell key).token ∧ m'.tokens = m₁.tokens := by
  cases h with
  | @mandatory m₁ h_rule =>
    -- the choice is left alone
    refine ⟨m₁, true, h_rule, fun _ h_ne => Memory.cell_update_of_ne _ _ h_ne, ?_, ?_, ?_, by simp,
      ?_, rfl⟩
    · rw [Memory.cell_update_self]; rfl
    · rw [Memory.cell_update_self]; rfl
    · rw [Memory.cell_update_self]
      refine .mandatory ?_ rfl rfl
      generalize h_true : true = mandatory at h_rule
      cases h_rule with
      | ignoring h_ignore => exact .inl h_ignore
      | fixed => exact .inr (by simp [← h_true])
      | whenPresent => exact .inr (by simp)
    · rw [Memory.cell_update_self]; rfl
  | @chosen m₁ _ choice draws h_rule h_next =>
    -- the choice goes on
    have h_cell : (((m₁.update key (Cell.decide false)).withDraws draws).update key
        (Cell.choose choice)).cell key = ((m₁.cell key).decide false).choose choice := by
      rw [Memory.cell_update_self, Memory.cell_withDraws, Memory.cell_update_self]
    refine ⟨m₁, false, h_rule, fun other h_ne => ?_, ?_, ?_, ?_, fun _ => ?_, ?_, rfl⟩
    · rw [Memory.cell_update_of_ne _ _ h_ne, Memory.cell_withDraws,
        Memory.cell_update_of_ne _ _ h_ne]
    · rw [h_cell]; rfl
    · rw [h_cell]; rfl
    · rw [h_cell]
      exact .chosen h_next rfl
    · generalize h_false : false = mandatory at h_rule
      cases h_rule with
      | ignoring => cases h_false
      | fixed h_heed => simp [maySkip, h_heed, ← h_false]
      | whenPresent h_heed => simp [maySkip, h_heed]
    · rw [h_cell]; rfl

/-- What the links of a member lead to are members of lower rank. -/
theorem Ordered.of_link (h : s.Ordered Member rank) (h_n : Member n) {link : Link}
    (h_link : link ∈ n.kind.links) {n' : Node} (h_target : s.target? link = some n') :
    Member n' ∧ rank n'.key < rank n.key := by
  obtain ⟨k, h_k, h_member, h_lt⟩ := h.target n link h_n h_link
  obtain rfl := Option.some.inj (h_k.symm.trans h_target)
  exact ⟨h_member, h_lt⟩

theorem Ordered.of_rule (h : s.Ordered Member rank) (h_n : Member n) {child : Link} {id : String}
    (h_kind : n.kind = .optional child (.whenPresent id)) {n' : Node}
    (h_get : s.nodes.get? id = some n') : Member n' ∧ rank n'.key < rank n.key := by
  obtain ⟨k, h_k, h_member, h_lt⟩ := h.rule n child id h_n h_kind
  obtain rfl := Option.some.inj (h_k.symm.trans h_get)
  exact ⟨h_member, h_lt⟩

/-! ### The end of a computation -/

/-- A node that has computed is noted behind those that it asked, if it is steady and keeps its
value. -/
theorem Comes.mem_visit_iff {past₀ : Course} {seen₀ : Roster} {m₀ : Memory}
    (h₀ : s.Comes Member rank before r n c origin past₀ seen₀ m₀)
    (h_new : n.kind.isStateless = false → (m₀.cell n.key).cache = none)
    (h_seen : seen = s.visitInside (s.visit Member fuel) n origin seen₀) (k : Node)
    (o : Option Node) : (k, o) ∈ s.visit Member (fuel + 1) n origin seen₀ ↔ (k, o) ∈ seen ∨
      (k = n ∧ o = origin ∧ s.Steady Member n ∧ n.kind.isStateless = false) := by
  by_cases h_steady : s.Steady Member n
  · cases h_kind : n.kind.isStateless with
    | true => simp [visit_stateless h_steady h_kind, h_seen]
    | false =>
      -- it was not noted before, as it kept no value
      have h_unseen : ∀ o, (n, o) ∉ seen₀ := fun o h_o =>
        (h₀.underway.listed n h₀.member h_steady h_kind).2 ⟨o, h_o⟩ (h_new h_kind)
      rw [visit_cached h_steady h_kind h_unseen, ← h_seen, List.mem_cons, Prod.mk.injEq]
      simp only [h_steady, and_true]
      exact or_comm
  · -- nothing below it is steady either
    rw [visit_of_not_steady h_steady, h_seen,
      visitInside_of_not_steady fun n' => not_steady_of_calls h_steady]
    simp [h_steady]

/-- When a node has computed, the other nodes follow their course as before. -/
theorem Comes.follows_other {past₀ : Course} {seen₀ : Roster} {m₀ : Memory}
    (h₀ : s.Comes Member rank before r n c origin past₀ seen₀ m₀)
    (h : s.Underway Member rank before (rank n.key) past seen m)
    (h_busy : Memory.BusyWithin rank n past₀ m₀ past m) (h_concludes : Memory.Concludes n m m')
    {e : Happening} (h_node : e.node = n) {k : Node} (h_k : Member k) (h_key : k.key ≠ n.key)
    (h_lt : rank k.key < r) :
    s.Follows (e :: past) k (before.cell k.key) (m'.cell k.key) := by
  have h_ne : k ≠ n := fun h_eq => h_key (congrArg Node.key h_eq)
  have h_other : ∀ e', e'.node = k → (e' ∈ e :: past ↔ e' ∈ past) := by
    intro e' h_e'
    refine ⟨fun h_mem => (List.mem_cons.1 h_mem).resolve_left ?_, List.mem_cons_of_mem _⟩
    rintro rfl
    exact h_ne (h_e'.symm.trans h_node)
  rw [h_concludes.others _ h_key]
  by_cases h_below : rank k.key < rank n.key
  · exact (h.follows k h_k h_below).congr h_other
  · -- nothing happened to the nodes that are not below
    rw [h_busy.cells _ (Nat.le_of_not_lt h_below) h_key]
    refine (h₀.underway.follows k h_k h_lt).congr fun e' h_e' => (h_other e' h_e').trans ?_
    subst h_e'
    exact h_busy.mem_iff (Nat.le_of_not_lt h_below) h_ne

/-- A node that has computed was served or asked for null. If what it asked was visited, so was the
node itself. -/
theorem Comes.finish (h_keys : ∀ n n', Member n → Member n' → n.key = n'.key → n = n')
    {past₀ : Course} {seen₀ : Roster} {m₀ : Memory}
    (h₀ : s.Comes Member rank before r n c origin past₀ seen₀ m₀)
    (h_new : n.kind.isStateless = false → (m₀.cell n.key).cache = none)
    (h : s.Underway Member rank before (rank n.key) past seen m)
    (h_busy : Memory.BusyWithin rank n past₀ m₀ past m)
    (h_seen : seen = s.visitInside (s.visit Member fuel) n origin seen₀)
    (h_concludes : Memory.Concludes n m m') {e : Happening} (h_e : e = .served n ∨ e = .nulled n)
    (h_justified : s.Justifies Member (e :: past) e)
    (h_follows : s.Follows (e :: past) n (before.cell n.key) (m'.cell n.key))
    (h_visited : e = .served n ∨ ∃ o, origin = some o ∧ .decided o false ∈ past) :
    s.Underway Member rank before r (e :: past) (s.visit Member (fuel + 1) n origin seen₀) m' := by
  have h_n := h₀.member
  have h_node : e.node = n := by rcases h_e with rfl | rfl <;> rfl
  have h_past : past ⊆ e :: past := List.subset_cons_self _ _
  have h_roster := h₀.mem_visit_iff h_new h_seen
  have h_own : Course.Asked (e :: past) n := by
    rcases h_e with rfl | rfl
    · exact .inl List.mem_cons_self
    · exact .inr List.mem_cons_self
  have h_asked : ∀ k, Course.Asked (e :: past) k → k = n ∨ past.Asked k := by
    rintro k (h_k | h_k) <;> rcases List.mem_cons.1 h_k with rfl | h_k
    · exact .inl h_node
    · exact .inr (.inl h_k)
    · exact .inl h_node
    · exact .inr (.inr h_k)
  -- the cells of all other nodes are as they were when the last request was met
  have h_key : ∀ k, Member k → k ≠ n → k.key ≠ n.key := fun k h_k h_ne h_eq =>
    h_ne (h_keys k n h_k h_n h_eq)
  constructor
  case free =>
    intro key
    by_cases h_eq : key = n.key
    · rw [h_eq, h_concludes.override, h.free]
    · rw [h_concludes.others _ h_eq, h.free]
  case justified =>
    intro e' h_e'
    rcases List.mem_cons.1 h_e' with rfl | h_old
    · exact h_justified
    · exact (h.justified e' h_old).mono h_past
  case asked =>
    intro k h_k h_kind h_some
    by_cases h_eq : k = n
    · exact h_eq ▸ h_own
    · rw [h_concludes.others _ (h_key k h_k h_eq)] at h_some
      exact (h.asked k h_k h_kind h_some).mono h_past
  case follows =>
    intro k h_k h_lt
    by_cases h_eq : k = n
    · exact h_eq ▸ h_follows
    · exact h₀.follows_other h h_busy h_concludes h_node h_k (h_key k h_k h_eq) h_lt
  case listed =>
    intro k h_k h_steady h_kind
    simp only [h_roster]
    by_cases h_eq : k = n
    · subst h_eq
      exact ⟨fun _ => ⟨origin, .inr ⟨rfl, rfl, h_steady, h_kind⟩⟩, fun _ => h_concludes.kept h_kind⟩
    · rw [h_concludes.others _ (h_key k h_k h_eq), h.listed k h_k h_steady h_kind]
      simp [h_eq]
  case asked_listed =>
    intro k h_k h_steady h_kind h_k'
    simp only [h_roster]
    rcases h_asked k h_k' with rfl | h_old
    · exact ⟨origin, .inr ⟨rfl, rfl, h_steady, h_kind⟩⟩
    · obtain ⟨o, h_o⟩ := h.asked_listed k h_k h_steady h_kind h_old
      exact ⟨o, .inl h_o⟩
  case nulls =>
    intro k o h_o
    rcases (h_roster k (some o)).1 h_o with h_old | ⟨rfl, h_eq, -⟩
    · exact h.nulls k o h_old
    · exact h₀.nulls o h_eq.symm
  case visited =>
    intro k o h_o
    rcases (h_roster k o).1 h_o with h_old | ⟨rfl, rfl, -⟩
    · exact (h.visited k o h_old).imp (fun h_served => h_past h_served)
        fun ⟨o', h_o', h_decided⟩ => ⟨o', h_o', h_past h_decided⟩
    · rcases h_visited with rfl | ⟨o', h_o', h_decided⟩
      · exact .inl List.mem_cons_self
      · exact .inr ⟨o', h_o', h_past h_decided⟩

/-- **The end of a computation.** A node that has made its requests for a case was served, or asked
for null, as the case is. -/
theorem Comes.complete (h_keys : ∀ n n', Member n → Member n' → n.key = n'.key → n = n')
    {past₀ : Course} {seen₀ : Roster} {m₀ : Memory}
    (h₀ : s.Comes Member rank before r n c origin past₀ seen₀ m₀)
    (h_new : n.kind.isStateless = false → (m₀.cell n.key).cache = none)
    (h : s.Underway Member rank before (rank n.key) past seen m)
    (h_busy : Memory.BusyWithin rank n past₀ m₀ past m)
    (h_seen : seen = s.visitInside (s.visit Member fuel) n origin seen₀)
    (h_links : n.kind.isOptional = false → s.MeetsLinks past n c)
    (h_decided : n.kind.isOptional = true → c = .normal → ∃ present, .decided n present ∈ past ∧
      s.MeetsLinks past n (if present then .normal else .null))
    (h_concludes : Memory.Concludes n m m')
    (h_follows : ∀ e, e = .served n ∧ c = .normal ∨ e = .nulled n ∧ c = .null →
      s.Follows (e :: past) n (before.cell n.key) (m'.cell n.key)) :
    s.Goes Member rank before (fuel + 1) r n c origin past₀ seen₀ m₀ m' := by
  have h_past : ∀ e : Happening, past ⊆ e :: past := fun e => List.subset_cons_self _ _
  rcases h₀.granted.normal_or_null with rfl | ⟨rfl, o, rfl, h_skip⟩
  · -- the node was served
    have h_justified : s.Justifies Member (.served n :: past) (.served n) := by
      refine ⟨fun h_kind => (h_links h_kind).mono (h_past _), fun h_kind => ?_⟩
      obtain ⟨present, h_present, h_met⟩ := h_decided h_kind rfl
      exact ⟨present, h_past _ h_present, h_met.mono (h_past _)⟩
    refine ⟨.served n :: past, ⟨.inl List.mem_cons_self, fun _ _ => List.mem_cons_self⟩, ?_,
      h_busy.conclude h_concludes rfl⟩
    exact h₀.finish h_keys h_new h h_busy h_seen h_concludes (.inl rfl) h_justified
      (h_follows _ (.inl ⟨rfl, rfl⟩)) (.inl rfl)
  · -- the node was asked for null, because the origin of the request decided so
    have h_skip := h_busy.sub h_skip
    have h_justified : s.Justifies Member (.nulled n :: past) (.nulled n) :=
      ⟨fun h_kind => (h_links h_kind).mono (h_past _), o, h₀.nulls o rfl, h_past _ h_skip⟩
    refine ⟨.nulled n :: past, ⟨.inr List.mem_cons_self, fun _ h_c => by cases h_c⟩, ?_,
      h_busy.conclude h_concludes rfl⟩
    exact h₀.finish h_keys h_new h h_busy h_seen h_concludes (.inr rfl) h_justified
      (h_follows _ (.inr ⟨rfl, rfl⟩)) (.inr ⟨o, rfl, h_skip⟩)

theorem Comes.begun (h : s.Comes Member rank before r n c origin past seen m) (i : Identity)
    (c' : FieldCase) :
    s.Underway Member rank before (rank n.key) past seen (m.begun n.key i c') := by
  have h_cell := m.cell_begun_self n.key i c'
  exact h.underway.touch (Nat.le_of_lt h.below) (fun key h_ne => m.cell_begun_of_ne i c' h_ne)
    (by rw [h_cell]; rfl) (by rw [h_cell]; rfl) [] fun e h_e => absurd h_e List.not_mem_nil

end Scope

end Requests

end Specimen
