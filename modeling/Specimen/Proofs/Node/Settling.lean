import Specimen.Proofs.Node.Answer
import Specimen.Proofs.Node.Place

/-!
# Requests of ordered nodes settle

If the requests of nodes lead in no circle, each request comes to an end without a fault: it
answers, or a field breaks off. In both cases all tokens and marks are given back.

* `Scope.Ordered`: every member of a set of nodes asks members of lower rank only.
* `Settles` is what is shown of every evaluation; it goes through sequences (`Settles.bind`).
* `Node.value_settles` shows it of values, by induction on the fuel. What carries the induction is
  that nodes of lower rank hold no token (`FreeBelow`), whichever nodes above them do.
-/

namespace Specimen

/-! ### Settling -/

/-- After an evaluation the tokens, the marks and the overrides are what they were before. -/
def Memory.Settled (m m' : Memory) : Prop := ∀ key,
  (m'.cell key).token = (m.cell key).token ∧ (m'.cell key).isVisited = (m.cell key).isVisited ∧
    (m'.cell key).override = (m.cell key).override

namespace Memory.Settled

theorem refl (m : Memory) : m.Settled m := fun _ => ⟨rfl, rfl, rfl⟩

theorem trans {m m' m'' : Memory} (h : m.Settled m') (h' : m'.Settled m'') :
    m.Settled m'' := fun key =>
  ⟨(h' key).1.trans (h key).1, (h' key).2.1.trans (h key).2.1, (h' key).2.2.trans (h key).2.2⟩

theorem of_cells {m m' : Memory} (h : ∀ key, m'.cell key = m.cell key) : m.Settled m' := by
  intro key
  rw [h key]
  exact ⟨rfl, rfl, rfl⟩

/-- A change that keeps tokens, marks and overrides settles. -/
theorem update {m m' : Memory} (h : m.Settled m') {key : Nat} {change : Cell → Cell}
    (h_change : ∀ c, (change c).token = c.token ∧ (change c).isVisited = c.isVisited ∧
      (change c).override = c.override) : m.Settled (m'.update key change) := by
  refine h.trans fun other => ?_
  rw [Memory.cell_update]
  split
  · next h_eq =>
    subst h_eq
    exact h_change _
  · exact ⟨rfl, rfl, rfl⟩

theorem withDraws {m m' : Memory} (h : m.Settled m') (draws : Draws) :
    m.Settled (m'.withDraws draws) := h.trans (of_cells fun _ => rfl)

theorem served {m m' : Memory} (h : m.Settled m') (key : Nat) (f : Field) (c : FieldCase) :
    m.Settled (m'.served key f c) := by
  rw [Memory.served]
  split
  · exact h.update fun cell => ⟨by simp, by simp, by simp⟩
  · exact h

end Memory.Settled

/-- The failure is that of a crash which is expected. -/
def Failure.IsCrash (expected : Crash → Prop) : Failure → Prop
  | .crash reason => expected reason
  | _ => False

variable {expected : Crash → Prop}

@[simp] theorem Failure.isCrash_inNode {node : String} {f : Failure} :
    (f.inNode node).IsCrash expected ↔ f.IsCrash expected := by
  cases f <;> exact Iff.rfl

/-- The evaluation answers or crashes as expected, and settles in both cases. -/
def Settles {α : Type} (expected : Crash → Prop) (e : Eval α) (m : Memory) : Prop :=
  Ends e m (fun _ m' => m.Settled m') fun f m' => f.IsCrash expected ∧ m.Settled m'

namespace Settles

variable {α β : Type} {m : Memory}

theorem pure (a : α) : Settles expected (pure a : Eval α) m := Memory.Settled.refl m

/-- Whether it answers or crashes, an evaluation that settles has settled. -/
theorem settled {e : Eval α} (h : Settles expected e m) : m.Settled (e m).2 :=
  Ends.state (h.mono (fun _ _ h_good => h_good) fun _ _ h_bad => h_bad.2)

/-- If no crash is expected, there is an answer. -/
theorem answers {e : Eval α} (h : Settles (fun _ => False) e m) :
    Ends e m (fun _ m' => m.Settled m') fun _ _ => False :=
  h.mono (fun _ _ h_good => h_good) fun f _ h_bad => by cases f <;> exact h_bad.1

/-- What settles one after the other settles. -/
theorem bind {e : Eval α} {k : α → Eval β} (h : Settles expected e m)
    (h_next : ∀ a m', m.Settled m' → Settles expected (k a) m') :
    Settles expected (e >>= k) m := by
  rw [Settles, ends_bind]
  refine h.mono (fun a m' h_m' => ?_) fun _ _ h_bad => h_bad
  refine (h_next a m' h_m').mono (fun _ _ h_good => h_m'.trans h_good) fun f m'' h_bad => ?_
  exact ⟨h_bad.1, h_m'.trans h_bad.2⟩

/-- A change that keeps tokens, marks and overrides settles. -/
theorem update {key : Nat} {change : Cell → Cell} (h_change : ∀ c, (change c).token = c.token ∧
    (change c).isVisited = c.isVisited ∧ (change c).override = c.override) :
    Settles expected (Eval.update key change) m :=
  (Memory.Settled.refl m).update h_change

theorem serve (key : Nat) (position : Int) : Settles expected (serve key position) m :=
  (Memory.Settled.refl m).update fun _ =>
    ⟨Cell.serve_token _ _, Cell.serve_isVisited _ _, Cell.serve_override _ _⟩

theorem of_get {k : Memory → Eval β} (h : Settles expected (k m) m) :
    Settles expected (get >>= k) m := by
  rw [Settles, ends_bind, ends_get]
  exact h

theorem of_cell {key : Nat} {k : Cell → Eval β} (h : Settles expected (k (m.cell key)) m) :
    Settles expected (Eval.cell key >>= k) m := by
  rw [Settles, ends_bind, ends_cell]
  exact h

theorem draw (d : Draw α) : Settles expected (Eval.draw d) m :=
  (Memory.Settled.refl m).withDraws _

theorem log (e : LogEvent) : Settles expected (Eval.log e) m :=
  Memory.Settled.of_cells fun _ => rfl

theorem modify {change : Memory → Memory} (h : m.Settled (change m)) :
    Settles expected (modify change : Eval PUnit) m := h

/-- A node that holds no token gives back the one that it takes. -/
theorem guarded {key : Nat} {i : Identity} {c : FieldCase} {generate : Eval (Option String)}
    (h_token : (m.cell key).token = none) (h : Settles expected generate (m.begun key i c)) :
    Settles expected (guarded key i c generate) m := by
  have h_free : ∀ held, (m.cell key).token = some held → m.tokens ≤ held := by
    simp [h_token]
  have h_back : ∀ m', (m.begun key i c).Settled m' → m.Settled (m'.update key Cell.release) := by
    intro m' h_m' other
    rw [Memory.cell_update]
    split
    · next h_eq =>
      subst h_eq
      have h_other := h_m' other
      rw [Memory.cell_begun, if_pos rfl] at h_other
      exact ⟨h_token.symm, h_other.2.1, h_other.2.2⟩
    · next h_ne =>
      have h_other := h_m' other
      rw [Memory.cell_begun, if_neg h_ne] at h_other
      exact h_other
  rw [Settles, ends_guarded h_free]
  refine h.mono (fun _ m' h_m' => h_back m' h_m') fun f m' h_bad => ?_
  exact ⟨Failure.isCrash_inNode.2 h_bad.1, h_back m' h_bad.2⟩

theorem stateless {key : Nat} {i : Identity} {c : FieldCase}
    {generate : FieldCase → Eval (Option String)} (h_token : (m.cell key).token = none)
    (h : Settles expected (generate c) (m.begun key i c)) :
    Settles expected (stateless key i c generate) m := by
  cases h_override : (m.cell key).override with
  | some values =>
    rw [Settles, ends_stateless_overridden h_override]
    exact (Memory.Settled.refl m).update fun _ => ⟨rfl, rfl, rfl⟩
  | none =>
    rw [Settles, ends_stateless h_override]
    exact Settles.guarded h_token h

theorem cached {key : Nat} {i : Identity} {c : FieldCase}
    {generate : FieldCase → Eval (Option String)} (h_token : (m.cell key).token = none)
    (h : Settles expected (generate c.computed) (m.begun key i c.computed)) :
    Settles expected (cached key i c generate) m := by
  cases h_override : (m.cell key).override with
  | some values =>
    rw [Settles, ends_cached_overridden h_override]
    exact (Memory.Settled.refl m).update fun _ => ⟨rfl, rfl, rfl⟩
  | none =>
    cases h_cache : (m.cell key).cache with
    | some v =>
      rw [Settles, ends_cached_remembered h_override h_cache]
      exact Memory.Settled.refl m
    | none =>
      rw [Settles, ends_cached h_override h_cache]
      exact (Settles.guarded h_token h).mono
        (fun _ m' h_m' => h_m'.update fun _ => ⟨rfl, rfl, rfl⟩) fun _ _ h_bad => h_bad

end Settles

/-! ### Ordered nodes -/

/-- One node may ask another when it generates: it links to it, or its rule names it. -/
def Scope.Calls (s : Scope) (n n' : Node) : Prop :=
  (∃ link ∈ n.kind.links, s.target? link = some n') ∨
    ∃ id, n.kind.ruleId? = some id ∧ s.nodes.get? id = some n'

/-- Every member of a set of nodes asks members of lower rank only, and these can be found. -/
structure Scope.Ordered (s : Scope) (Member : Node → Prop) (rank : Nat → Nat) : Prop where
  target : ∀ n link, Member n → link ∈ n.kind.links →
    ∃ n', s.target? link = some n' ∧ Member n' ∧ rank n'.key < rank n.key
  rule : ∀ n child id, Member n → n.kind = .optional child (.whenPresent id) →
    ∃ n', s.nodes.get? id = some n' ∧ Member n' ∧ rank n'.key < rank n.key

/-- The nodes below a rank hold no token. -/
def Memory.FreeBelow (rank : Nat → Nat) (r : Nat) (m : Memory) : Prop :=
  ∀ key, rank key < r → (m.cell key).token = none

theorem Memory.Settled.freeBelow {rank : Nat → Nat} {r : Nat} {m m' : Memory} (h : m.Settled m')
    (h_free : m.FreeBelow rank r) : m'.FreeBelow rank r :=
  fun key h_key => (h key).1.trans (h_free key h_key)

/-- While a node holds a token, those of lower rank hold none. -/
theorem Memory.FreeBelow.begun {rank : Nat → Nat} {m : Memory} {key : Nat}
    (h : m.FreeBelow rank (rank key + 1)) (i : Identity) (c : FieldCase) :
    (m.begun key i c).FreeBelow rank (rank key) := by
  intro other h_other
  have h_ne : other ≠ key := by
    rintro rfl
    exact absurd h_other (Nat.lt_irrefl _)
  rw [Memory.cell_begun, if_neg h_ne]
  exact h other (Nat.lt_succ_of_lt h_other)

/-- Every field of a node crashes as expected only, and without a fault. -/
def Scope.CrashesOnly (Member : Node → Prop) (expected : Crash → Prop) : Prop :=
  ∀ n f set, Member n → n.kind = .field f set → ∀ c draws failure,
    (f.generate c set draws).1 = .error failure → failure.lift.IsCrash expected

section Values

variable {s : Scope} {Member : Node → Prop} {rank : Nat → Nat}
  {ask : Node → FieldCase → Eval (Option String)} {r : Nat}

/-- The nodes of a lower rank settle when they are asked. -/
abbrev AsksSettle (Member : Node → Prop) (rank : Nat → Nat) (expected : Crash → Prop) (r : Nat)
    (ask : Node → FieldCase → Eval (Option String)) : Prop :=
  ∀ n c m, Member n → rank n.key < r → m.FreeBelow rank r → Settles expected (ask n c) m

/-- A link to a node of lower rank. -/
abbrev Scope.LeadsBelow (s : Scope) (Member : Node → Prop) (rank : Nat → Nat) (r : Nat)
    (link : Link) : Prop :=
  ∃ n, s.target? link = some n ∧ Member n ∧ rank n.key < r

/-- The parts of a member lead to members of lower rank. -/
theorem Scope.Ordered.leadsBelow (h : s.Ordered Member rank) {n : Node} (h_n : Member n)
    {links : List Link} (h_links : n.kind.links = links) :
    ∀ link ∈ links, s.LeadsBelow Member rank (rank n.key) link :=
  fun link h_link => h.target n link h_n (h_links ▸ h_link)

theorem Scope.partValues_settles (h_ask : AsksSettle Member rank expected r ask) (c : FieldCase)
    (links : List Link) (h_links : ∀ link ∈ links, s.LeadsBelow Member rank r link) {m : Memory}
    (h_free : m.FreeBelow rank r) : Settles expected (s.partValues ask c links) m := by
  induction links generalizing m with
  | nil => exact .pure _
  | cons link links ih =>
    obtain ⟨n, h_target, h_n, h_rank⟩ := h_links link List.mem_cons_self
    rw [Scope.partValues, s.resolve_eq h_target, pure_bind]
    refine .bind (h_ask n c m h_n h_rank h_free) fun v m' h_m' => ?_
    refine .bind (ih (fun l h_l => h_links l (List.mem_cons_of_mem _ h_l)) (h_m'.freeBelow h_free))
      fun values m'' _ => ?_
    exact .pure _

theorem Scope.isMandatory_settles (h_ask : AsksSettle Member rank expected r ask)
    {rule : Config.Mandatory} (h_rule : ∀ id, rule = .whenPresent id →
      ∃ n, s.nodes.get? id = some n ∧ Member n ∧ rank n.key < r) {m : Memory}
    (h_free : m.FreeBelow rank r) : Settles expected (s.isMandatory ask rule) m := by
  unfold Scope.isMandatory
  split
  · exact .pure _
  · cases rule with
    | fixed always => exact .pure _
    | whenPresent id =>
      obtain ⟨n, h_target, h_n, h_rank⟩ := h_rule id rfl
      have h_find : s.find id = Pure.pure n := by rw [Scope.find, h_target]
      simp only [h_find, pure_bind]
      exact .bind (h_ask n .normal m h_n h_rank h_free) fun _ _ _ => .pure _

theorem Scope.decide_settles (h_ask : AsksSettle Member rank expected r ask)
    {rule : Config.Mandatory} (h_rule : ∀ id, rule = .whenPresent id →
      ∃ n, s.nodes.get? id = some n ∧ Member n ∧ rank n.key < r) (key : Nat) {m : Memory}
    (h_free : m.FreeBelow rank r) : Settles expected (s.decide ask key rule) m := by
  rw [Scope.decide]
  refine .bind (s.isMandatory_settles h_ask h_rule h_free) fun mandatory m' _ => ?_
  refine .bind (.update fun _ => ⟨rfl, rfl, rfl⟩) fun _ m'' _ => ?_
  split
  · exact .pure _
  · refine .of_cell (.bind (.draw _) fun chosen m''' _ => ?_)
    exact .bind (.update fun _ => ⟨rfl, rfl, rfl⟩) fun _ _ _ => .pure _

theorem Scope.optionalValue_settles (h_ask : AsksSettle Member rank expected r ask)
    {child : Link} (h_child : s.LeadsBelow Member rank r child) {rule : Config.Mandatory}
    (h_rule : ∀ id, rule = .whenPresent id →
      ∃ n, s.nodes.get? id = some n ∧ Member n ∧ rank n.key < r) (key : Nat) (c : FieldCase)
    {m : Memory} (h_free : m.FreeBelow rank r) :
    Settles expected (s.optionalValue ask key child rule c) m := by
  obtain ⟨n, h_target, h_n, h_rank⟩ := h_child
  unfold Scope.optionalValue
  split
  · exact .pure _
  · rw [s.resolve_eq h_target, pure_bind]
    have h_decide : Settles expected
        (if c.isExplicit then Pure.pure true else s.decide ask key rule) m := by
      split
      · exact .pure _
      · exact s.decide_settles h_ask h_rule key h_free
    -- the child is asked for the case if it is present and for null otherwise
    have h_last := Settles.bind (k := fun b => ask n (if b then c else .null)) h_decide
      fun b m' h_m' => h_ask n _ m' h_n h_rank (h_m'.freeBelow h_free)
    split at h_last
    · next h_c => simpa [h_c] using h_last
    · next h_c => simpa [h_c] using h_last

end Values

/-- **Values settle.** A member that holds no token itself, as none of lower rank does, answers
or crashes as expected, and gives back all tokens. -/
theorem Node.value_settles {s : Scope} {Member : Node → Prop} {rank : Nat → Nat}
    (h : s.Ordered Member rank) (h_crash : Scope.CrashesOnly Member expected) :
    ∀ fuel n c m, Member n → rank n.key < fuel → m.FreeBelow rank (rank n.key + 1) →
      Settles expected (n.value s fuel c) m
  | 0, _, _, _, _, h_fuel, _ => absurd h_fuel (Nat.not_lt_zero _)
  | fuel + 1, n, c, m, h_n, h_fuel, h_free => by
    have h_token : (m.cell n.key).token = none := h_free n.key (Nat.lt_succ_self _)
    have h_ask : AsksSettle Member rank expected (rank n.key) (Node.value s fuel) :=
      fun n' c' m' h_n' h_rank h_free' => Node.value_settles h h_crash fuel n' c' m' h_n'
        (by omega) fun key h_key => h_free' key (by omega)
    -- its own token is of no concern to the nodes below
    have h_begun : ∀ c, (m.begun n.key n.identity c).FreeBelow rank (rank n.key) :=
      fun c => h_free.begun n.identity c
    rw [Node.value]
    unfold Node.answer
    split
    · next value h_kind =>
      refine .stateless h_token ?_
      cases c with
      | null | blank => exact .pure _
      | normal | min | avg | max => exact .bind (.serve n.key 0) fun _ _ _ => .pure _
    · next f set h_kind =>
      refine .cached h_token ?_
      rw [Settles, ends_fieldValue (Prod.eta _).symm]
      refine ⟨fun t _ => ?_, fun failure h_failure => ⟨?_, ?_⟩⟩
      · exact ((Memory.Settled.refl _).served _ _ _).withDraws _
      · exact h_crash n f set h_n h_kind _ _ failure h_failure
      · exact ((Memory.Settled.refl _).served _ _ _).withDraws _
    · next parts separator h_kind =>
      have h_links := h.leadsBelow h_n (congrArg NodeKind.links h_kind)
      exact .cached h_token
        (.bind (s.partValues_settles h_ask _ parts h_links (h_begun _)) fun _ _ _ => .pure _)
    · next child rule h_kind =>
      refine .cached h_token (s.optionalValue_settles h_ask ?_ ?_ n.key _ (h_begun _))
      · exact h.leadsBelow h_n (congrArg NodeKind.links h_kind) child (List.mem_singleton_self _)
      · rintro id rfl
        exact h.rule n child id h_n h_kind
    · next child h_kind =>
      obtain ⟨n', h_target, h_n', h_rank⟩ :=
        h.leadsBelow h_n (congrArg NodeKind.links h_kind) child (List.mem_singleton_self _)
      refine .stateless h_token ?_
      rw [s.resolve_eq h_target, pure_bind]
      exact h_ask n' c _ h_n' h_rank (h_begun c)

end Specimen
