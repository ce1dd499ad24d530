import Specimen.Proofs.Node.Memory

/-!
# How a node comes to its answer

What `Node.answer` does step by step with the memory is said here as relations between the memory
before, the answer and the memory after, in terms of a relation `R` that says the same of the nodes
that are asked on the way. There is one constructor for each way to come to an answer.

* `Scope.Generates` says how the value of a kind comes about, `Scope.Answers` what becomes of it.
* `Node.ends_answer`: each answer is come to in one of these ways.
* `Node.value_induction`: what passes from the nodes that are asked to the node that asks them
  holds of every value. Statements about values are proved by it, so they look at single steps
  only and at no fuel.
-/

namespace Specimen

/-- A relation between the node and the case of a request, the memory before it, its answer and the
memory after it. -/
abbrev Asking := Node → FieldCase → Memory → Option String → Memory → Prop

/-- Constants and sources compute their answer anew each time. -/
def NodeKind.isStateless : NodeKind → Bool
  | constant _ | source _ => true
  | _ => false

namespace Scope

variable (s : Scope)

/-- The node that a link leads to, if there is one. -/
def target? : Link → Option Node
  | .reference id => s.nodes.get? id
  | .embedded n => some n

theorem resolve_eq {link : Link} {n : Node} (h : s.target? link = some n) :
    s.resolve link = pure n := by
  cases link with
  | reference id =>
    rw [target?] at h
    rw [resolve, find, h]
  | embedded n' => rw [resolve, Option.some.inj h]

/-- A link leads to a node, or else its id is unknown. -/
theorem ends_resolve {link : Link} {m : Memory} {good : Node → Memory → Prop}
    {bad : Failure → Memory → Prop} : Ends (s.resolve link) m good bad ↔
      (∀ n, s.target? link = some n → good n m) ∧
        ∀ id, link = .reference id → s.nodes.get? id = none → bad (.fault (.unknownId id)) m := by
  cases link with
  | reference id =>
    rw [resolve, find, target?]
    cases h : s.nodes.get? id <;> simp [h]
  | embedded n => simp [resolve, target?]

theorem ends_find {id : String} {m : Memory} {good : Node → Memory → Prop}
    {bad : Failure → Memory → Prop} : Ends (s.find id) m good bad ↔
      (∀ n, s.nodes.get? id = some n → good n m) ∧
        (s.nodes.get? id = none → bad (.fault (.unknownId id)) m) := by
  rw [find]
  cases h : s.nodes.get? id <;> simp

variable (R : Asking)

/-- Parts answer one after the other; the answers that are null are left out. -/
inductive Parts (c : FieldCase) : List Link → Memory → List String → Memory → Prop where
  | nil {m} : Parts c [] m [] m
  | cons {link links n m v m' values m''} (h_target : s.target? link = some n)
    (h_ask : R n c m v m') (h_parts : Parts c links m' values m'') :
    Parts c (link :: links) m (v.toList ++ values) m''

/-- A rule says whether a child has to be generated. -/
inductive Rules : Config.Mandatory → Memory → Bool → Memory → Prop where
  | ignoring {rule m} (h : s.ignoreOptional = true) : Rules rule m true m
  | fixed {always m} (h : s.ignoreOptional = false) : Rules (.fixed always) m always m
  | whenPresent {id n m v m'} (h : s.ignoreOptional = false) (h_target : s.nodes.get? id = some n)
    (h_ask : R n .normal m v m') :
    Rules (.whenPresent id) m ((v.map Text.isPresent).getD false) m'

/-- An optional node decides whether its child is generated: the rule says that it has to be, or
else the choice goes on. -/
inductive Decides (key : Nat) (rule : Config.Mandatory) : Memory → Bool → Memory → Prop where
  | mandatory {m m'} (h_rule : s.Rules R rule m true m') :
    Decides key rule m true (m'.update key (Cell.decide true))
  | chosen {m m' chosen choice draws} (h_rule : s.Rules R rule m false m')
    (h_next : (m'.cell key).choice.next m'.draws = ((chosen, choice), draws)) :
    Decides key rule m chosen
      (((m'.update key (Cell.decide false)).withDraws draws).update key (Cell.choose choice))

/-- A node generates a value for a case. -/
inductive Generates (n : Node) : FieldCase → Memory → Option String → Memory → Prop where
  | constantNull {value m} (h : n.kind = .constant value) : Generates n .null m none m
  | constantBlank {value m} (h : n.kind = .constant value) :
    Generates n .blank m (some (Text.blanked value)) m
  | constant {value c m} (h : n.kind = .constant value) (h_null : c ≠ .null)
    (h_blank : c ≠ .blank) : Generates n c m (some value) (m.update n.key (Cell.serve 0))
  | field {f set c m served text draws} (h : n.kind = .field f set)
    (h_served : served = m.served n.key f (f.caseFor (m.cell n.key).served c))
    (h_text : f.generate (f.caseFor (m.cell n.key).served c) set m.draws = (.ok text, draws)) :
    Generates n c m (some text) (served.withDraws draws)
  | combined {parts separator c m values m'} (h : n.kind = .combined parts separator)
    (h_parts : s.Parts R c parts m values m') : Generates n c m (joined separator values) m'
  | optionalNull {child rule m} (h : n.kind = .optional child rule) : Generates n .null m none m
  | optionalExplicit {child rule c m child' v m'} (h : n.kind = .optional child rule)
    (h_null : c ≠ .null) (h_normal : c ≠ .normal) (h_target : s.target? child = some child')
    (h_ask : R child' c m v m') : Generates n c m v m'
  | optionalDecided {child rule m child' present m' v m''} (h : n.kind = .optional child rule)
    (h_target : s.target? child = some child') (h_decides : s.Decides R n.key rule m present m')
    (h_ask : R child' (if present then .normal else .null) m' v m'') : Generates n .normal m v m''
  | source {child c m child' v m'} (h : n.kind = .source child)
    (h_target : s.target? child = some child') (h_ask : R child' c m v m') : Generates n c m v m'

/-- A node computes a value while it holds a token. -/
inductive Computes (n : Node) (c : FieldCase) (m : Memory) : Option String → Memory → Prop where
  | intro {v m'} (h_token : ∀ held, (m.cell n.key).token = some held → m.tokens ≤ held)
    (h_generates : s.Generates R n c (m.begun n.key n.identity c) v m') :
    Computes n c m v (m'.update n.key Cell.release)

/-- A node answers a request. -/
inductive Answers (n : Node) (c : FieldCase) (m : Memory) : Option String → Memory → Prop where
  | overridden {values} (h : (m.cell n.key).override = some values) :
    Answers n c m (values (m.cell n.key).used) (m.update n.key Cell.use)
  | stateless {v m'} (h : (m.cell n.key).override = none) (h_kind : n.kind.isStateless = true)
    (h_computes : s.Computes R n c m v m') : Answers n c m v m'
  | remembered {v} (h : (m.cell n.key).override = none) (h_kind : n.kind.isStateless = false)
    (h_cache : (m.cell n.key).cache = some v) : Answers n c m (derive c v) m
  | computed {v m'} (h : (m.cell n.key).override = none) (h_kind : n.kind.isStateless = false)
    (h_cache : (m.cell n.key).cache = none) (h_computes : s.Computes R n c.computed m v m') :
    Answers n c m (derive c v) (m'.update n.key (Cell.keep (derive c v)))

end Scope

/-! ### Every answer is come to in one of these ways -/

section Ends

variable {s : Scope} {R : Asking} {ask : Node → FieldCase → Eval (Option String)}

/-- Failures are of no interest here. -/
abbrev Anyhow : Failure → Memory → Prop := fun _ _ => True

theorem Scope.ends_partValues (h_ask : ∀ n c m, Ends (ask n c) m (R n c m) Anyhow) (c : FieldCase)
    (links : List Link) (m : Memory) :
    Ends (s.partValues ask c links) m (s.Parts R c links m) Anyhow := by
  induction links generalizing m with
  | nil => exact .nil
  | cons link links ih =>
    simp only [Scope.partValues, ends_bind, Scope.ends_resolve]
    refine ⟨fun n h_target => ?_, fun _ _ _ => trivial⟩
    refine (h_ask n c m).mono (fun v m' h_v => ?_) fun _ _ _ => trivial
    exact (ih m').mono (fun values m'' h_parts => .cons h_target h_v h_parts) fun _ _ _ => trivial

theorem Scope.ends_isMandatory (h_ask : ∀ n c m, Ends (ask n c) m (R n c m) Anyhow)
    (rule : Config.Mandatory) (m : Memory) :
    Ends (s.isMandatory ask rule) m (s.Rules R rule m) Anyhow := by
  unfold Scope.isMandatory
  split
  · next h => exact .ignoring h
  · next h =>
    have h_heeding : s.ignoreOptional = false := by simpa using h
    cases rule with
    | fixed always => exact .fixed h_heeding
    | whenPresent id =>
      simp only [ends_bind, Scope.ends_find]
      refine ⟨fun n h_target => ?_, fun _ => trivial⟩
      exact (h_ask n .normal m).mono (fun v m' h_v => .whenPresent h_heeding h_target h_v)
        fun _ _ _ => trivial

theorem Scope.ends_decide (h_ask : ∀ n c m, Ends (ask n c) m (R n c m) Anyhow) (key : Nat)
    (rule : Config.Mandatory) (m : Memory) :
    Ends (s.decide ask key rule) m (s.Decides R key rule m) Anyhow := by
  rw [Scope.decide, ends_bind]
  refine (s.ends_isMandatory h_ask rule m).mono (fun mandatory m' h_rule => ?_) fun _ _ _ => trivial
  simp only [ends_bind, ends_update]
  cases mandatory with
  | true => exact .mandatory h_rule
  | false =>
    simp only [Bool.false_eq_true, if_false, ends_bind, ends_cell, ends_draw]
    -- noting what the rule says leaves the choice as it is
    have h_cell : ((m'.update key (Cell.decide false)).cell key).choice = (m'.cell key).choice := by
      rw [Memory.cell_update_self]
      rfl
    have h_chosen : s.Decides R key rule m _ _ := .chosen h_rule
      (Prod.eta ((m'.cell key).choice.next m'.draws)).symm
    rw [← h_cell] at h_chosen
    exact h_chosen

/-- The value of a kind comes about in one of the ways. -/
theorem Scope.ends_constantValue {n : Node} {value : String} (h : n.kind = .constant value)
    (c : FieldCase) (m : Memory) :
    Ends (constantValue n.key value c) m (s.Generates R n c m) Anyhow := by
  cases c with
  | null => exact .constantNull h
  | blank => exact .constantBlank h
  | normal | min | avg | max => exact .constant h (by simp) (by simp)

theorem Scope.ends_fieldValue {n : Node} {f : Field} {set : CharacterSet}
    (h : n.kind = .field f set) (c : FieldCase) (m : Memory) :
    Ends (fieldValue n.key f set c) m (s.Generates R n c m) Anyhow := by
  rw [Specimen.ends_fieldValue (Prod.eta _).symm]
  exact ⟨fun t h_text => .field h rfl (Prod.ext h_text rfl), fun _ _ => trivial⟩

theorem Scope.ends_optionalValue (h_ask : ∀ n c m, Ends (ask n c) m (R n c m) Anyhow) {n : Node}
    {child : Link} {rule : Config.Mandatory} (h : n.kind = .optional child rule) (c : FieldCase)
    (m : Memory) :
    Ends (s.optionalValue ask n.key child rule c) m (s.Generates R n c m) Anyhow := by
  -- a case of its own is passed on to the child, and no decision is made
  have h_explicit : c ≠ .null → c ≠ .normal →
      Ends (s.optionalValue ask n.key child rule c) m (s.Generates R n c m) Anyhow := by
    intro h_null h_normal
    have h_c : c.isExplicit = true := by simpa [FieldCase.isExplicit] using h_normal
    simp only [Scope.optionalValue, if_neg h_null, if_pos h_c, ends_bind, Scope.ends_resolve,
      ends_pure, if_true]
    refine ⟨fun child' h_target => ?_, fun _ _ _ => trivial⟩
    exact (h_ask child' c m).mono (fun v m' => .optionalExplicit h h_null h_normal h_target)
      fun _ _ _ => trivial
  cases c with
  | null => exact .optionalNull h
  | normal =>
    have h_c : ¬ FieldCase.normal.isExplicit = true := by decide
    simp only [Scope.optionalValue, reduceCtorEq, if_false, if_neg h_c, ends_bind,
      Scope.ends_resolve]
    refine ⟨fun child' h_target => ?_, fun _ _ _ => trivial⟩
    refine (s.ends_decide h_ask n.key rule m).mono (fun present m' h_decides => ?_)
      fun _ _ _ => trivial
    exact (h_ask child' _ m').mono (fun v m'' => .optionalDecided h h_target h_decides)
      fun _ _ _ => trivial
  | blank | min | avg | max => exact h_explicit (by simp) (by simp)

/-- What is computed while the node holds a token is computed by a node. -/
theorem Scope.ends_computes {n : Node} {c : FieldCase} {generate : Eval (Option String)}
    {m : Memory} (h : ∀ m, Ends generate m (s.Generates R n c m) Anyhow) :
    Ends (guarded n.key n.identity c generate) m (s.Computes R n c m) Anyhow := by
  by_cases h_token : ∀ held, (m.cell n.key).token = some held → m.tokens ≤ held
  · rw [ends_guarded h_token]
    exact (h _).mono (fun v m' h_generates => .intro h_token h_generates) fun _ _ _ => trivial
  · obtain ⟨held, h_held⟩ := Classical.not_forall.1 h_token
    obtain ⟨h_some, h_lt⟩ := Classical.not_imp.1 h_held
    exact (ends_guarded_held h_some (Nat.not_le.1 h_lt)).2 trivial

theorem Scope.ends_stateless {n : Node} (h_kind : n.kind.isStateless = true) {c : FieldCase}
    {generate : FieldCase → Eval (Option String)} {m : Memory}
    (h : ∀ m, Ends (generate c) m (s.Generates R n c m) Anyhow) :
    Ends (stateless n.key n.identity c generate) m (s.Answers R n c m) Anyhow := by
  cases h_override : (m.cell n.key).override with
  | some values => exact (ends_stateless_overridden h_override).2 (.overridden h_override)
  | none =>
    rw [Specimen.ends_stateless h_override]
    exact (Scope.ends_computes h).mono (fun v m' => .stateless h_override h_kind)
      fun _ _ _ => trivial

theorem Scope.ends_cached {n : Node} (h_kind : n.kind.isStateless = false) {c : FieldCase}
    {generate : FieldCase → Eval (Option String)} {m : Memory}
    (h : ∀ m, Ends (generate c.computed) m (s.Generates R n c.computed m) Anyhow) :
    Ends (cached n.key n.identity c generate) m (s.Answers R n c m) Anyhow := by
  cases h_override : (m.cell n.key).override with
  | some values => exact (ends_cached_overridden h_override).2 (.overridden h_override)
  | none =>
    cases h_cache : (m.cell n.key).cache with
    | some v =>
      exact (ends_cached_remembered h_override h_cache).2 (.remembered h_override h_kind h_cache)
    | none =>
      rw [Specimen.ends_cached h_override h_cache]
      exact (Scope.ends_computes h).mono (fun v m' => .computed h_override h_kind h_cache)
        fun _ _ _ => trivial

/-- **One answer.** If the nodes that are asked answer as `R` says, the node that asks them comes
to its answer in one of the ways. -/
theorem Node.ends_answer (h_ask : ∀ n c m, Ends (ask n c) m (R n c m) Anyhow) (n : Node)
    (c : FieldCase) (m : Memory) : Ends (n.answer s ask c) m (s.Answers R n c m) Anyhow := by
  unfold Node.answer
  split
  · next value h =>
    exact Scope.ends_stateless (by rw [h]; rfl) (Scope.ends_constantValue h c)
  · next f set h => exact Scope.ends_cached (by rw [h]; rfl) (Scope.ends_fieldValue h c.computed)
  · next parts separator h =>
    refine Scope.ends_cached (by rw [h]; rfl) fun m => ?_
    rw [ends_bind]
    exact (Scope.ends_partValues h_ask c.computed parts m).mono
      (fun values m' h_parts => .combined h h_parts) fun _ _ _ => trivial
  · next child rule h =>
    exact Scope.ends_cached (by rw [h]; rfl) (Scope.ends_optionalValue h_ask h c.computed)
  · next child h =>
    refine Scope.ends_stateless (by rw [h]; rfl) fun m => ?_
    simp only [ends_bind, Scope.ends_resolve]
    refine ⟨fun child' h_target => ?_, fun _ _ _ => trivial⟩
    exact (h_ask child' c m).mono (fun v m' h_v => .source h h_target h_v) fun _ _ _ => trivial

/-- What passes from the nodes that are asked to the node that asks them holds of all values, even
if it depends on how deep requests may nest. -/
theorem Node.value_induction_fuel {R : Nat → Asking}
    (h : ∀ fuel n c m v m', s.Answers (R fuel) n c m v m' → R (fuel + 1) n c m v m') :
    ∀ fuel n c m, Ends (n.value s fuel c) m (R fuel n c m) Anyhow
  | 0, _, _, _ => trivial
  | fuel + 1, n, c, m => by
    rw [Node.value]
    exact (Node.ends_answer (Node.value_induction_fuel h fuel) n c m).mono (h fuel n c m)
      fun _ _ _ => trivial

/-- **Induction over values.** What holds of a node whenever it holds of the nodes that it asks
holds of all values, however deep requests nest. -/
theorem Node.value_induction {R : Asking}
    (h : ∀ n c m v m', s.Answers R n c m v m' → R n c m v m') (fuel : Nat) (n : Node)
    (c : FieldCase) (m : Memory) : Ends (n.value s fuel c) m (R n c m) Anyhow :=
  Node.value_induction_fuel (R := fun _ => R) (fun _ => h) fuel n c m

end Ends

end Specimen
