import Specimen.Proofs.Node.Guard
import Specimen.Proofs.Node.Requests

/-!
# Where null comes from

Fields generate texts, so a field that keeps null was asked for null first. Such requests begin at
optional nodes that skip their child. After a request for a value every field that has come to keep
null owes it to an optional node that has decided so meanwhile, and whose request was passed on to
the field (`Scope.Accounts`, `Node.value_accounts`).

That node can be told by its cell, because it decides at most once: it holds a token from the moment
at which it begins to generate and keeps a value from then on (`Cell.Engaged`), and what is asked
meanwhile leaves its choice alone (`Memory.Upholds`).
-/

namespace Specimen

/-! ### Nodes that do not decide any more -/

/-- The node generates a value, or keeps one: it does not begin to generate. -/
def Cell.Engaged (c : Cell) : Prop := c.token ≠ none ∨ c.cache ≠ none

/-- What requests leave of the cell of a node. -/
structure Cell.Upheld (before after : Cell) : Prop where
  token : after.token = before.token
  cache : before.cache ≠ none → after.cache ≠ none
  choice : before.Engaged → after.choice = before.choice ∧ after.decision = before.decision

namespace Cell.Upheld

variable {cell cell' cell'' : Cell}

theorem refl (cell : Cell) : cell.Upheld cell := ⟨rfl, id, fun _ => ⟨rfl, rfl⟩⟩

theorem engaged (h : cell.Upheld cell') (h_engaged : cell.Engaged) : cell'.Engaged :=
  h_engaged.imp (fun h_token => h.token ▸ h_token) h.cache

theorem trans (h : cell.Upheld cell') (h' : cell'.Upheld cell'') : cell.Upheld cell'' where
  token := h'.token.trans h.token
  cache h_some := h'.cache (h.cache h_some)
  choice h_engaged :=
    ⟨(h'.choice (h.engaged h_engaged)).1.trans (h.choice h_engaged).1,
      (h'.choice (h.engaged h_engaged)).2.trans (h.choice h_engaged).2⟩

end Cell.Upheld

/-- What requests leave of the memory. -/
def Memory.Upholds (m m' : Memory) : Prop := ∀ key, (m.cell key).Upheld (m'.cell key)

namespace Memory.Upholds

variable {m m' m'' : Memory}

theorem refl (m : Memory) : m.Upholds m := fun _ => .refl _

theorem trans (h : m.Upholds m') (h' : m'.Upholds m'') : m.Upholds m'' :=
  fun key => (h key).trans (h' key)

theorem withDraws (h : m.Upholds m') (draws : Draws) : m.Upholds (m'.withDraws draws) := h

theorem serve (m : Memory) (key : Nat) (position : Int) :
    m.Upholds (m.update key (Cell.serve position)) := by
  intro other
  rw [Memory.cell_update]
  split
  · next h_eq =>
    subst h_eq
    exact ⟨by simp, fun h_some => by simpa using h_some, fun _ => by simp⟩
  · exact .refl _

theorem served (m : Memory) (key : Nat) (f : Field) (c : FieldCase) :
    m.Upholds (m.served key f c) := by
  rw [Memory.served]
  split
  · exact serve m key _
  · exact refl m

end Memory.Upholds

/-- A choice that has fallen on `false` is another one. -/
theorem Scope.Decided.choice_ne {s : Scope} {rule : Config.Mandatory} {before after : Cell}
    (h : s.Decided rule before after false) : after.choice ≠ before.choice := by
  cases h with
  | chosen h_next _ =>
    have h_misses := FairChoice.misses_next h_next
    intro h_eq
    rw [h_eq] at h_misses
    exact Nat.succ_ne_self _ h_misses

/-! ### Nulls that are accounted for -/

/-- An optional node has decided to skip its child, and its request for null may have been passed on
to another node. -/
structure Scope.Skips (s : Scope) (Member : Node → Prop) (start m : Memory) (o n : Node) :
    Prop where
  nulls : s.Nulls Member o n
  unasked : (start.cell o.key).cache = none
  decided : ∃ child rule, o.kind = .optional child rule ∧
    s.Decided rule (start.cell o.key) (m.cell o.key) false

/-- Only members have been asked for anything, and every field among them that has come to keep null
owes it to an optional node that skips its child. -/
structure Scope.Accounts (s : Scope) (Member : Node → Prop) (start m : Memory) : Prop where
  free : ∀ key, (m.cell key).override = none
  held : ∀ key token, (m.cell key).token = some token → token < m.tokens
  idle : ∀ key, ¬ (m.cell key).Engaged →
    (start.cell key).cache = none ∧ (m.cell key).choice = (start.cell key).choice
  fields : ∀ n f set, Member n → n.kind = .field f set → (start.cell n.key).cache = none →
    (m.cell n.key).cache = some none → ∃ o, s.Skips Member start m o n
  outside : ∀ key, (∀ n, Member n → n.key ≠ key) → m.cell key = start.cell key

/-- A request is for a value, or comes from an optional node that skips its child. -/
def Scope.Warranted (s : Scope) (Member : Node → Prop) (start m : Memory) (n : Node)
    (c : FieldCase) : Prop :=
  c = .normal ∨ c = .null ∧ ∃ o, s.Skips Member start m o n

/-- An answer to such a request accounts for what has become null. -/
abbrev Scope.Accounting (s : Scope) (Member : Node → Prop) (start : Memory) : Asking :=
  fun n c m _ m' => Member n → s.Warranted Member start m n c → s.Accounts Member start m →
    s.Accounts Member start m' ∧ m.Upholds m'

namespace Scope

variable {s : Scope} {Member : Node → Prop} {start m m₁ m₂ m' : Memory} {n o : Node}
  {c : FieldCase} {v : Option String} {key : Nat}

/-- If nothing is being evaluated and no node is overridden, there is nothing to account for. -/
theorem accounts_start (h_token : ∀ key, (start.cell key).token = none)
    (h_free : ∀ key, (start.cell key).override = none) : s.Accounts Member start start where
  free := h_free
  held key token h_some := by
    rw [h_token key] at h_some
    cases h_some
  idle key h_idle := ⟨by_contra fun h_some => h_idle (.inr h_some), rfl⟩
  fields n _ _ _ _ h_none h_null := by
    rw [h_none] at h_null
    cases h_null
  outside _ _ := rfl

/-- An optional node that has skipped its child does not decide again. -/
theorem Skips.engaged (h : s.Skips Member start m o n) (h_m : s.Accounts Member start m) :
    (m.cell o.key).Engaged := by
  by_contra h_idle
  obtain ⟨child, rule, -, h_decided⟩ := h.decided
  exact h_decided.choice_ne (h_m.idle o.key h_idle).2

theorem Skips.upheld (h : s.Skips Member start m o n) (h_m : s.Accounts Member start m)
    (h_upholds : m.Upholds m') : s.Skips Member start m' o n := by
  obtain ⟨h_choice, h_decision⟩ := (h_upholds o.key).choice (h.engaged h_m)
  obtain ⟨child, rule, h_kind, h_decided⟩ := h.decided
  exact ⟨h.nulls, h.unasked, child, rule, h_kind, h_decided.congr rfl h_choice h_decision⟩

/-- The cell of a node that has not decided yet is of no concern to those that have. -/
theorem Skips.own (h : s.Skips Member start m o n)
    (h_others : ∀ other, other ≠ key → m'.cell other = m.cell other)
    (h_choice : (m'.cell key).choice = (m.cell key).choice ∧
        (m'.cell key).decision = (m.cell key).decision ∨
      (m.cell key).choice = (start.cell key).choice) : s.Skips Member start m' o n := by
  obtain ⟨child, rule, h_kind, h_decided⟩ := h.decided
  refine ⟨h.nulls, h.unasked, child, rule, h_kind, ?_⟩
  by_cases h_key : o.key = key
  · rw [h_key] at h_decided ⊢
    rcases h_choice with ⟨h_choice, h_decision⟩ | h_same
    · exact h_decided.congr rfl h_choice h_decision
    · exact absurd h_same h_decided.choice_ne
  · rw [h_others _ h_key]
    exact h_decided

/-- **What a node does to its own cell.** -/
theorem Accounts.own (h : s.Accounts Member start m) (h_n : Member n)
    (h_tokens : m.tokens ≤ m'.tokens)
    (h_others : ∀ key, key ≠ n.key → m'.cell key = m.cell key)
    (h_free : (m'.cell n.key).override = (m.cell n.key).override)
    (h_token : ∀ token, (m'.cell n.key).token = some token → token < m'.tokens)
    (h_idle : ¬ (m'.cell n.key).Engaged →
      (start.cell n.key).cache = none ∧ (m'.cell n.key).choice = (start.cell n.key).choice)
    (h_choice : (m'.cell n.key).choice = (m.cell n.key).choice ∧
        (m'.cell n.key).decision = (m.cell n.key).decision ∨
      (m.cell n.key).choice = (start.cell n.key).choice)
    (h_fields : (m'.cell n.key).cache = (m.cell n.key).cache ∨ ∀ k f set, Member k →
      k.kind = .field f set → k.key = n.key → (m'.cell n.key).cache = some none →
        ∃ o, s.Skips Member start m' o k) : s.Accounts Member start m' := by
  constructor
  case free =>
    intro key
    by_cases h_key : key = n.key
    · rw [h_key, h_free, h.free]
    · rw [h_others _ h_key, h.free]
  case held =>
    intro key token h_some
    by_cases h_key : key = n.key
    · exact h_token token (h_key ▸ h_some)
    · rw [h_others _ h_key] at h_some
      exact Nat.lt_of_lt_of_le (h.held key token h_some) h_tokens
  case idle =>
    intro key h_off
    by_cases h_key : key = n.key
    · subst h_key
      exact h_idle h_off
    · rw [h_others _ h_key] at h_off ⊢
      exact h.idle key h_off
  case fields =>
    intro k f set h_k h_kind h_unasked h_null
    -- what accounted for a field before still does
    have h_old : (m.cell k.key).cache = some none → ∃ o, s.Skips Member start m' o k := by
      intro h_null
      obtain ⟨o, h_o⟩ := h.fields k f set h_k h_kind h_unasked h_null
      exact ⟨o, h_o.own h_others h_choice⟩
    by_cases h_key : k.key = n.key
    · rcases h_fields with h_same | h_new
      · rw [h_key, h_same, ← h_key] at h_null
        exact h_old h_null
      · exact h_new k f set h_k h_kind h_key (h_key ▸ h_null)
    · rw [h_others _ h_key] at h_null
      exact h_old h_null
  case outside =>
    intro key h_key
    rw [h_others key (h_key n h_n).symm, h.outside key h_key]

/-- Draws are of no concern. -/
theorem Accounts.withDraws (h : s.Accounts Member start m) (draws : Draws) :
    s.Accounts Member start (m.withDraws draws) :=
  ⟨h.free, h.held, h.idle, fun n f set h_n h_kind h_unasked h_null => by
    obtain ⟨o, h_o⟩ := h.fields n f set h_n h_kind h_unasked h_null
    exact ⟨o, h_o.nulls, h_o.unasked, h_o.decided⟩, h.outside⟩

theorem Accounts.serve (h : s.Accounts Member start m) (h_n : Member n) (position : Int) :
    s.Accounts Member start (m.update n.key (Cell.serve position)) := by
  have h_cell := m.cell_update_self n.key (Cell.serve position)
  refine h.own h_n (Nat.le_refl _) (fun _ h_ne => m.cell_update_of_ne _ h_ne) ?_ ?_ ?_ ?_ ?_ <;>
    rw [h_cell]
  · simp
  · rw [Cell.serve_token]
    exact h.held n.key
  · simpa [Cell.Engaged] using h.idle n.key
  · simp
  · simp

theorem Accounts.served (h : s.Accounts Member start m) (h_n : Member n) (f : Field)
    (c : FieldCase) : s.Accounts Member start (m.served n.key f c) := by
  rw [Memory.served]
  split
  · exact h.serve h_n _
  · exact h

/-- A node that holds a token does not come to a computation. -/
theorem Accounts.token_none (h : s.Accounts Member start m)
    (h_token : ∀ held, (m.cell key).token = some held → m.tokens ≤ held) :
    (m.cell key).token = none := by
  cases h_some : (m.cell key).token with
  | none => rfl
  | some held => exact absurd (h.held key held h_some) (Nat.not_lt.2 (h_token held h_some))

theorem Accounts.begun (h : s.Accounts Member start m) (h_n : Member n) (c : FieldCase) :
    s.Accounts Member start (m.begun n.key n.identity c) := by
  have h_cell := m.cell_begun_self n.key n.identity c
  have h_others : ∀ other, other ≠ n.key → (m.begun n.key n.identity c).cell other = m.cell other :=
    fun _ h_ne => m.cell_begun_of_ne _ _ h_ne
  refine h.own h_n (Nat.le_succ _) h_others ?_ ?_ ?_ ?_ ?_ <;> rw [h_cell]
  · rfl
  · rintro token h_some
    obtain rfl := Option.some.inj h_some
    exact Nat.lt_succ_self _
  · exact fun h_idle => absurd (.inl (by simp [Cell.hold])) h_idle
  · exact .inl ⟨rfl, rfl⟩
  · exact .inl rfl

theorem Warranted.begun (h : s.Warranted Member start m n c) (k : Node) (c' : FieldCase) :
    s.Warranted Member start (m.begun k.key k.identity c') n c := by
  refine h.imp_right fun ⟨h_null, o, h_o⟩ => ⟨h_null, o, h_o.own (fun _ h_ne =>
    m.cell_begun_of_ne _ _ h_ne) (.inl ?_)⟩
  rw [m.cell_begun_self]
  exact ⟨rfl, rfl⟩

/-! ### One answer -/

/-- Parts account if the nodes that they lead to do. -/
theorem parts_account {links : List Link} {values : List String}
    (h_parts : s.Parts (s.Accounting Member start) c links m values m')
    (h_links : ∀ link ∈ links, ∀ n, s.target? link = some n → Member n)
    (h_c : c = .normal ∨ c = .null ∧ ∃ o, ∀ link ∈ links, ∀ n, s.target? link = some n →
      s.Skips Member start m o n) (h : s.Accounts Member start m) :
    s.Accounts Member start m' ∧ m.Upholds m' := by
  induction h_parts with
  | nil => exact ⟨h, .refl _⟩
  | @cons link links n m v m' values m'' h_target h_ask _ ih =>
    have h_n := h_links link List.mem_cons_self n h_target
    have h_warranted : s.Warranted Member start m n c :=
      h_c.imp_right fun ⟨h_null, o, h_o⟩ => ⟨h_null, o, h_o link List.mem_cons_self n h_target⟩
    obtain ⟨h', h_upholds⟩ := h_ask h_n h_warranted h
    obtain ⟨h'', h_upholds'⟩ := ih (fun l h_l => h_links l (List.mem_cons_of_mem _ h_l))
      (h_c.imp_right fun ⟨h_null, o, h_o⟩ => ⟨h_null, o, fun l h_l n h_n =>
        (h_o l (List.mem_cons_of_mem _ h_l) n h_n).upheld h h_upholds⟩) h'
    exact ⟨h'', h_upholds.trans h_upholds'⟩

/-- A rule accounts if the node that it names does. -/
theorem rules_account {rule : Config.Mandatory} {mandatory : Bool}
    (h_rules : s.Rules (s.Accounting Member start) rule m mandatory m')
    (h_rule : ∀ id, rule = .whenPresent id → ∀ n, s.nodes.get? id = some n → Member n)
    (h : s.Accounts Member start m) : s.Accounts Member start m' ∧ m.Upholds m' := by
  cases h_rules with
  | ignoring _ | fixed _ => exact ⟨h, .refl _⟩
  | whenPresent _ h_target h_ask => exact h_ask (h_rule _ rfl _ h_target) (.inl rfl) h

/-- A field generates a text, whatever the case. -/
theorem Generates.ne_none {R : Asking} {f : Field} {set : CharacterSet}
    (h_kind : n.kind = .field f set) (h_generates : s.Generates R n c m v m') : v ≠ none := by
  cases h_generates with
  | field _ _ _ => exact Option.some_ne_none _
  | constantNull h | constantBlank h | constant h | combined h | optionalNull h
  | optionalExplicit h | optionalDecided h | source h =>
    rw [h_kind] at h
    cases h

section Answer

variable (h_closed : s.Closed Member)
include h_closed

/-- A node that is not optional passes requests for null on. -/
theorem generates_account (h_n : Member n) (h_kind : n.kind.isOptional = false)
    (h_generates : s.Generates (s.Accounting Member start) n c m v m')
    (h_c : s.Warranted Member start m n c) (h : s.Accounts Member start m) :
    s.Accounts Member start m' ∧ m.Upholds m' := by
  have h_link : ∀ link ∈ n.kind.links, ∀ n', s.target? link = some n' → Member n' :=
    fun link h_link n' h_target => h_closed n n' h_n (.inl ⟨link, h_link, h_target⟩)
  -- Whoever nulls the node nulls its parts as well, so they inherit its warrant.
  have h_passed : ∀ link ∈ n.kind.links, ∀ n', s.target? link = some n' → ∀ o,
      s.Skips Member start m o n → s.Skips Member start m o n' :=
    fun link h_link n' h_target o h_o =>
      ⟨h_o.nulls.part h_kind h_link h_target, h_o.unasked, h_o.decided⟩
  cases h_generates with
  | constantNull _ | constantBlank _ => exact ⟨h, .refl m⟩
  | constant _ _ _ => exact ⟨h.serve h_n 0, .serve m n.key 0⟩
  | field _ h_served _ =>
    rw [h_served]
    exact ⟨(h.served h_n _ _).withDraws _, (Memory.Upholds.served m n.key _ _).withDraws _⟩
  | combined h_combined h_parts =>
    rw [h_combined] at h_link h_passed
    exact parts_account h_parts h_link (h_c.imp_right fun ⟨h_null, o, h_o⟩ =>
      ⟨h_null, o, fun link h_l n' h_target => h_passed link h_l n' h_target o h_o⟩) h
  | optionalNull h_optional | optionalExplicit h_optional | optionalDecided h_optional =>
    rw [h_optional] at h_kind
    cases h_kind
  | @source child _ _ _ _ _ h_source h_target h_ask =>
    rw [h_source] at h_link h_passed
    have h_child : child ∈ (NodeKind.source child).links := List.mem_singleton_self _
    exact h_ask (h_link _ h_child _ h_target) (h_c.imp_right fun ⟨h_null, o, h_o⟩ =>
      ⟨h_null, o, h_passed _ h_child _ h_target o h_o⟩) h

/-- **An optional node** that is asked first decides once, and if it skips its child the request for
null comes from it. -/
theorem optional_accounts (h_n : Member n) {child : Link} {rule : Config.Mandatory}
    (h_kind : n.kind = .optional child rule)
    (h_generates : s.Generates (s.Accounting Member start) n c m v m')
    (h_c : s.Warranted Member start m n c) (h_token : (m.cell n.key).token ≠ none)
    (h_unasked : (start.cell n.key).cache = none)
    (h_choice : (m.cell n.key).choice = (start.cell n.key).choice)
    (h : s.Accounts Member start m) : s.Accounts Member start m' ∧
      ∀ key, key ≠ n.key → (m.cell key).Upheld (m'.cell key) := by
  cases h_generates with
  | optionalNull _ => exact ⟨h, fun _ _ => .refl _⟩
  | optionalExplicit _ h_null h_normal =>
    rcases h_c with h_c | ⟨h_c, -⟩
    · exact absurd h_c h_normal
    · exact absurd h_c h_null
  | @optionalDecided child' rule' _ n' present m₂ _ _ h_kind' h_target h_decides h_ask =>
    rw [h_kind] at h_kind'
    cases h_kind'
    obtain ⟨m₁, mandatory, h_rules, h_others, h_override, h_cache, h_decided, h_skip, h_same,
      h_tokens⟩ := decided_of_decides h_decides
    -- while the rule is heard, the node holds its token and its choice stays as it is
    obtain ⟨h₁, h_upholds₁⟩ := rules_account h_rules (by
      rintro id rfl k h_get
      exact h_closed n k h_n (.inr ⟨id, by rw [h_kind]; rfl, h_get⟩)) h
    have h_engaged := (h_upholds₁ n.key).engaged (.inl h_token)
    have h_choice₁ : (m₁.cell n.key).choice = (start.cell n.key).choice :=
      ((h_upholds₁ n.key).choice (.inl h_token)).1.trans h_choice
    have h₂ : s.Accounts Member start m₂ := by
      refine h₁.own h_n (Nat.le_of_eq h_tokens.symm) h_others h_override ?_ (fun h_idle => ?_)
        (.inr h_choice₁) (.inl h_cache)
      · rw [h_same, h_tokens]
        exact h₁.held n.key
      · refine absurd ?_ h_idle
        rw [Cell.Engaged, h_same, h_cache]
        exact h_engaged
    -- the child is asked for what was decided
    have h_warranted : s.Warranted Member start m₂ n' (if present then .normal else .null) := by
      cases present with
      | true => exact .inl rfl
      | false =>
        have h_nulls : s.Nulls Member n n' := .child h_n h_kind (h_skip rfl) h_target
        exact .inr ⟨rfl, n, h_nulls, h_unasked, child, rule, h_kind,
          h_decided.congr h_choice₁ rfl rfl⟩
    have h_n' : Member n' :=
      h_closed n n' h_n (.inl ⟨child, by rw [h_kind]; exact List.mem_singleton_self _, h_target⟩)
    obtain ⟨h', h_upholds₂⟩ := h_ask h_n' h_warranted h₂
    refine ⟨h', fun key h_ne => (h_upholds₁ key).trans ?_⟩
    rw [← h_others key h_ne]
    exact h_upholds₂ key
  | constantNull h' | constantBlank h' | constant h' | field h' | combined h' | source h' =>
    rw [h_kind] at h'
    cases h'

/-- Constants and sources give back their token. -/
theorem stateless_accounts (h_n : Member n) (h_kind : n.kind.isStateless = true)
    (h_token : (m.cell n.key).token = none) (h_generates : s.Generates (s.Accounting Member start)
      n c (m.begun n.key n.identity c) v m₁) (h_c : s.Warranted Member start m n c)
    (h : s.Accounts Member start m) : s.Accounts Member start (m₁.update n.key Cell.release) ∧
      m.Upholds (m₁.update n.key Cell.release) := by
  have h_optional : n.kind.isOptional = false := by
    revert h_kind
    cases n.kind <;> simp [NodeKind.isStateless, NodeKind.isOptional]
  obtain ⟨h₁, h_upholds⟩ := generates_account h_closed h_n h_optional h_generates
    (h_c.begun n c) (h.begun h_n c)
  -- what was kept before is kept still, and nothing was decided
  have h_own := h_upholds n.key
  rw [m.cell_begun_self] at h_own
  obtain ⟨h_choice, h_decision⟩ := h_own.choice (.inl (by simp [Cell.hold]))
  have h_cell := m₁.cell_update_self n.key Cell.release
  have h_others : ∀ other, other ≠ n.key →
      (m₁.update n.key Cell.release).cell other = m₁.cell other :=
    fun _ h_ne => m₁.cell_update_of_ne _ h_ne
  refine ⟨h₁.own h_n (Nat.le_refl _) h_others ?_ ?_ ?_ ?_ ?_, fun key => ?_⟩
  · rw [h_cell]; rfl
  · rw [h_cell]
    exact nofun
  · rw [h_cell]
    intro h_idle
    have h_before : ¬ (m.cell n.key).Engaged := by
      rintro (h_some | h_some)
      · exact h_some h_token
      · exact h_idle (.inr (h_own.cache h_some))
    obtain ⟨h_unasked, h_same⟩ := h.idle n.key h_before
    exact ⟨h_unasked, h_choice.trans h_same⟩
  · rw [h_cell]
    exact .inl ⟨rfl, rfl⟩
  · rw [h_cell]
    exact .inl rfl
  · by_cases h_key : key = n.key
    · rw [h_key, h_cell]
      exact ⟨h_token.symm, h_own.cache, fun _ => ⟨h_choice, h_decision⟩⟩
    · rw [h_others key h_key, ← m.cell_begun_of_ne n.identity c h_key]
      exact h_upholds key

/-- A node that keeps its value computes it once, and the other nodes are as they were asked. -/
theorem computes_accounts (h_n : Member n) (h_idle : ¬ (m.cell n.key).Engaged)
    (h_generates : s.Generates (s.Accounting Member start) n c (m.begun n.key n.identity c) v m₁)
    (h_c : s.Warranted Member start m n c) (h : s.Accounts Member start m) :
    s.Accounts Member start m₁ ∧ ∀ key, key ≠ n.key → (m.cell key).Upheld (m₁.cell key) := by
  have h_others : ∀ key, key ≠ n.key → (m.begun n.key n.identity c).cell key = m.cell key :=
    fun _ h_ne => m.cell_begun_of_ne _ _ h_ne
  by_cases h_optional : ∃ child rule, n.kind = .optional child rule
  · obtain ⟨child, rule, h_kind⟩ := h_optional
    obtain ⟨h_unasked, h_choice⟩ := h.idle n.key h_idle
    have h_begun := m.cell_begun_self n.key n.identity c
    obtain ⟨h₁, h_upheld⟩ := optional_accounts h_closed h_n h_kind h_generates (h_c.begun n c)
      (by rw [h_begun]; simp [Cell.hold]) h_unasked (by rw [h_begun]; exact h_choice)
      (h.begun h_n c)
    exact ⟨h₁, fun key h_ne => h_others key h_ne ▸ h_upheld key h_ne⟩
  · have h_kind : n.kind.isOptional = false := by
      generalize n.kind = kind at h_optional
      cases kind with
      | optional child rule => exact absurd ⟨child, rule, rfl⟩ h_optional
      | constant _ | field _ _ | combined _ _ | source _ => rfl
    obtain ⟨h₁, h_upholds⟩ := generates_account h_closed h_n h_kind h_generates (h_c.begun n c)
      (h.begun h_n c)
    exact ⟨h₁, fun key h_ne => h_others key h_ne ▸ h_upholds key⟩

/-- It then gives back its token and keeps what the request makes of the value. -/
theorem kept_accounts (h_unique : ∀ n n', Member n → Member n' → n.key = n'.key → n = n')
    (h_n : Member n) (h_token : (m.cell n.key).token = none) (h_cache : (m.cell n.key).cache = none)
    (h_generates : s.Generates (s.Accounting Member start) n c (m.begun n.key n.identity c) v m₁)
    (h_c : s.Warranted Member start m n c) (h : s.Accounts Member start m) :
    s.Accounts Member start ((m₁.update n.key Cell.release).update n.key (Cell.keep (derive c v))) ∧
      m.Upholds ((m₁.update n.key Cell.release).update n.key (Cell.keep (derive c v))) := by
  have h_idle : ¬ (m.cell n.key).Engaged := by
    rintro (h_some | h_some)
    · exact h_some h_token
    · exact h_some h_cache
  obtain ⟨h₁, h_upheld⟩ := computes_accounts h_closed h_n h_idle h_generates h_c h
  generalize h_m' : (m₁.update n.key Cell.release).update n.key (Cell.keep (derive c v)) = m'
  have h_cell : m'.cell n.key = ((m₁.cell n.key).release).keep (derive c v) := by
    rw [← h_m', Memory.cell_update_self, Memory.cell_update_self]
  have h_others : ∀ key, key ≠ n.key → m'.cell key = m₁.cell key := by
    intro key h_ne
    rw [← h_m', Memory.cell_update_of_ne _ _ h_ne, Memory.cell_update_of_ne _ _ h_ne]
  have h_tokens : m₁.tokens = m'.tokens := by rw [← h_m']; rfl
  have h_rest : ∀ key, key ≠ n.key → (m.cell key).Upheld (m'.cell key) :=
    fun key h_ne => h_others key h_ne ▸ h_upheld key h_ne
  refine ⟨h₁.own h_n (Nat.le_of_eq h_tokens) h_others ?_ ?_ ?_ ?_ (.inr ?_), fun key => ?_⟩
  · rw [h_cell]; rfl
  · rw [h_cell]
    exact nofun
  · rw [h_cell]
    exact fun h_idle => absurd (.inr (by simp [Cell.keep])) h_idle
  · rw [h_cell]
    exact .inl ⟨rfl, rfl⟩
  · intro k f set h_k h_kind h_key h_null
    obtain rfl := h_unique k n h_k h_n h_key
    rw [h_cell] at h_null
    obtain ⟨t, rfl⟩ := Option.ne_none_iff_exists'.1 (h_generates.ne_none h_kind)
    -- the text of the field is lost only if the request was for null
    rcases h_c with rfl | ⟨rfl, o, h_o⟩
    · cases h_null
    · have h_ne : o.key ≠ k.key := fun h_eq => h_idle (h_eq ▸ h_o.engaged h)
      obtain ⟨child, rule, h_optional, h_decided⟩ := h_o.decided
      obtain ⟨h_choice, h_decision⟩ := (h_rest o.key h_ne).choice (h_o.engaged h)
      exact ⟨o, h_o.nulls, h_o.unasked, child, rule, h_optional,
        h_decided.congr rfl h_choice h_decision⟩
  · by_cases h_key : key = n.key
    · rw [h_key, h_cell]
      exact ⟨h_token.symm, fun h_some => absurd h_cache h_some, fun h_some => absurd h_some h_idle⟩
    · exact h_rest key h_key

/-- **One answer.** -/
theorem answers_account (h_unique : ∀ n n', Member n → Member n' → n.key = n'.key → n = n')
    (n : Node) (c : FieldCase) (m : Memory) (v : Option String) (m' : Memory)
    (h_answers : s.Answers (s.Accounting Member start) n c m v m') :
    s.Accounting Member start n c m v m' := by
  intro h_n h_c h
  have h_computed : c.computed = c := by
    rcases h_c with rfl | ⟨rfl, -⟩ <;> rfl
  cases h_answers with
  | overridden h_some =>
    rw [h.free] at h_some
    cases h_some
  | stateless _ h_kind h_computes =>
    obtain ⟨h_held, h_generates⟩ := h_computes
    exact stateless_accounts h_closed h_n h_kind (h.token_none h_held) h_generates h_c h
  | remembered _ _ _ => exact ⟨h, .refl m⟩
  | computed _ _ h_cache h_computes =>
    rw [h_computed] at h_computes
    obtain ⟨h_held, h_generates⟩ := h_computes
    exact kept_accounts h_closed h_unique h_n (h.token_none h_held) h_cache h_generates h_c h

end Answer

end Scope

/-- **Values account for nulls.** However deep requests nest, a field that has come to keep null
when a value is answered owes it to an optional node that has skipped its child meanwhile. -/
theorem Node.value_accounts {s : Scope} {Member : Node → Prop} {start : Memory}
    (h_closed : s.Closed Member) (h_unique : ∀ n n', Member n → Member n' → n.key = n'.key → n = n')
    (h_token : ∀ key, (start.cell key).token = none)
    (h_free : ∀ key, (start.cell key).override = none) (fuel : Nat) {n : Node} (h_n : Member n) :
    Ends (n.value s fuel .normal) start (fun _ m' => s.Accounts Member start m') Anyhow :=
  (Node.value_induction (Scope.answers_account h_closed h_unique) fuel n .normal start).mono
    (fun _ _ h_v => (h_v h_n (.inl rfl) (Scope.accounts_start h_token h_free)).1)
    fun _ _ _ => trivial

end Specimen
