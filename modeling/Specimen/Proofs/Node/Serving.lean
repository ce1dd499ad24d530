import Specimen.Proofs.Node.Guard

/-!
# How a pass serves fields

In a pass without a case of its own every request is for a normal value or for null. A field that is
asked for a value first serves the first boundary that is pending, and one that is asked for null
first serves none; later requests of the pass change nothing any more (`Field.Passes`). So no
boundary counts as served unless a text for it is the value of the pass.

`Node.value_passes` says so of single requests. When a field is served in one pass after the other,
the boundaries come up in their order (`pendingCase?_of_served`).
-/

namespace Specimen

/-- What a pass without a case of its own makes of the cell of a field. -/
inductive Field.Passes (f : Field) (set : CharacterSet) (before after : Cell) : Prop where
  /-- The field was not asked yet. -/
  | unasked (h_cache : after.cache = none) (h_served : after.served = before.served)
  /-- The field was asked for null first. -/
  | nulled (h_cache : after.cache = some none) (h_served : after.served = before.served)
  /-- The field has a text for the first boundary that was pending. -/
  | served {c t draws} (h_pending : pendingCase? f before.served = some c)
    (h_text : (f.generate c set draws).1 = .ok t) (h_cache : after.cache = some (some t))
    (h_served : ∀ p, p ∈ after.served ↔ p = f.position c ∨ p ∈ before.served)
  /-- No boundary was pending, and the field has a text for none. -/
  | drawn {t draws} (h_pending : pendingCase? f before.served = none)
    (h_text : (f.generate .normal set draws).1 = .ok t) (h_cache : after.cache = some (some t))
    (h_served : after.served = before.served)

namespace Field.Passes

variable {f : Field} {set : CharacterSet} {before before' after after' : Cell}

/-- Only what is kept and what was served makes a difference. -/
theorem congr (h : f.Passes set before after) (h_before : before'.served = before.served)
    (h_cache : after'.cache = after.cache) (h_served : after'.served = after.served) :
    f.Passes set before' after' := by
  cases h with
  | unasked h_none h_same =>
    exact .unasked (h_cache.trans h_none) (by rw [h_served, h_same, h_before])
  | nulled h_null h_same =>
    exact .nulled (h_cache.trans h_null) (by rw [h_served, h_same, h_before])
  | served h_pending h_text h_some h_more =>
    refine .served (h_before ▸ h_pending) h_text (h_cache.trans h_some) fun p => ?_
    rw [h_served, h_more, h_before]
  | drawn h_pending h_text h_some h_same =>
    exact .drawn (h_before ▸ h_pending) h_text (h_cache.trans h_some)
      (by rw [h_served, h_same, h_before])

/-- **No boundary without its text.** If a boundary is newly served, the value of the pass is a text
for it. -/
theorem exists_text (h : f.Passes set before after) {p : Int} (h_before : p ∉ before.served)
    (h_after : p ∈ after.served) : ∃ c t draws, pendingCase? f before.served = some c ∧
      f.position c = p ∧ (f.generate c set draws).1 = .ok t ∧ after.cache = some (some t) := by
  cases h with
  | unasked _ h_same | nulled _ h_same | drawn _ _ _ h_same =>
    exact absurd (h_same ▸ h_after) h_before
  | @served c t draws h_pending h_text h_some h_more =>
    refine ⟨c, t, draws, h_pending, ?_, h_text, h_some⟩
    exact (((h_more p).1 h_after).resolve_right h_before).symm

/-- What becomes of the cell of a field that was not asked before and has generated a text. -/
theorem kept {c : FieldCase} {cell : Cell} {t : String} {draws : Draws}
    (h_c : c = .normal ∨ c = .null) (h_cell : cell.served = before.served)
    (h_text : (f.generate (f.caseFor before.served c) set draws).1 = .ok t) :
    f.Passes set before (((if (f.caseFor before.served c).isBoundary = true then
      cell.serve (f.position (f.caseFor before.served c)) else cell).release).keep
        (derive c (some t))) := by
  -- a request for a value serves what is pending, and one for null serves nothing
  rcases h_c with rfl | rfl
  · cases h_pending : pendingCase? f before.served with
    | none =>
      have h_case : f.caseFor before.served .normal = .normal := by
        rw [Field.caseFor, h_pending]; rfl
      rw [h_case] at h_text ⊢
      exact .drawn h_pending h_text rfl h_cell
    | some c =>
      have h_case : f.caseFor before.served .normal = c := by
        rw [Field.caseFor, h_pending]; rfl
      rw [h_case] at h_text ⊢
      rw [if_pos (of_pendingCase? h_pending).2.2]
      refine .served h_pending h_text rfl fun p => ?_
      rw [← h_cell]
      exact Cell.mem_served_serve
  · exact .nulled rfl h_cell

end Field.Passes

/-! ### Requests in a pass -/

/-- What a pass has made of all fields among some nodes from one memory to another. -/
def Memory.FieldsPass (before : Memory) (Member : Node → Prop) (m : Memory) : Prop :=
  ∀ n f set, Member n → n.kind = .field f set → f.Passes set (before.cell n.key) (m.cell n.key)

section Requests

variable {s : Scope} {Member : Node → Prop} {before m m' : Memory} {n : Node} {c : FieldCase}
  {v : Option String}

namespace Memory.FieldsPass

theorem of_cells (h : before.FieldsPass Member m) (h_cells : ∀ key,
    (m'.cell key).cache = (m.cell key).cache ∧ (m'.cell key).served = (m.cell key).served) :
    before.FieldsPass Member m' :=
  fun n f set h_n h_kind => (h n f set h_n h_kind).congr rfl (h_cells n.key).1 (h_cells n.key).2

/-- A change of a cell that concerns neither what is kept nor what was served. -/
theorem update (h : before.FieldsPass Member m) (key : Nat) {change : Cell → Cell}
    (h_change : ∀ cell, (change cell).cache = cell.cache ∧ (change cell).served = cell.served) :
    before.FieldsPass Member (m.update key change) :=
  h.of_cells fun _ => ⟨Memory.cell_update_keeps Cell.cache change (fun c => (h_change c).1) ..,
    Memory.cell_update_keeps Cell.served change (fun c => (h_change c).2) ..⟩

theorem begun (h : before.FieldsPass Member m) (n : Node) (c : FieldCase) :
    before.FieldsPass Member (m.begun n.key n.identity c) := by
  have h_next : before.FieldsPass Member m.nextToken := h
  have h_hold : before.FieldsPass Member (m.nextToken.update n.key (Cell.hold m.tokens)) :=
    h_next.update n.key fun _ => ⟨rfl, rfl⟩
  exact h_hold

/-- What a node that is no field does to its own cell is of no concern. -/
theorem own (h : before.FieldsPass Member m)
    (h_unique : ∀ n n', Member n → Member n' → n.key = n'.key → n = n') (h_n : Member n)
    (h_kind : ∀ f set, n.kind ≠ .field f set)
    (h_others : ∀ key, key ≠ n.key → m'.cell key = m.cell key) : before.FieldsPass Member m' := by
  -- a field has another key than a node that is none
  intro k f set h_k h_field
  have h_ne : k.key ≠ n.key := by
    intro h_key
    obtain rfl := h_unique k n h_k h_n h_key
    exact h_kind f set h_field
  rw [h_others k.key h_ne]
  exact h k f set h_k h_field

end Memory.FieldsPass

/-- A request of a pass that is answered keeps what the pass has made of the fields. -/
abbrev Scope.KeepsPassing (Member : Node → Prop) (before : Memory) : Asking := fun n c m _ m' =>
  Member n → c = .normal ∨ c = .null → before.FieldsPass Member m → before.FieldsPass Member m'

namespace Scope

/-- Parts pass if the nodes that they lead to do. -/
theorem parts_pass {links : List Link} {values : List String}
    (h_parts : s.Parts (KeepsPassing Member before) c links m values m')
    (h_links : ∀ link ∈ links, ∀ n, s.target? link = some n → Member n)
    (h_c : c = .normal ∨ c = .null) (h : before.FieldsPass Member m) :
    before.FieldsPass Member m' := by
  induction h_parts with
  | nil => exact h
  | @cons link links n _ _ _ _ _ h_target h_ask _ ih =>
    refine ih (fun l h_l => h_links l (List.mem_cons_of_mem _ h_l)) ?_
    exact h_ask (h_links link List.mem_cons_self n h_target) h_c h

/-- A rule passes if the node that it names does. -/
theorem rules_pass {rule : Config.Mandatory} {mandatory : Bool}
    (h_rules : s.Rules (KeepsPassing Member before) rule m mandatory m')
    (h_rule : ∀ id, rule = .whenPresent id → ∀ n, s.nodes.get? id = some n → Member n)
    (h : before.FieldsPass Member m) : before.FieldsPass Member m' := by
  cases h_rules with
  | ignoring _ | fixed _ => exact h
  | whenPresent _ h_target h_ask => exact h_ask (h_rule _ rfl _ h_target) (.inl rfl) h

variable (h_closed : s.Closed Member)
  (h_unique : ∀ n n', Member n → Member n' → n.key = n'.key → n = n')
include h_closed h_unique

/-- A node that is no field passes if the nodes that it asks do. -/
theorem generates_pass (h_n : Member n) (h_kind : ∀ f set, n.kind ≠ .field f set)
    (h_c : c = .normal ∨ c = .null)
    (h_generates : s.Generates (KeepsPassing Member before) n c m v m')
    (h : before.FieldsPass Member m) : before.FieldsPass Member m' := by
  have h_link : ∀ link ∈ n.kind.links, ∀ n', s.target? link = some n' → Member n' :=
    fun link h_link n' h_target => h_closed n n' h_n (.inl ⟨link, h_link, h_target⟩)
  cases h_generates with
  | constantNull _ | constantBlank _ | optionalNull _ => exact h
  | constant _ _ _ =>
    exact h.own h_unique h_n h_kind fun key h_ne => Memory.cell_update_of_ne _ _ h_ne
  | field h_field _ _ => exact absurd h_field (h_kind _ _)
  | combined h_combined h_parts =>
    rw [h_combined] at h_link
    exact parts_pass h_parts h_link h_c h
  | optionalExplicit h_optional _ _ h_target h_ask =>
    rw [h_optional] at h_link
    exact h_ask (h_link _ (List.mem_singleton_self _) _ h_target) h_c h
  | @optionalDecided child rule _ child' present m₁ _ _ h_optional h_target h_decides h_ask =>
    rw [h_optional] at h_link
    have h_rule : ∀ id, rule = .whenPresent id → ∀ n', s.nodes.get? id = some n' → Member n' := by
      rintro id rfl n' h_get
      exact h_closed n n' h_n (.inr ⟨id, by rw [h_optional]; rfl, h_get⟩)
    -- deciding changes only the cell of the optional node
    have h_decided : before.FieldsPass Member m₁ := by
      cases h_decides with
      | mandatory h_rules =>
        exact (rules_pass h_rules h_rule h).update n.key fun _ => ⟨rfl, rfl⟩
      | chosen h_rules _ =>
        refine Memory.FieldsPass.update ?_ n.key fun _ => ⟨rfl, rfl⟩
        exact (rules_pass h_rules h_rule h).update n.key fun _ => ⟨rfl, rfl⟩
    refine h_ask (h_link _ (List.mem_singleton_self _) _ h_target) ?_ h_decided
    cases present with
    | true => exact .inl rfl
    | false => exact .inr rfl
  | source h_source h_target h_ask =>
    rw [h_source] at h_link
    exact h_ask (h_link _ (List.mem_singleton_self _) _ h_target) h_c h

omit h_closed in
/-- **A field that is asked for the first time** has one of the outcomes of a pass. -/
theorem field_passes {R : Asking} {f : Field} {set : CharacterSet} (h_n : Member n)
    (h_kind : n.kind = .field f set) (h_c : c = .normal ∨ c = .null)
    (h_cache : (m.cell n.key).cache = none) (h_computes : s.Computes R n c m v m')
    (h : before.FieldsPass Member m) :
    before.FieldsPass Member (m'.update n.key (Cell.keep (derive c v))) := by
  obtain ⟨-, h_generates⟩ := h_computes
  cases h_generates with
  | constantNull h' | constantBlank h' | constant h' | combined h' | optionalNull h'
  | optionalExplicit h' | optionalDecided h' | source h' => rw [h_kind] at h'; cases h'
  | @field f' set' _ _ served text draws h' h_served h_text =>
    rw [h_kind] at h'
    cases h'
    have h_before : (m.cell n.key).served = (before.cell n.key).served := by
      cases h n f set h_n h_kind with
      | unasked _ h_same => exact h_same
      | nulled h_some _ | served _ _ h_some _ | drawn _ _ h_some _ =>
        rw [h_cache] at h_some
        cases h_some
    rw [Memory.cell_begun_self, Cell.hold, h_before] at h_served h_text
    -- the field itself has served what it has a text for, and the others are as before
    intro k f' set' h_k h_field
    by_cases h_key : k.key = n.key
    · obtain rfl := h_unique k n h_k h_n h_key
      rw [h_kind] at h_field
      cases h_field
      have h_text' : (f.generate (f.caseFor (before.cell k.key).served c) set
        (m.begun k.key k.identity c).draws).1 = .ok text := by rw [h_text]
      rw [Memory.cell_update_self, Memory.cell_update_self, Memory.cell_withDraws, h_served,
        Memory.cell_served, Memory.cell_begun_self]
      simp only [true_and]
      exact .kept h_c h_before h_text'
    · rw [Memory.cell_update_of_ne _ _ h_key, Memory.cell_update_of_ne _ _ h_key,
        Memory.cell_withDraws, h_served, Memory.cell_served, if_neg (fun h_and => h_key h_and.1),
        Memory.cell_begun_of_ne _ _ _ h_key]
      exact h k f' set' h_k h_field

/-- **One answer.** -/
theorem answers_pass (n : Node) (c : FieldCase) (m : Memory) (v : Option String) (m' : Memory)
    (h_answers : s.Answers (KeepsPassing Member before) n c m v m') :
    KeepsPassing Member before n c m v m' := by
  intro h_n h_c h
  have h_computed : c.computed = c := by
    rcases h_c with rfl | rfl <;> rfl
  -- holding a token is of no concern
  have h_computes : (∀ f set, n.kind ≠ .field f set) → ∀ {v m'},
      s.Computes (KeepsPassing Member before) n c m v m' → before.FieldsPass Member m' := by
    rintro h_kind v _ ⟨-, h_generates⟩
    exact (generates_pass h_closed h_unique h_n h_kind h_c h_generates (h.begun n c)).update n.key
      fun _ => ⟨rfl, rfl⟩
  cases h_answers with
  | overridden _ => exact h.update n.key fun _ => ⟨rfl, rfl⟩
  | stateless _ h_stateless h_c' =>
    refine h_computes (fun f set h_kind => ?_) h_c'
    rw [h_kind] at h_stateless
    cases h_stateless
  | remembered _ _ _ => exact h
  | computed _ _ h_cache h_c' =>
    rw [h_computed] at h_c'
    by_cases h_field : ∃ f set, n.kind = .field f set
    · obtain ⟨f, set, h_kind⟩ := h_field
      exact field_passes h_unique h_n h_kind h_c h_cache h_c' h
    · have h_kind : ∀ f set, n.kind ≠ .field f set := fun f set h_kind => h_field ⟨f, set, h_kind⟩
      exact (h_computes h_kind h_c').own h_unique h_n h_kind fun key h_ne =>
        Memory.cell_update_of_ne _ _ h_ne

end Scope

end Requests

/-- **Values pass.** However deep requests nest, what an answer has made of the fields is what a
pass makes of them. -/
theorem Node.value_passes {s : Scope} {Member : Node → Prop} {before m : Memory}
    (h_closed : s.Closed Member) (h_unique : ∀ n n', Member n → Member n' → n.key = n'.key → n = n')
    (h : before.FieldsPass Member m) (fuel : Nat) {n : Node} (h_n : Member n) {c : FieldCase}
    (h_c : c = .normal ∨ c = .null) :
    Ends (n.value s fuel c) m (fun _ m' => before.FieldsPass Member m') Anyhow :=
  (Node.value_induction (Scope.answers_pass h_closed h_unique) fuel n c m).mono
    (fun _ _ h_v => h_v h_n h_c h) fun _ _ _ => trivial

/-- A node that keeps its value has kept what it answers to a request without a case. -/
theorem Node.ends_value_kept_normal {s : Scope} {n : Node} {m : Memory}
    (h_free : (m.cell n.key).override = none) (fuel : Nat) : Ends (n.value s fuel .normal) m
      (fun v m' => n.kind.isStateless = false → (m'.cell n.key).cache = some v) Anyhow := by
  cases fuel with
  | zero => exact trivial
  | succ fuel =>
    -- what the other nodes answer is of no interest
    have h_ask : ∀ (n' : Node) c m, Ends (n'.value s fuel c) m (fun _ _ => True) Anyhow :=
      fun _ _ _ => ends_true_iff.2 fun _ _ _ => trivial
    refine (Node.ends_answer (R := fun _ _ _ _ _ => True) h_ask n .normal m).mono
      (fun v m' h_answers h_kind => ?_) fun _ _ _ => trivial
    cases h_answers with
    | overridden h_override =>
      rw [h_free] at h_override
      cases h_override
    | stateless _ h_stateless _ =>
      rw [h_kind] at h_stateless
      cases h_stateless
    | remembered _ _ h_cache => exact h_cache
    | computed _ _ _ _ =>
      rw [Memory.cell_update_self]
      rfl

/-! ### Boundaries in their order -/

/-- A field whose first boundaries were served serves the next one. -/
theorem pendingCase?_of_served {f : Field} {served : List Int} {k : Nat}
    (h : ∀ p, p ∈ served ↔ p ∈ (f.boundaries.take k).map (·.2)) :
    pendingCase? f served = (f.boundaries[k]?).map (·.1) := by
  have h_ascending := f.boundaries_ascending
  rw [← List.take_append_drop k f.boundaries, List.pairwise_append] at h_ascending
  obtain ⟨-, -, h_below⟩ := h_ascending
  have h_first : ∀ b ∈ f.boundaries.take k, ¬ (!served.contains b.2) = true := by
    intro b h_b
    have h_served : b.2 ∈ served := (h b.2).2 (List.mem_map_of_mem h_b)
    simpa using h_served
  -- the positions of the others are higher than all that were served
  have h_rest : ∀ b ∈ f.boundaries.drop k, (!served.contains b.2) = true := by
    intro b h_b
    have h_not : b.2 ∉ served := by
      intro h_served
      obtain ⟨b', h_b', h_eq⟩ := List.mem_map.1 ((h b.2).1 h_served)
      have h_lt := h_below b' h_b' b h_b
      omega
    simpa using h_not
  have h_find : f.boundaries.find? (fun b => !served.contains b.2) = f.boundaries[k]? := by
    calc f.boundaries.find? (fun b => !served.contains b.2)
      _ = (f.boundaries.take k ++ f.boundaries.drop k).find? (fun b => !served.contains b.2) := by
        rw [List.take_append_drop]
      _ = (f.boundaries.drop k).find? (fun b => !served.contains b.2) := by
        rw [List.find?_append, List.find?_eq_none.2 h_first, Option.none_or]
      _ = (f.boundaries.drop k).head? := by
        cases h_drop : f.boundaries.drop k with
        | nil => rfl
        | cons b bs =>
          exact List.find?_cons_of_pos (h_rest b (by rw [h_drop]; exact List.mem_cons_self))
      _ = f.boundaries[k]? := List.head?_drop
  rw [pendingCase?, h_find]

end Specimen
