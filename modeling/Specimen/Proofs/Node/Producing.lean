import Specimen.Node.Reset
import Specimen.Proofs.Field
import Specimen.Proofs.Node.Looking

/-!
# Boundaries and what was answered

A field counts the position of a boundary as served as soon as it sets out to compute a text for it,
and whoever asked for the text blanks it afterwards if it was asked for blanks. So a boundary that
counts as served was given in an answer, with two exceptions (`Field.Accounts`): if a pass begins
with a request for blanks, the standard boundary counts as served although nobody has seen it, and a
request that breaks off has served its boundary without an answer.

This is so in every history of a field since it began its cases anew
(`Scope.History.accounted_of_exhausted`), and the first exception is real
(`Scope.History.exhausted_unseen`).
-/

namespace Specimen

/-- A request that was made to a node, and its result. -/
structure Inquiry where
  asked : FieldCase
  result : Except Failure (Option String)

/-- What has happened to a node since it began its cases anew: passes began, it was asked for
values, and other things went on that left its cell alone. The requests to it are listed, the first
one first. -/
inductive Scope.History (s : Scope) (n : Node) : List Inquiry → Memory → Prop where
  | restart {m : Memory} (h_override : (m.cell n.key).override = none)
    (h_token : (m.cell n.key).token = none) : History s n [] (m.resetCases n)
  | pass {past : List Inquiry} {m : Memory} (h : History s n past m) :
    History s n past (m.resetValues n)
  | request {past : List Inquiry} {m : Memory} (h : History s n past m) (fuel : Nat)
    (c : FieldCase) : History s n (past ++ [⟨c, (n.value s (fuel + 1) c m).1⟩])
      (n.value s (fuel + 1) c m).2
  | elsewhere {past : List Inquiry} {m m' : Memory} (h : History s n past m)
    (h_cell : m'.cell n.key = m.cell n.key) : History s n past m'

/-- Why a position of a field counts as served after a request. -/
inductive Field.Accounts (f : Field) (p : Int) : Inquiry → Prop where
  /-- A text at a boundary with this position was answered. -/
  | produced {c b : FieldCase} {t : String} (h_blank : c ≠ .blank) (h_null : c ≠ .null)
    (h_position : f.position b = p) (h_shows : f.Shows b t) : Accounts f p ⟨c, .ok (some t)⟩
  /-- The blanks of a text at the standard boundary were answered. -/
  | blanked {t : String} (h_position : f.position .standard = p) (h_shows : f.Shows .standard t) :
    Accounts f p ⟨.blank, .ok (some (Text.blanked t))⟩
  /-- The request broke off. -/
  | brokeOff {c : FieldCase} {reason : Crash} : Accounts f p ⟨c, .error (.crash reason)⟩

/-! ### One request -/

section Request

variable {s : Scope} {n : Node} {f : Field} {set : CharacterSet} {m : Memory} {c : FieldCase}

/-- The case that a field computes a text for says what it answers with the text. -/
theorem Field.accounts_of_text {served : List Int} {t : String}
    (h_boundary : (f.caseFor served c.computed).isBoundary = true)
    (h_shows : f.Shows (f.caseFor served c.computed) t) :
    f.Accounts (f.position (f.caseFor served c.computed)) ⟨c, .ok (derive c (some t))⟩ := by
  cases c with
  | blank => exact .blanked rfl h_shows
  | null => cases h_boundary
  | normal | min | avg | max => exact .produced nofun nofun rfl h_shows

/-- A boundary is counted as served before there is a text for it, and nothing else changes. -/
theorem Memory.mem_served_served {key : Nat} {p : Int} :
    p ∈ ((m.served key f c).cell key).served ↔
      (c.isBoundary = true ∧ p = f.position c) ∨ p ∈ (m.cell key).served := by
  rw [Memory.cell_served]
  by_cases h_boundary : c.isBoundary = true <;> simp [h_boundary, Cell.mem_served_serve]

theorem Memory.override_served {key : Nat} :
    ((m.served key f c).cell key).override = (m.cell key).override := by
  rw [Memory.cell_served]
  split
  · exact Cell.serve_override _ _
  · rfl

/-- **One request** to a field that is free: what counts as served in addition is accounted for. -/
theorem Node.ends_value_accounts (h_kind : n.kind = .field f set)
    (h_override : (m.cell n.key).override = none) (h_token : (m.cell n.key).token = none)
    (fuel : Nat) (c : FieldCase) : Ends (n.value s (fuel + 1) c) m
      (fun v m' => ((m'.cell n.key).override = none ∧ (m'.cell n.key).token = none) ∧
        ∀ p ∈ (m'.cell n.key).served, p ∈ (m.cell n.key).served ∨ f.Accounts p ⟨c, .ok v⟩)
      fun e m' => ((m'.cell n.key).override = none ∧ (m'.cell n.key).token = none) ∧
        ∀ p ∈ (m'.cell n.key).served, p ∈ (m.cell n.key).served ∨ f.Accounts p ⟨c, .error e⟩ := by
  rw [Node.value, Node.answer, h_kind]
  cases h_cache : (m.cell n.key).cache with
  | some w =>
    rw [ends_cached_remembered h_override h_cache]
    exact ⟨⟨h_override, h_token⟩, fun p h_p => .inl h_p⟩
  | none =>
    rw [ends_cached h_override h_cache, ends_guarded (by simp [h_token])]
    -- while it computes, only the token of its cell is different
    have h_begun := Memory.cell_begun_self m n.key n.identity c.computed
    have h_served : ((m.begun n.key n.identity c.computed).cell n.key).served =
        (m.cell n.key).served := by rw [h_begun]; rfl
    have h_free : ((m.begun n.key n.identity c.computed).cell n.key).override = none := by
      rw [h_begun]; exact h_override
    rw [ends_fieldValue (Prod.eta _).symm, h_served]
    generalize m.begun n.key n.identity c.computed = k at h_served h_free ⊢
    refine ⟨fun t h_t => ?_, fun failure h_failure => ?_⟩
    · rw [Memory.cell_update_self, Memory.cell_update_self]
      refine ⟨⟨Memory.override_served.trans h_free, rfl⟩, fun p h_p => ?_⟩
      rcases Memory.mem_served_served.1 h_p with ⟨h_boundary, rfl⟩ | h_before
      · exact .inr (Field.accounts_of_text h_boundary (Field.shows_of_generate h_boundary h_t))
      · exact .inl (h_served ▸ h_before)
    · rw [Memory.cell_update_self]
      refine ⟨⟨Memory.override_served.trans h_free, rfl⟩, fun p h_p => ?_⟩
      rcases Memory.mem_served_served.1 h_p with ⟨-, rfl⟩ | h_before
      · obtain ⟨reason, rfl⟩ := f.generate_error _ set _ h_failure
        exact .inr .brokeOff
      · exact .inl (h_served ▸ h_before)

end Request

/-! ### All requests -/

section History

variable {s : Scope} {n : Node} {f : Field} {set : CharacterSet} {m : Memory}
  {past : List Inquiry}

/-- The keys of a node begin with its own. -/
theorem Node.key_mem_keys (n : Node) : n.key ∈ n.keys := by
  obtain ⟨key, i, kind⟩ := n
  rw [Node.keys]
  exact List.mem_cons_self

/-- **All requests** of a history: the field is free, and whatever counts as served is accounted
for. -/
theorem Scope.History.accounts (h : s.History n past m) (h_kind : n.kind = .field f set) :
    ((m.cell n.key).override = none ∧ (m.cell n.key).token = none) ∧
      ∀ p ∈ (m.cell n.key).served, ∃ r ∈ past, f.Accounts p r := by
  induction h with
  | restart h_override h_token =>
    rw [Memory.resetCases, Memory.cell_updateAll Cell.forgetCases (fun _ => rfl),
      if_pos n.key_mem_keys]
    exact ⟨⟨h_override, h_token⟩, nofun⟩
  | pass _ ih =>
    rw [Memory.resetValues, Memory.cell_updateAll Cell.forgetValue (fun _ => rfl),
      if_pos n.key_mem_keys]
    exact ih
  | elsewhere _ h_cell ih =>
    rw [h_cell]
    exact ih
  | @request past m _ fuel c ih =>
    obtain ⟨⟨h_override, h_token⟩, h_past⟩ := ih
    -- what was accounted for before still is, and the rest is by the new request
    have h_goes : ∀ {p : Int} {r : Inquiry},
        p ∈ (m.cell n.key).served ∨ f.Accounts p r → ∃ r' ∈ past ++ [r], f.Accounts p r' := by
      rintro p r (h_before | h_new)
      · obtain ⟨r', h_r', h_accounts⟩ := h_past p h_before
        exact ⟨r', List.mem_append_left _ h_r', h_accounts⟩
      · exact ⟨r, List.mem_append_right _ (List.mem_singleton_self r), h_new⟩
    have h_ends := Node.ends_value_accounts (s := s) h_kind h_override h_token fuel c
    rcases h_eq : n.value s (fuel + 1) c m with ⟨e | v, m'⟩
    · obtain ⟨h_rest, h_served⟩ := h_ends.of_error h_eq
      exact ⟨h_rest, fun p h_p => h_goes (h_served p h_p)⟩
    · obtain ⟨h_rest, h_served⟩ := h_ends.of_ok h_eq
      exact ⟨h_rest, fun p h_p => h_goes (h_served p h_p)⟩

/-- **No boundary counts as served without a reason.** Take a field without an override and any
history of it since it began its cases anew: passes begin, it is asked for values for whatever
cases, and other things go on in between. If it has no cases left then, each of its boundaries is
accounted for by one of the requests. That request was for neither blanks nor null, and its answer
was a text at the boundary; or the position of the boundary is the standard one, and the answer was
the blanks of a text there; or the request broke off. -/
theorem Scope.History.accounted_of_exhausted (h : s.History n past m)
    (h_kind : n.kind = .field f set) {fuel : Nat}
    (h_over : (n.hasNextCase s (fuel + 1) m).1 = .ok false) :
    ∀ b ∈ f.boundaries,
      (∃ r ∈ past, r.asked ≠ .blank ∧ r.asked ≠ .null ∧
        ∃ t, r.result = .ok (some t) ∧ f.Shows b.1 t) ∨
      (b.2 = f.position .standard ∧ ∃ r ∈ past, r.asked = .blank ∧
        ∃ t, r.result = .ok (some (Text.blanked t)) ∧ f.Shows b.1 t) ∨
      ∃ r ∈ past, ∃ reason, r.result = .error (.crash reason) := by
  intro b h_b
  obtain ⟨-, h_position⟩ := Field.eq_of_mem_boundaries h_b
  -- no boundary is pending, so this one counts as served
  have h_pending : pendingCase? f (m.cell n.key).served = none := by
    have h_over : (Except.ok (pendingCase? f (m.cell n.key).served).isSome : Except Failure Bool) =
        .ok false := by
      rw [← h_over, Node.hasNextCase, h_kind]
      rfl
    exact Option.not_isSome_iff_eq_none.1 (Bool.eq_false_iff.1 (Except.ok.inj h_over))
  obtain ⟨r, h_r, h_accounts⟩ :=
    (h.accounts h_kind).2 b.2 (pendingCase?_eq_none_iff.1 h_pending b h_b)
  cases h_accounts with
  | produced h_blank h_null h_same h_shows =>
    exact .inl ⟨_, h_r, h_blank, h_null, _, rfl, h_shows.congr (h_position.symm.trans h_same.symm)⟩
  | blanked h_same h_shows =>
    exact .inr (.inl ⟨h_same.symm, _, h_r, rfl, _, rfl,
      h_shows.congr (h_position.symm.trans h_same.symm)⟩)
  | brokeOff => exact .inr (.inr ⟨_, h_r, _, rfl⟩)

end History

/-! ### A boundary that nobody has seen -/

/-- A scope without nodes to refer to. -/
def aloneScope : Scope := ⟨.empty, false⟩

/-- A field of the numbers in a range. -/
def numberNode (low high : Int) (h : low ≤ high) : Node :=
  .mk 0 (.root (some "number") none)
    (.field (.number low high h) ⟨"zero", ['0'], List.cons_ne_nil _ _, List.nodup_singleton _⟩)

/-- The memory when a node has begun its cases anew and then a pass. -/
def Node.anew (n : Node) : Memory := ((Memory.ofSeed 0).resetCases n).resetValues n

theorem Scope.History.anew (s : Scope) (n : Node) : s.History n [] n.anew := by
  refine .pass (.restart ?_ ?_)
  · exact congrArg Cell.override (Cells.get_fresh n.key)
  · exact congrArg Cell.token (Cells.get_fresh n.key)

/-- Five or six: a request for blanks accounts for the lower one, and a normal request for the
higher. -/
theorem Scope.History.accounted_of_exhausted_fiveOrSix :
    let n := numberNode 5 6 (by decide)
    let f := Field.number 5 6 (by decide)
    let blanked := (n.value aloneScope 1 .blank n.anew).2
    let m := (n.value aloneScope 1 .normal (blanked.resetValues n)).2
    aloneScope.History n [⟨.blank, .ok (some " ")⟩, ⟨.normal, .ok (some "6")⟩] m ∧
    (n.hasNextCase aloneScope 1 m).1 = .ok false ∧
    ∀ b ∈ f.boundaries, (∃ t, " " = Text.blanked t ∧ f.Shows b.1 t) ∨ f.Shows b.1 "6" := by
  intro n f blanked m
  have h_blank : (n.value aloneScope 1 .blank n.anew).1 = .ok (some " ") := by decide +kernel
  have h_normal : (n.value aloneScope 1 .normal (blanked.resetValues n)).1 = .ok (some "6") := by
    decide +kernel
  have h_history :
      aloneScope.History n [⟨.blank, .ok (some " ")⟩, ⟨.normal, .ok (some "6")⟩] m := by
    have h_both := (((Scope.History.anew aloneScope n).request 0 .blank).pass).request 0 .normal
    rw [h_blank, h_normal] at h_both
    exact h_both
  have h_over : (n.hasNextCase aloneScope 1 m).1 = .ok false := by decide +kernel
  refine ⟨h_history, h_over, fun b h_b => ?_⟩
  rcases Scope.History.accounted_of_exhausted h_history rfl h_over b h_b with
    ⟨r, h_r, h_not, -, t, h_t, h_shows⟩ | ⟨-, r, h_r, h_asked, t, h_t, h_shows⟩ | ⟨r, h_r, _, h_bad⟩
  -- each of the two requests fits one of the reasons only
  all_goals rcases List.mem_pair.1 h_r with rfl | rfl
  · exact absurd rfl h_not
  · cases h_t
    exact .inr h_shows
  · exact .inl ⟨t, Option.some.inj (Except.ok.inj h_t), h_shows⟩
  · cases h_asked
  · cases h_bad
  · cases h_bad

/-- **The exception is real.** A field has the number five only. After a pass in which it was asked
for blanks it has no cases left, although no request was answered with five. -/
theorem Scope.History.exhausted_unseen : ∃ n f set past m, n.kind = .field f set ∧
    aloneScope.History n past m ∧ (n.hasNextCase aloneScope 1 m).1 = .ok false ∧
    ∃ b ∈ f.boundaries, ∀ r ∈ past, ∀ t, r.result = .ok (some t) → ¬ f.Shows b.1 t := by
  let n := numberNode 5 5 (by decide)
  have h_blank : (n.value aloneScope 1 .blank n.anew).1 = .ok (some " ") := by decide +kernel
  have h_history := (Scope.History.anew aloneScope n).request 0 .blank
  rw [h_blank] at h_history
  refine ⟨n, _, _, _, _, rfl, h_history, by decide +kernel, (.min, 5), by decide, ?_⟩
  intro r h_r t h_t h_shows
  obtain rfl := List.mem_singleton.1 h_r
  cases h_t
  have h_text : " " = toString ((Field.number 5 5 (by decide)).position .min) := h_shows
  exact absurd h_text (by decide)

end Specimen
