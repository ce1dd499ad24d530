import Specimen.Proofs.Generator.Nulling
import Specimen.Proofs.Generator.Presence
import Specimen.Proofs.Node.Onward

/-!
# What stays exhausted

Once no case is left, further passes leave none either, as passes only add to what was served and
shown. The exception are rules that look at other values: where such a rule says the opposite of
what it said last, what counts of an optional node is another thing than before
(`Generator.exhausted_unless_changed`), and a case may be left again (`Generator.case_comes_back`).
-/

namespace Specimen

namespace Generator

variable {g : Generator} {m m' : Memory}

/-- What the rule of the optional node at a place has said last. -/
def said? (g : Generator) (m : Memory) (p : Place) : Option Bool :=
  (g.nodeAt? p).bind fun n => (m.cell n.key).decision

theorem said?_eq {p : Place} {n : Node} (h_p : g.nodeAt? p = some n) :
    g.said? m p = (m.cell n.key).decision := by
  rw [said?, h_p, Option.bind_some]

namespace Represents

variable {c : Config} {tops : List Node} (h : g.Represents c tops)
include h

/-- A pass takes nothing back. -/
theorem generate_onward (h_quiet : m.Quiet) (h_free : Unfixed m) : Ends (g.generate .normal) m
    (fun _ m' => m'.Quiet ∧ Unfixed m' ∧
      ∀ n, Member tops n → n.Onward (m.cell n.key) (m'.cell n.key)) Anyhow := by
  obtain ⟨rank, h_fuel, h_ordered, -⟩ := h.exists_ordered
  have h_settles := h.generate_settles (crashesOnly_true _) .normal h_quiet
  have h_course := h.ends_generate_course h_ordered h_fuel h_free
  refine (h_settles.and h_course).mono (fun _ m' h_m' => ?_) fun _ _ _ => trivial
  obtain ⟨h_settled, past, h_under, -⟩ := h_m'
  refine ⟨h_settled.quiet h_quiet, h_free.of_settled h_settled, fun n h_n => ?_⟩
  exact (follows_of_underway h_under h_fuel h_n).onward

/-- **Any number of passes** take nothing back. -/
theorem generateMany_onward (k : Nat) (done : List DataSet) (h_quiet : m.Quiet)
    (h_free : Unfixed m) : Ends (g.generateMany .normal k done) m
      (fun _ m' => m'.Quiet ∧ ∀ n, Member tops n → n.Onward (m.cell n.key) (m'.cell n.key))
      Anyhow := by
  induction k generalizing done m with
  | zero => exact ⟨h_quiet, fun n _ => .refl n _⟩
  | succ k ih =>
    rw [generateMany, ends_bind]
    refine (h.generate_onward h_quiet h_free).mono (fun d m₁ h_m₁ => ?_) fun _ _ _ => trivial
    obtain ⟨h_quiet₁, h_free₁, h_first⟩ := h_m₁
    refine (ih (d :: done) h_quiet₁ h_free₁).mono (fun _ m₂ h_m₂ => ⟨h_m₂.1, fun n h_n => ?_⟩)
      fun _ _ _ => trivial
    exact (h_first n h_n).trans (h_m₂.2 n h_n)

/-- A rule that looks at another value is one of the configuration. -/
theorem exists_rule {n : Node} (h_n : Member tops n) {child : Link} {id : String}
    (h_kind : n.kind = .optional child (.whenPresent id)) : ∃ p x, g.nodeAt? p = some n ∧
      c.at? p = some x ∧ x.kind.ruleId? = some id := by
  obtain ⟨p, h_p⟩ := h_n
  rw [← h.nodeAt?_eq] at h_p
  obtain ⟨x, child', h_x, h_spec⟩ := h.optional_of_nodeAt? h_p h_kind
  exact ⟨p, x, h_p, h_x, by rw [h_spec]; rfl⟩

end Represents

/-- **What stays exhausted.** Take any reachable memory without overrides in which no case is left,
and any number of passes after it. Then it can be told whether a case is left, and one is left only
if optional nodes are heeded and there is an optional constraint whose rule looks at another value
and has changed its mind: what it said last in these passes is the opposite of what it had said
last before them. -/
theorem exhausted_unless_changed {c : Config} {o : GeneratorOptions} {random : UInt64}
    (h_ok : ofConfig c o random = .ok g) (h_reachable : g.Reachable m) (h_free : Unfixed m)
    {m₀ : Memory} (h_over : g.hasNextCase m = (.ok false, m₀)) {k : Nat} {ds : List DataSet}
    (h_passes : g.generateMany .normal k [] m = (.ok ds, m')) :
    ∃ more m'', g.hasNextCase m' = (.ok more, m'') ∧ (more = true → o.ignoreOptional = false ∧
      ∃ p x id said, c.at? p = some x ∧ x.kind.ruleId? = some id ∧ g.said? m p = some said ∧
        g.said? m' p = some !said) := by
  obtain ⟨⟨tops, h⟩, h_ignore, -⟩ := ofConfig_represents h_ok
  obtain ⟨rank, h_fuel, h_ordered, -⟩ := h.exists_ordered
  have h_quiet := h.quiet_of_reachable h_reachable
  -- before the passes no root has cases left
  have h_none : ¬ g.AnyLeft tops m := by
    intro h_left
    cases ((h.tells_hasNextCase h_ordered h_fuel h_quiet).of_ok h_over).1.2 h_left
  obtain ⟨h_quiet', h_onward⟩ := (h.generateMany_onward k [] h_quiet h_free).of_ok h_passes
  obtain ⟨more, h_more, h_left, -⟩ := (h.tells_hasNextCase h_ordered h_fuel h_quiet').exists_ok
  refine ⟨more, _, h_more, fun h_true => ?_⟩
  obtain ⟨t, h_t, h_pending⟩ := h_left.1 h_true
  -- so a root that has some now owes this to a rule
  obtain ⟨n, h_n, h_changed⟩ := h_pending.exists_changed (fun n n' h_n => h.member_of_calls h_n)
    h_onward (Represents.member_iff.2 ⟨t, h_t, t.inside_self⟩)
    fun h_before => h_none ⟨t, h_t, h_before⟩
  obtain ⟨h_heeds, child, id, said, h_kind, h_before, h_after⟩ := h_changed
  obtain ⟨p, x, h_p, h_x, h_rule⟩ := h.exists_rule h_n h_kind
  refine ⟨h_ignore.symm.trans h_heeds, p, x, id, said, h_x, h_rule, ?_, ?_⟩
  · rw [said?_eq h_p, h_before]
  · rw [said?_eq h_p, h_after]

/-- A mood, and a note that has to be there if the mood is. -/
def moodAndNote : Config :=
  ⟨Config.supportedVersion, none, .empty, [
    .mk (some "mood") none (.field (.choice ["good", "fair", "", "well"])),
    .mk (some "note") none
      (.optional (.embedded (.mk none none (.constant "x"))) (.whenPresent "mood"))]⟩

/-- Three passes serve the moods at the ends of the list and in its middle, and no case is left. The
next pass draws the mood that is empty. -/
theorem exists_passes_moodAndNote : ∃ g m m₀ ds m' m'', ofConfig moodAndNote {} 0 = .ok g ∧
    g.Reachable m ∧ Unfixed m ∧ g.hasNextCase m = (.ok false, m₀) ∧
    g.generateMany .normal 1 [] m = (.ok ds, m') ∧ g.hasNextCase m' = (.ok true, m'') := by
  have h_run : (ofConfig moodAndNote {} 0).toOption.map (fun g =>
      let m := (g.enumerate 100 (g.freshMemory.withDraws leavingOut)).2
      let m' := (g.generateMany .normal 1 [] m).2
      ((g.hasNextCase m).1.toOption, (g.generateMany .normal 1 [] m).1.toOption.isSome,
        (g.hasNextCase m').1.toOption)) = some (some false, true, some true) := by
    decide +kernel
  obtain ⟨g, h_ok, h_g⟩ := exists_ok_of_map h_run
  obtain ⟨h_before, h_rest⟩ := Prod.mk.inj h_g
  obtain ⟨h_some, h_after⟩ := Prod.mk.inj h_rest
  obtain ⟨ds, h_ds⟩ := Option.isSome_iff_exists.1 h_some
  obtain ⟨⟨tops, h⟩, -⟩ := ofConfig_represents h_ok
  have h_settles : Settles (fun _ => True) (g.enumerate 100) (g.freshMemory.withDraws leavingOut) :=
    h.enumerate_settles (crashesOnly_true _) 100 (h.quiet_of_reachable (.start leavingOut))
  have h_free : Unfixed (g.freshMemory.withDraws leavingOut) := fun _ => rfl
  have h_reachable := (Reachable.start (g := g) leavingOut).step (.enumerate 100)
  rw [Request.perform, snd_map] at h_reachable
  exact ⟨g, _, _, ds, _, _, h_ok, h_reachable, h_free.of_settled h_settles.settled,
    eq_ok_of_toOption h_before, eq_ok_of_toOption h_ds, eq_ok_of_toOption h_after⟩

/-- In the last pass the rule of the note says for the first time that the note need not be
there. -/
theorem exhausted_unless_changed_moodAndNote : ∃ g m m₀ ds m', ofConfig moodAndNote {} 0 = .ok g ∧
    g.Reachable m ∧ Unfixed m ∧ g.hasNextCase m = (.ok false, m₀) ∧
    g.generateMany .normal 1 [] m = (.ok ds, m') ∧
    ∃ p x id said, moodAndNote.at? p = some x ∧ x.kind.ruleId? = some id ∧
      g.said? m p = some said ∧ g.said? m' p = some !said := by
  obtain ⟨g, m, m₀, ds, m', m'', h_ok, h_m, h_free, h_over, h_passes, h_more⟩ :=
    exists_passes_moodAndNote
  obtain ⟨more, k, h_next, h_why⟩ := exhausted_unless_changed h_ok h_m h_free h_over h_passes
  obtain rfl : more = true := by
    rw [h_more] at h_next
    cases h_next
    rfl
  exact ⟨g, m, m₀, ds, m', h_ok, h_m, h_free, h_over, h_passes, (h_why rfl).2⟩

/-- **A case comes back.** No case is left, and after one more pass there is one. -/
theorem case_comes_back : ∃ g m m₀ ds m' m'', ofConfig moodAndNote {} 0 = .ok g ∧ g.Reachable m ∧
    Unfixed m ∧ g.hasNextCase m = (.ok false, m₀) ∧
    g.generateMany .normal 1 [] m = (.ok ds, m') ∧ g.hasNextCase m' = (.ok true, m'') :=
  exists_passes_moodAndNote

end Generator

end Specimen
