import Mathlib.Algebra.Order.BigOperators.Group.Finset
import Specimen.Proofs.Generator.Lasting
import Specimen.Proofs.Generator.Limit
import Specimen.Proofs.Generator.Saturation
import Specimen.Proofs.Generator.Starvation
import Specimen.Proofs.Node.Lateness

/-!
# How many data sets an enumeration gives

The cases that are counted for the roots bound the passes of an enumeration, unless a rule changes
its mind on the way: before each pass beyond the count there is an optional node whose rule has said
that its child has to be present, and has said last that it has not (`Generator.enumerate_bounded`).
Such a node is late, and each node is late only for a while, so there is a bound anyway; it grows
with the number of the rules that look at other values.

Optional constraints must not get in each other's way (`Config.Untangled`). Otherwise there may be
no bound at all, and even if they do not, there may be more data sets than cases
(`Generator.enumerate_exceeds`).
-/

namespace Specimen

namespace Generator

variable {g : Generator} {c : Config} {m m' : Memory} {ds : List DataSet}

/-- The rule of the optional node at a place looks at another value, and has changed its mind before
a pass of an enumeration: it has said that the child has to be present, and what it has said last is
that it has not. -/
def Relented (g : Generator) (c : Config) (m : Memory) (k : Nat) (p : Place) : Prop :=
  (∃ x id, c.at? p = some x ∧ x.kind.ruleId? = some id) ∧
    (∃ i < k, g.said? (g.afterPasses m i) p = some true) ∧
      g.said? (g.afterPasses m k) p = some false

/-- The node at a place is late in a pass of an enumeration. -/
def LateAt (g : Generator) (m : Memory) (p : Place) (k : Nat) : Prop :=
  ∃ n, g.nodeAt? p = some n ∧ Scope.Late (g.afterPasses m) n k

namespace Represents

variable {tops : List Node} {rank : Nat → Nat} (h : g.Represents c tops)
include h

/-- **Counting the cases of all roots** covers what each of them has. -/
theorem exists_countCases_covers (h_quiet : m.Quiet) :
    ∃ count m', g.countCases m = (.ok count, m') ∧ ∀ t ∈ tops, g.scope.Covers t count := by
  obtain ⟨count, m', h_count, h_iff⟩ := h.exists_greatestCount h_quiet
  refine ⟨count, m', h_count, fun t h_t k h_k => ?_⟩
  obtain ⟨all, -, h_all, -⟩ := h.exists_nodeCount (member_iff.2 ⟨t, h_t, t.inside_self⟩) h_quiet
  have h_le : saturated all ≤ count :=
    le_of_forall_lt fun i h_i => (h_iff i).2 ⟨t, h_t, all, h_all, h_i⟩
  exact Nat.le_trans (h_all.covers k h_k) h_le

/-- An enumeration begins with unused cells. -/
theorem unused_afterPasses {n : Node} (h_n : Member tops n) :
    ((g.afterPasses m 0).cell n.key).Unused := by
  rw [h.afterPasses_zero, cell_casesReset h_n]
  exact ⟨rfl, rfl, rfl⟩

/-- A pass of an enumeration that gives a data set is one, with a course. -/
theorem exists_course (h_ordered : g.scope.Ordered (Member tops) rank)
    (h_fuel : ∀ key, rank key < g.fuel) (h_quiet : m.Quiet) (h_free : Unfixed m) {k : Nat}
    {d : DataSet} (h_gives : g.PassGives m k d) : ∃ past,
      g.scope.Pass (Member tops) tops (g.roster tops) (g.afterPasses m k) (g.afterPasses m (k + 1))
        past ∧ ∀ n o, (n, some o) ∈ g.roster tops → g.scope.Nulls (Member tops) o n := by
  have h_settled := h.settled_afterPasses h_quiet k
  have h_cells := h.cell_hasNextCase (h_settled.quiet h_quiet)
  have h_looked : (g.afterPasses m k).Settled (g.hasNextCase (g.afterPasses m k)).2 :=
    .of_cells h_cells
  obtain ⟨past, h_under, h_met⟩ := (h.ends_generate_course h_ordered h_fuel
    (h_free.of_settled (h_settled.trans h_looked))).of_ok h_gives
  refine ⟨past, ⟨h_under.justified, h_met, fun n h_n => ?_, h_under.asked_listed,
    h_under.visited⟩, h_under.nulls⟩
  rw [← h_cells]
  exact follows_of_underway h_under h_fuel h_n

/-- **The passes of an enumeration** follow each other. -/
theorem exists_passes (h_ordered : g.scope.Ordered (Member tops) rank)
    (h_fuel : ∀ key, rank key < g.fuel) (h_quiet : m.Quiet) (h_free : Unfixed m)
    (h_some : 0 < ds.length) (h_gives : ∀ k d, ds[k]? = some d → g.PassGives m k d) : ∃ past,
      g.scope.Passes (Member tops) tops (g.roster tops) ds.length (g.afterPasses m) past := by
  have h_course : ∀ k : Fin ds.length, ∃ past, g.scope.Pass (Member tops) tops (g.roster tops)
      (g.afterPasses m k) (g.afterPasses m (k + 1)) past ∧
        ∀ n o, (n, some o) ∈ g.roster tops → g.scope.Nulls (Member tops) o n := fun k =>
    h.exists_course h_ordered h_fuel h_quiet h_free
      (h_gives k _ (List.getElem?_eq_getElem k.isLt))
  choose past h_pass h_nulls using h_course
  refine ⟨fun k => if h_k : k < ds.length then past ⟨k, h_k⟩ else [], fun k h_k => ?_,
    h_nulls ⟨0, h_some⟩⟩
  rw [dif_pos h_k]
  exact h_pass ⟨k, h_k⟩

section Beyond

variable (h_untangled : g.ignoreOptional = false → c.Untangled) (h_quiet : m.Quiet)
  (h_free : Unfixed m) (h_gives : ∀ k d, ds[k]? = some d → g.PassGives m k d) {count : Nat}
  (h_covers : ∀ t ∈ tops, g.scope.Covers t count) (h_limit : count < countLimit)
include h_untangled h_quiet h_free h_gives h_covers h_limit

/-- **Beyond the count** a case is left only at a node that is late. -/
theorem relented_of_anyLeft {k : Nat} (h_beyond : count ≤ k) (h_k : k < ds.length)
    (h_left : g.AnyLeft tops (g.afterPasses m k)) :
    g.ignoreOptional = false ∧ ∃ p, g.Relented c m k p ∧ g.LateAt m p k := by
  obtain ⟨rank, h_fuel, h_ordered, h_lower⟩ := h.exists_ordered
  obtain ⟨past, h_passes⟩ := h.exists_passes h_ordered h_fuel h_quiet h_free (by omega) h_gives
  have h_fresh := fun n (h_n : Member tops n) => h.unused_afterPasses (m := m) h_n
  have h_calls : ∀ n n', Member tops n → g.scope.Calls n n' →
      Member tops n' ∧ rank n'.key < rank n.key :=
    fun n n' h_n h_step => ⟨h.member_of_calls h_n h_step, h_lower n n' h_n h_step⟩
  have h_end := Nat.le_of_lt h_k
  obtain ⟨t, h_t, h_pending⟩ := h_left
  obtain ⟨n, h_n, h_due, h_counts⟩ := h_pending.exists_due (fun n n' h_n => h.member_of_calls h_n)
    (fun n h_n => h_passes.sound h_fresh h_n h_end) (member_iff.2 ⟨t, h_t, t.inside_self⟩)
  have h_late := h_passes.late_of_due h_fresh (h.untangled h_untangled) h_ordered h_calls
    (fun key => Nat.le_of_lt (h_fuel key)) (fun n => above_of_member) h_covers h_limit h_n h_end
    h_beyond h_due
  obtain ⟨i, h_i, h_heeds, ⟨child, id, h_kind⟩, h_true, h_false⟩ :=
    h_passes.relents h_fresh h_n h_end h_late h_counts
  obtain ⟨p, x, h_p, h_x, h_rule⟩ := h.exists_rule h_n h_kind
  refine ⟨h_heeds, p, ⟨⟨x, id, h_x, h_rule⟩, ⟨i, h_i, ?_⟩, ?_⟩, n, h_p, h_late⟩
  · rw [said?_eq h_p, h_true]
  · rw [said?_eq h_p, h_false]

/-- **How often a node is late.** -/
theorem card_lateAt_le (p : Place) {late : Finset Nat}
    (h_late : ∀ k ∈ late, k < ds.length ∧ g.LateAt m p k) : late.card ≤ (count - 1) / 2 := by
  rcases late.eq_empty_or_nonempty with rfl | ⟨k, h_k⟩
  · exact Nat.zero_le _
  · obtain ⟨h_lt, n, h_p, -⟩ := h_late k h_k
    obtain ⟨rank, h_fuel, h_ordered, h_lower⟩ := h.exists_ordered
    obtain ⟨past, h_passes⟩ := h.exists_passes h_ordered h_fuel h_quiet h_free (by omega) h_gives
    have h_n : Member tops n := ⟨p, h.nodeAt?_eq p ▸ h_p⟩
    refine h_passes.card_late_le (fun n h_n => h.unused_afterPasses h_n) (h.untangled h_untangled)
      h_ordered (fun n n' h_n h_step => ⟨h.member_of_calls h_n h_step, h_lower n n' h_n h_step⟩)
      (fun key => Nat.le_of_lt (h_fuel key)) (fun n => above_of_member) h_covers h_limit h_n
      fun l h_l => ?_
    obtain ⟨h_lt, n', h_p', h_late⟩ := h_late l h_l
    obtain rfl := Option.some.inj (h_p.symm.trans h_p')
    exact ⟨Nat.le_of_lt h_lt, h_late⟩

/-- **The passes beyond the count** are shared by the places of rules. -/
theorem length_le_add (h_left : ∀ k < ds.length, g.AnyLeft tops (g.afterPasses m k))
    {places : Finset Place} (h_places : ∀ k p, g.Relented c m k p → g.ignoreOptional = false →
      p ∈ places) : ds.length ≤ count + places.card * ((count - 1) / 2) := by
  classical
  let late (p : Place) : Finset Nat :=
    (Finset.Ico count ds.length).filter fun k => g.LateAt m p k
  have h_all : Finset.Ico count ds.length ⊆ places.biUnion late := by
    intro k h_k
    obtain ⟨h_beyond, h_lt⟩ := Finset.mem_Ico.1 h_k
    obtain ⟨h_heeds, p, h_relented, h_late⟩ := h.relented_of_anyLeft h_untangled h_quiet h_free
      h_gives h_covers h_limit h_beyond h_lt (h_left k h_lt)
    exact Finset.mem_biUnion.2
      ⟨p, h_places k p h_relented h_heeds, Finset.mem_filter.2 ⟨h_k, h_late⟩⟩
  have h_each : ∀ p ∈ places, (late p).card ≤ (count - 1) / 2 := fun p _ =>
    h.card_lateAt_le h_untangled h_quiet h_free h_gives h_covers h_limit p fun k h_k =>
      ⟨(Finset.mem_Ico.1 (Finset.mem_filter.1 h_k).1).2, (Finset.mem_filter.1 h_k).2⟩
  have h_card : ds.length - count ≤ places.card * ((count - 1) / 2) := by
    calc ds.length - count = (Finset.Ico count ds.length).card := (Nat.card_Ico _ _).symm
      _ ≤ (places.biUnion late).card := Finset.card_le_card h_all
      _ ≤ places.card * ((count - 1) / 2) := Finset.card_biUnion_le_card_mul places late _ h_each
  omega

end Beyond

end Represents

/-- **The cases that are counted bound an enumeration**, unless rules change their minds. Let
optional constraints not get in each other's way, unless they are ignored. Take any reachable memory
without overrides, and an enumeration that begins there and returns. Counting the cases there gives
a number. Before each pass beyond this number there is an optional constraint that is heeded and
whose rule has changed its mind in the enumeration. So if there is no rule that looks at another
value, there are no more data sets than cases; and if there are some, each adds less than half of
the number. -/
theorem enumerate_bounded {o : GeneratorOptions} {random : UInt64}
    (h_ok : ofConfig c o random = .ok g) (h_untangled : o.ignoreOptional = false → c.Untangled)
    (h_reachable : g.Reachable m) (h_free : Unfixed m) {limit : UInt64}
    (h_sets : g.enumerate limit.toNat m = (.ok ds, m')) :
    ∃ count m₁, g.countCases m = (.ok count, m₁) ∧
      (∀ k, count ≤ k → k < ds.length →
        o.ignoreOptional = false ∧ ∃ p, g.Relented c m k p) ∧
      ∀ places : Finset Place, (o.ignoreOptional = false → ∀ p x id, c.at? p = some x →
          x.kind.ruleId? = some id → p ∈ places) →
        ds.length ≤ count + places.card * ((count - 1) / 2) := by
  obtain ⟨⟨tops, h⟩, h_ignore, -⟩ := ofConfig_represents h_ok
  obtain ⟨rank, h_fuel, h_ordered, -⟩ := h.exists_ordered
  have h_quiet := h.quiet_of_reachable h_reachable
  obtain ⟨count, m₁, h_count, h_covers⟩ := h.exists_countCases_covers h_quiet
  -- what is known of the passes
  have h_gives := ((g.ends_enumerate_passes _ m).of_ok h_sets).1
  obtain ⟨m₀, h_reset, h_on⟩ := enumerate_eq_ok_iff.1 h_sets
  have h_left : ∀ k < ds.length, g.AnyLeft tops (g.afterPasses m k) := by
    intro k h_k
    have h_start : g.afterPasses m k = g.round^[k] m₀ := by rw [afterPasses, h_reset]
    have h_next := h_on.hasNextCase_eq k h_k
    rw [← h_start] at h_next
    have h_settled := h.settled_afterPasses h_quiet k
    obtain ⟨b, h_b, h_iff, -⟩ :=
      (h.tells_hasNextCase h_ordered h_fuel (h_settled.quiet h_quiet)).exists_ok
    rw [h_b] at h_next
    exact h_iff.1 (Except.ok.inj h_next)
  rw [← h_ignore] at h_untangled ⊢
  refine ⟨count, m₁, h_count, ?_⟩
  rcases Nat.lt_or_ge count ds.length with h_more | h_few
  · -- the number is not cut off, as the limit is none that cannot be counted
    have h_limit : count < countLimit := by
      have h_length := h_on.length_le
      have h_word := limit.toNat_lt
      rw [countLimit]
      omega
    refine ⟨fun k h_beyond h_k => ?_, fun places h_places => ?_⟩
    · obtain ⟨h_heeds, p, h_relented, -⟩ := h.relented_of_anyLeft h_untangled h_quiet h_free
        h_gives h_covers h_limit h_beyond h_k (h_left k h_k)
      exact ⟨h_heeds, p, h_relented⟩
    · refine h.length_le_add h_untangled h_quiet h_free h_gives h_covers h_limit h_left ?_
      rintro k p ⟨⟨x, id, h_x, h_rule⟩, -⟩ h_heeds
      exact h_places h_heeds p x id h_x h_rule
  · exact ⟨fun k h_beyond h_k => absurd h_k (by omega), fun _ _ => Nat.le_add_right_of_le h_few⟩

/-- A mood that may be empty, and a note that has to be there if the mood is not. -/
def moodOrNote : Config :=
  ⟨Config.supportedVersion, none, .empty, [
    .mk (some "mood") none (.field (.choice ["good", "fair", ""])),
    .mk (some "note") none
      (.optional (.embedded (.mk none none (.constant "x"))) (.whenPresent "mood"))]⟩

theorem isOptional_moodOrNote {p : Place} (h : moodOrNote.IsOptional p) : p = [1] := by
  obtain ⟨x, child, rule, h_x, h_kind⟩ := h
  match p with
  | 0 :: q =>
    obtain ⟨y, h_y, h_x⟩ := Config.at?_cons.1 h_x
    cases h_y
    obtain ⟨-, rfl⟩ := Config.Constraint.at?_of_flat (fun _ => List.not_mem_nil) h_x
    cases h_kind
  | [1] => rfl
  | 1 :: i :: q =>
    obtain ⟨y, h_y, h_x⟩ := Config.at?_cons.1 h_x
    cases h_y
    -- the child of the note is a constant
    obtain ⟨z, h_z, h_x⟩ := Config.Constraint.at?_cons.1 h_x
    obtain rfl := Config.Child.embedded.inj (List.mem_singleton.1 (List.mem_of_getElem? h_z))
    obtain ⟨-, rfl⟩ := Config.Constraint.at?_of_flat (fun _ => List.not_mem_nil) h_x
    cases h_kind
  | (i + 2) :: q =>
    obtain ⟨y, h_y, -⟩ := Config.at?_cons.1 h_x
    cases h_y

theorem untangled_moodOrNote : moodOrNote.Untangled :=
  Config.untangled_of_unique fun _ _ h_p h_p' =>
    (isOptional_moodOrNote h_p).trans (isOptional_moodOrNote h_p').symm

/-- Three passes serve the three moods, and the third leaves the note out. Now the choice of the
note counts, so a fourth pass shows its other side. -/
theorem exists_enumerate_moodOrNote : ∃ g m₁ ds m', ofConfig moodOrNote {} 0 = .ok g ∧
    g.countCases (g.freshMemory.withDraws leavingOut) = (.ok 3, m₁) ∧
    g.enumerate 100 (g.freshMemory.withDraws leavingOut) = (.ok ds, m') ∧ ds.length = 4 := by
  have h_run : (ofConfig moodOrNote {} 0).toOption.map (fun g =>
      let m := g.freshMemory.withDraws leavingOut
      ((g.countCases m).1.toOption, (g.enumerate 100 m).1.toOption.map List.length)) =
      some (some 3, some 4) := by decide +kernel
  obtain ⟨g, h_ok, h_g⟩ := exists_ok_of_map h_run
  obtain ⟨h_count, h_some⟩ := Prod.mk.inj h_g
  obtain ⟨ds, h_ds, h_length⟩ := Option.map_eq_some_iff.1 h_some
  exact ⟨g, _, ds, _, h_ok, eq_ok_of_toOption h_count, eq_ok_of_toOption h_ds, h_length⟩

/-- Before the fourth pass the rule of the note has changed its mind, and there is no room for a
fifth one. -/
theorem enumerate_bounded_moodOrNote : ∃ g m₁ ds m', ofConfig moodOrNote {} 0 = .ok g ∧
    moodOrNote.Untangled ∧ g.Reachable (g.freshMemory.withDraws leavingOut) ∧
    Unfixed (g.freshMemory.withDraws leavingOut) ∧
    g.enumerate (100 : UInt64).toNat (g.freshMemory.withDraws leavingOut) = (.ok ds, m') ∧
    g.countCases (g.freshMemory.withDraws leavingOut) = (.ok 3, m₁) ∧ ds.length = 4 ∧
    (∃ p, g.Relented moodOrNote (g.freshMemory.withDraws leavingOut) 3 p) ∧
    ds.length ≤ 3 + 1 * ((3 - 1) / 2) := by
  obtain ⟨g, m₁, ds, m', h_ok, h_count, h_sets, h_length⟩ := exists_enumerate_moodOrNote
  have h_free : Unfixed (g.freshMemory.withDraws leavingOut) := fun _ => rfl
  have h_word : g.enumerate (100 : UInt64).toNat (g.freshMemory.withDraws leavingOut) =
      (.ok ds, m') := h_sets
  obtain ⟨count, m₂, h_count', h_beyond, h_bound⟩ := enumerate_bounded h_ok
    (fun _ => untangled_moodOrNote) (.start leavingOut) h_free h_word
  obtain rfl : 3 = count := by
    rw [h_count] at h_count'
    cases h_count'
    rfl
  refine ⟨g, m₁, ds, m', h_ok, untangled_moodOrNote, .start leavingOut, h_free, h_word, h_count,
    h_length, (h_beyond 3 (Nat.le_refl 3) (by omega)).2, ?_⟩
  refine h_bound {[1]} fun _ p x id h_x h_rule => ?_
  exact Finset.mem_singleton.2 (isOptional_moodOrNote (Config.isOptional_of_ruleId? h_x h_rule))

/-- **More data sets than cases.** A rule that changes its mind adds one to the three cases that are
counted; and if optional constraints get in each other's way, there may be as many data sets as any
limit allows. -/
theorem enumerate_exceeds : (∃ g m₁ ds m', ofConfig moodOrNote {} 0 = .ok g ∧
      g.Reachable (g.freshMemory.withDraws leavingOut) ∧
      Unfixed (g.freshMemory.withDraws leavingOut) ∧
      g.countCases (g.freshMemory.withDraws leavingOut) = (.ok 3, m₁) ∧
      g.enumerate 100 (g.freshMemory.withDraws leavingOut) = (.ok ds, m') ∧ ¬ ds.length ≤ 3) ∧
    ∃ g m count m₁, ofConfig contended {} 0 = .ok g ∧ g.Reachable m ∧ Unfixed m ∧
      g.countCases m = (.ok count, m₁) ∧
      ∀ limit, ∃ ds m', g.enumerate limit m = (.ok ds, m') ∧ ds.length = limit := by
  constructor
  · obtain ⟨g, m₁, ds, m', h_ok, h_count, h_sets, h_length⟩ := exists_enumerate_moodOrNote
    exact ⟨g, m₁, ds, m', h_ok, .start leavingOut, fun _ => rfl, h_count, h_sets, by omega⟩
  · obtain ⟨g, h_ok, h_limits⟩ := enumerate_contended
    obtain ⟨⟨tops, h⟩, -⟩ := ofConfig_represents h_ok
    have h_start : g.Reachable (g.freshMemory.withDraws ⟨contendedWords, 0⟩) := .start _
    obtain ⟨count, m₁, h_count, -⟩ := h.exists_countCases_covers (h.quiet_of_reachable h_start)
    refine ⟨g, _, count, m₁, h_ok, h_start, fun _ => rfl, h_count, fun limit => ?_⟩
    obtain ⟨ds, m', h_sets, h_length, -⟩ := h_limits limit
    exact ⟨ds, m', h_sets, h_length⟩

end Generator

end Specimen
