import Specimen.FairChoice

/-!
# What fair choices show

A fair choice shows `false` at most twice in a row (`FairChoice.misses`), and it shows a side that
it has not shown yet at every flip until it has shown both (`FairChoice.unseen`). Both follow from
the two ways in which a flip comes about (`FairChoice.next_cases`).

The flips of a choice that was fresh come in pairs of opposite sides (`FairChoice.Paired`), so that
each side makes up half of them (`FairChoice.Paired.count_bounds`) and both have been shown after
two flips (`FairChoice.Showed.hasNext_eq`).
-/

namespace Specimen.FairChoice

variable {c c' : FairChoice} {side : Bool} {d d' : Draws}

/-- A flip completes a pair or begins one. -/
theorem next_cases (h : c.next d = ((side, c'), d')) :
    (c.pending = some side ∧ c' = c.shown none side) ∨
      (c.pending = none ∧ c' = c.shown (some !side) side) := by
  unfold next at h
  cases h_pending : c.pending with
  | some other =>
    rw [h_pending] at h
    cases h
    exact .inl ⟨rfl, rfl⟩
  | none =>
    rw [h_pending] at h
    cases h
    exact .inr ⟨rfl, rfl⟩

/-- How often the choice can show `false` before it shows `true`. -/
def misses (c : FairChoice) : Nat :=
  match c.pending with
  | some true => 0
  | none => 1
  | some false => 2

theorem misses_le (c : FairChoice) : c.misses ≤ 2 := by
  unfold misses
  split <;> omega

/-- Each `false` uses one up. -/
theorem misses_next (h : c.next d = ((false, c'), d')) : c'.misses + 1 = c.misses := by
  rcases next_cases h with ⟨h_pending, rfl⟩ | ⟨h_pending, rfl⟩ <;>
    simp only [misses, shown, h_pending, Bool.not_false]

/-- Each `true` allows for one more at most. -/
theorem misses_next_le (h : c.next d = ((side, c'), d')) :
    c'.misses + 1 ≤ c.misses + 2 * side.toNat := by
  rcases next_cases h with ⟨h_pending, rfl⟩ | ⟨h_pending, rfl⟩ <;> cases side <;>
    simp [misses, shown, h_pending]

/-- How many sides the choice has not shown. -/
def unseen (c : FairChoice) : Nat := (!c.seenTrue).toNat + (!c.seenFalse).toNat

theorem hasNext_iff : c.hasNext = true ↔ 0 < c.unseen := by
  obtain ⟨_, seenTrue, seenFalse⟩ := c
  cases seenTrue <;> cases seenFalse <;> simp [hasNext, unseen]

theorem unseen_le (c : FairChoice) : c.unseen ≤ 2 := by
  obtain ⟨_, seenTrue, seenFalse⟩ := c
  cases seenTrue <;> cases seenFalse <;> simp [unseen]

/-- What is pending in a choice that has shown one side is the other one. -/
def Sound (c : FairChoice) : Prop :=
  match c.seenTrue, c.seenFalse with
  | false, false => c.pending = none
  | true, false => c.pending = some false
  | false, true => c.pending = some true
  | true, true => True

theorem sound_fresh : fresh.Sound := rfl

theorem Sound.next (h_sound : c.Sound) (h : c.next d = ((side, c'), d')) : c'.Sound := by
  obtain ⟨pending, seenTrue, seenFalse⟩ := c
  rcases next_cases h with ⟨h_pending, rfl⟩ | ⟨h_pending, rfl⟩ <;>
    cases h_pending <;> cases seenTrue <;> cases seenFalse <;> cases side <;>
      simp_all [Sound, shown]

theorem unseen_next_le (h : c.next d = ((side, c'), d')) : c'.unseen ≤ c.unseen := by
  obtain ⟨pending, seenTrue, seenFalse⟩ := c
  rcases next_cases h with ⟨-, rfl⟩ | ⟨-, rfl⟩ <;>
    cases seenTrue <;> cases seenFalse <;> cases side <;> simp [unseen, shown]

/-- **Each flip shows a new side**, until both have been shown. -/
theorem Sound.unseen_next (h_sound : c.Sound) (h_unseen : 0 < c.unseen)
    (h : c.next d = ((side, c'), d')) : c'.unseen < c.unseen := by
  obtain ⟨pending, seenTrue, seenFalse⟩ := c
  rcases next_cases h with ⟨h_pending, rfl⟩ | ⟨h_pending, rfl⟩ <;>
    cases h_pending <;> cases seenTrue <;> cases seenFalse <;> cases side <;>
      simp_all [Sound, shown, unseen]

/-! ### Pairs of flips -/

/-- Flips in pairs of opposite sides. The last pair may lack its second flip, which is pending
then. -/
inductive Paired : List Bool → Option Bool → Prop where
  | nil : Paired [] none
  | first {flips : List Bool} (side : Bool) (h : Paired flips none) :
    Paired (flips ++ [side]) (some !side)
  | second {flips : List Bool} {side : Bool} (h : Paired flips (some side)) :
    Paired (flips ++ [side]) none

namespace Paired

variable {flips : List Bool} {pending : Option Bool}

theorem count_append_singleton (flips : List Bool) (side : Bool) :
    (flips ++ [side]).count true = flips.count true + side.toNat := by
  rw [List.count_append]
  cases side <;> rfl

/-- With the one that is pending, half of the flips show `true`. -/
theorem count_eq (h : Paired flips pending) :
    2 * (flips.count true + (pending.getD false).toNat) = flips.length + pending.isSome.toNat := by
  induction h with
  | nil => rfl
  | @first flips side _ ih =>
    -- the new flip and the one that is pending now make up a pair
    have h_pair : side.toNat + (!side).toNat = 1 := by cases side <;> rfl
    rw [count_append_singleton, List.length_append, List.length_singleton]
    simp only [Option.getD_none, Option.isSome_none, Option.getD_some, Option.isSome_some,
      Bool.toNat_false, Bool.toNat_true] at ih ⊢
    omega
  | @second flips side _ ih =>
    rw [count_append_singleton, List.length_append, List.length_singleton]
    simp only [Option.getD_none, Option.isSome_none, Option.getD_some, Option.isSome_some,
      Bool.toNat_false, Bool.toNat_true] at ih ⊢
    omega

/-- Each side makes up half of the flips, up to one. -/
theorem count_bounds (h : Paired flips pending) :
    flips.length / 2 ≤ flips.count true ∧ flips.count true ≤ (flips.length + 1) / 2 := by
  have h_count := h.count_eq
  have h_pending : (pending.getD false).toNat ≤ pending.isSome.toNat := by
    cases pending with
    | none => exact Nat.le_refl _
    | some side => exact Bool.toNat_le side
  have h_some := Bool.toNat_le pending.isSome
  omega

/-- A flip is pending just in case their number is odd. -/
theorem length_mod (h : Paired flips pending) : flips.length % 2 = pending.isSome.toNat := by
  have h_count := h.count_eq
  have h_some := Bool.toNat_le pending.isSome
  omega

/-- What is pending is the opposite of the last flip. -/
theorem getLast?_eq {side : Bool} (h : Paired flips (some side)) :
    flips.getLast? = some (!side) := by
  cases h with
  | first side _ => simp

/-- **The two flips of a pair** show opposite sides. -/
theorem opposite (h : Paired flips pending) {k : Nat} {a b : Bool} (h_a : flips[2 * k]? = some a)
    (h_b : flips[2 * k + 1]? = some b) : b = !a := by
  induction h with
  | nil => cases h_a
  | @first flips side h ih =>
    -- the new flip is the first one of its pair
    have h_even := h.length_mod
    have h_lt := (List.getElem?_eq_some_iff.1 h_b).1
    simp only [List.length_append, List.length_singleton, Option.isSome_none,
      Bool.toNat_false] at h_even h_lt
    rw [List.getElem?_append_left (by omega)] at h_a h_b
    exact ih h_a h_b
  | @second flips side h ih =>
    have h_odd := h.length_mod
    have h_lt := (List.getElem?_eq_some_iff.1 h_b).1
    simp only [List.length_append, List.length_singleton, Option.isSome_some,
      Bool.toNat_true] at h_odd h_lt
    rw [List.getElem?_append_left (by omega)] at h_a
    by_cases h_last : 2 * k + 1 = flips.length
    · have h_side : side = b := by simpa [h_last] using h_b
      have h_first : flips.getLast? = some a := by
        rw [List.getLast?_eq_getElem?, ← h_last]
        exact h_a
      rw [h.getLast?_eq] at h_first
      rw [← h_side, ← Option.some.inj h_first, Bool.not_not]
    · rw [List.getElem?_append_left (by omega)] at h_b
      exact ih h_a h_b

end Paired

/-- What a choice has shown since it was fresh. -/
structure Showed (flips : List Bool) (c : FairChoice) : Prop where
  paired : Paired flips c.pending
  seenTrue : c.seenTrue = flips.contains true
  seenFalse : c.seenFalse = flips.contains false

theorem showed_fresh : Showed [] fresh := ⟨.nil, rfl, rfl⟩

/-- **One more flip.** -/
theorem Showed.next {flips : List Bool} (h : Showed flips c)
    (h_next : c.next d = ((side, c'), d')) : Showed (flips ++ [side]) c' := by
  have h_paired := h.paired
  rcases next_cases h_next with ⟨h_pending, rfl⟩ | ⟨h_pending, rfl⟩
  all_goals rw [h_pending] at h_paired
  · refine ⟨h_paired.second, ?_, ?_⟩
    · cases side <;> simp [shown, h.seenTrue]
    · cases side <;> simp [shown, h.seenFalse]
  · refine ⟨h_paired.first side, ?_, ?_⟩
    · cases side <;> simp [shown, h.seenTrue]
    · cases side <;> simp [shown, h.seenFalse]

/-- **Two flips show both sides**, and one does not. -/
theorem Showed.hasNext_eq {flips : List Bool} (h : Showed flips c) :
    c.hasNext = decide (flips.length < 2) := by
  rw [hasNext, h.seenTrue, h.seenFalse]
  match flips, h.paired with
  | [], _ => rfl
  | [side], _ => cases side <;> rfl
  | first :: second :: rest, h_paired =>
    obtain rfl : second = !first := h_paired.opposite (k := 0) rfl rfl
    cases first <;> simp

end Specimen.FairChoice
