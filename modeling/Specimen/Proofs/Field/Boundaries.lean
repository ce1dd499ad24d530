import Specimen.Proofs.Field.Domain

/-!
# The boundaries of a declared field

The boundaries of a field are listed once each, from low to high, and how many there are depends on
the size of its range alone: the high end is a boundary of its own from two positions on, and the
middle from three on (`boundaries_eq`). The main result, `boundaries_exact`, says this of every
field that can be made, in terms of the range of its declaration.

Positions are computed with signed words of 128 bits, and each operation stops when its result does
not fit (`wordPosition`). None ever stops, and the word that comes out is the position
(`exists_wordPosition`): the ends of a range fit into 64 bits, so that their distance takes 65 at
most (`steps_fit`).
-/

namespace Specimen

open Config

/-- The first and the last position of a declaration: the ends of its range, or zero for a pattern,
which has a single position. -/
def Config.FieldSpec.Spans (spec : FieldSpec) (low high : Int) : Prop :=
  match spec with
  | .pattern .. => low = 0 ∧ high = 0
  | spec => spec.RangesOver low high

namespace Field

variable {spec : FieldSpec} {f : Field}

/-! ### Which boundaries are listed -/

theorem spans_of_declared (h : Declared spec f) : spec.Spans f.low f.high := by
  have h_ranges := rangesOver_of_declared h
  cases h with
  | pattern expression maxRepeat plan => exact ⟨rfl, rfl⟩
  | _ => exact h_ranges nofun

/-- The size of the range decides which boundaries are listed. -/
theorem boundaries_eq (f : Field) :
    f.boundaries =
      if f.high = f.low then [(.min, f.low)]
      else if f.high = f.low + 1 then [(.min, f.low), (.max, f.high)]
      else [(.min, f.low), (.avg, f.position .avg), (.max, f.high)] := by
  have h_le := f.low_le_high
  have h_avg := f.position_avg
  have h_unfold : f.boundaries = (.min, f.low) ::
      if f.position .avg = f.low then
        if f.high = f.low then [] else [(.max, f.high)]
      else (.avg, f.position .avg) ::
        if f.high = f.position .avg ∨ f.high = f.low then [] else [(.max, f.high)] := by
    simp only [boundaries, FieldCase.boundaries, distinct, List.contains_eq_mem, List.mem_cons,
      List.not_mem_nil, or_false, decide_eq_true_eq, if_false]
    rfl
  rw [h_unfold]
  by_cases h_one : f.high = f.low
  · have h_same : f.position .avg = f.low := by omega
    rw [if_pos h_same, if_pos h_one, if_pos h_one]
  by_cases h_two : f.high = f.low + 1
  · have h_same : f.position .avg = f.low := by omega
    rw [if_pos h_same, if_neg h_one, if_neg h_one, if_pos h_two]
  -- from three positions on, the middle lies between the ends
  · have h_middle : f.low < f.position .avg ∧ f.position .avg < f.high := by omega
    rw [if_neg (by omega), if_neg (by omega), if_neg h_one, if_neg h_two]

/-- A range that is too short for a middle of its own: it is rounded to the low end, also below
zero. -/
example : ∃ f, Field.ofSpec (.number (-2) (-1)) = .ok f ∧ f.boundaries = [(.min, -2), (.max, -1)] :=
  ⟨_, rfl, rfl⟩

/-- There are as many boundaries as positions in the range, up to three. -/
theorem length_boundaries_eq_min (f : Field) :
    (f.boundaries.length : Int) = min 3 (f.high - f.low + 1) := by
  have h_le := f.low_le_high
  rw [boundaries_eq]
  split
  · simp only [List.length_cons, List.length_nil]
    omega
  · split <;> simp only [List.length_cons, List.length_nil] <;> omega

/-! ### Positions in words -/

/-- A signed word of 128 bits. -/
abbrev LongWord := BitVec 128

/-- The result of an operation on words, unless it does not fit into a word. -/
def checked (overflows : LongWord → LongWord → Bool) (op : LongWord → LongWord → LongWord)
    (x y : LongWord) : Option LongWord :=
  if overflows x y then none else some (op x y)

/-- The ends of the range as words. The last place in a list is computed from its length. -/
def wordEnds : Field → Option (LongWord × LongWord)
  | text minLength maxLength _ => return (.ofInt 128 minLength, .ofInt 128 maxLength)
  | number min max _ => return (.ofInt 128 min, .ofInt 128 max)
  | date first last _ _ => return (0, .ofInt 128 (first.daysUntil last))
  | choice values _ => do
    return (0, ← checked BitVec.ssubOverflow BitVec.sub (.ofInt 128 values.length) 1)
  | pattern _ => return (0, 0)

/-- The position of a case, computed with words. -/
def wordPosition (f : Field) (c : FieldCase) : Option LongWord := do
  let (low, high) ← f.wordEnds
  match c with
  | .min => return low
  | .max => return high
  | _ => do
    let distance ← checked BitVec.ssubOverflow BitVec.sub high low
    let half ← checked BitVec.sdivOverflow BitVec.sdiv distance 2
    checked BitVec.saddOverflow BitVec.add low half

theorem toInt_ofInt_of_fits {n : Int} (h : FitsLongWord n) : (BitVec.ofInt 128 n).toInt = n :=
  BitVec.toInt_ofInt_eq_self (by decide) h.1 h.2

/-- An operation whose overflow is judged by its exact result gives this result if it fits. -/
theorem exists_checked {overflows : LongWord → LongWord → Bool}
    {op : LongWord → LongWord → LongWord} {x y : LongWord} {n : Int}
    (h_overflows : overflows x y =
      (decide (0x8000_0000_0000_0000_0000_0000_0000_0000 ≤ n) ||
        decide (n < -0x8000_0000_0000_0000_0000_0000_0000_0000)))
    (h_op : ¬ overflows x y → (op x y).toInt = n) (h : FitsLongWord n) :
    ∃ z, checked overflows op x y = some z ∧ z.toInt = n := by
  obtain ⟨h_low, h_high⟩ := h
  have h_fits : ¬ overflows x y := by
    simp only [h_overflows, Bool.or_eq_true, decide_eq_true_eq]
    omega
  exact ⟨_, if_neg h_fits, h_op h_fits⟩

theorem exists_checked_sub {x y : LongWord} (h : FitsLongWord (x.toInt - y.toInt)) :
    ∃ z, checked BitVec.ssubOverflow BitVec.sub x y = some z ∧ z.toInt = x.toInt - y.toInt :=
  exists_checked rfl BitVec.toInt_sub_of_not_ssubOverflow h

theorem exists_checked_add {x y : LongWord} (h : FitsLongWord (x.toInt + y.toInt)) :
    ∃ z, checked BitVec.saddOverflow BitVec.add x y = some z ∧ z.toInt = x.toInt + y.toInt :=
  exists_checked rfl BitVec.toInt_add_of_not_saddOverflow h

/-- Division of words rounds towards zero, which is down for a distance. -/
theorem exists_checked_half {x : LongWord} (h : 0 ≤ x.toInt) :
    ∃ z, checked BitVec.sdivOverflow BitVec.sdiv x 2 = some z ∧ z.toInt = x.toInt / 2 := by
  have h_lt := x.toInt_lt
  refine exists_checked rfl (fun _ => ?_) ⟨by omega, by omega⟩
  rw [BitVec.toInt_sdiv_of_ne_or_ne _ _ (.inr (by decide)), Int.tdiv_eq_ediv_of_nonneg h]
  rfl

/-- The ends of the range fit into words, and so does the length of a list. -/
theorem exists_wordEnds (h : Declared spec f) (h_held : spec.IsHeld) :
    ∃ low high, f.wordEnds = some (low, high) ∧ low.toInt = f.low ∧ high.toInt = f.high := by
  have h_low : FitsLongWord f.low := steps_fit h h_held .min _ (by simp [steps])
  have h_high : FitsLongWord f.high := steps_fit h h_held .min _ (by simp [steps])
  cases h with
  | text le => exact ⟨_, _, rfl, toInt_ofInt_of_fits h_low, toInt_ofInt_of_fits h_high⟩
  | number le => exact ⟨_, _, rfl, toInt_ofInt_of_fits h_low, toInt_ofInt_of_fits h_high⟩
  | date h_first h_last le h_format => exact ⟨_, _, rfl, rfl, toInt_ofInt_of_fits h_high⟩
  | @choice values nonempty =>
    have h_length : FitsLongWord values.length := by
      have h_bound := h_held values rfl
      simp only [FitsLongWord]
      omega
    have h_one : (1 : LongWord).toInt = 1 := rfl
    obtain ⟨high, h_word, h_toInt⟩ := exists_checked_sub (x := .ofInt 128 values.length) (y := 1)
      (by rw [toInt_ofInt_of_fits h_length, h_one]; exact h_high)
    rw [toInt_ofInt_of_fits h_length, h_one] at h_toInt
    exact ⟨0, high, by rw [wordEnds, h_word]; rfl, rfl, h_toInt⟩
  | pattern expression maxRepeat plan => exact ⟨_, _, rfl, rfl, rfl⟩

/-- **No overflow.** Computing a position with words never stops, and gives the position. -/
theorem exists_wordPosition (h : Declared spec f) (h_held : spec.IsHeld) (c : FieldCase) :
    ∃ word, f.wordPosition c = some word ∧ word.toInt = f.position c := by
  have h_le := f.low_le_high
  obtain ⟨low, high, h_ends, h_low, h_high⟩ := exists_wordEnds h h_held
  have h_steps := steps_fit h h_held .avg
  -- the way to the middle: the distance of the ends, half of it, and the sum
  obtain ⟨distance, h_distance, h_distance_toInt⟩ := exists_checked_sub (x := high) (y := low)
    (by rw [h_low, h_high]; exact h_steps _ (by simp [steps]))
  rw [h_low, h_high] at h_distance_toInt
  obtain ⟨half, h_half, h_half_toInt⟩ := exists_checked_half (x := distance) (by omega)
  obtain ⟨middle, h_middle, h_middle_toInt⟩ := exists_checked_add (x := low) (y := half)
    (by rw [h_low, h_half_toInt, h_distance_toInt]; exact h_steps _ (by simp [steps, position]))
  rw [h_low, h_half_toInt, h_distance_toInt] at h_middle_toInt
  cases c with
  | min => exact ⟨low, by rw [wordPosition, h_ends]; rfl, h_low⟩
  | max => exact ⟨high, by rw [wordPosition, h_ends]; rfl, h_high⟩
  | _ =>
    refine ⟨middle, ?_, h_middle_toInt⟩
    simp only [wordPosition, h_ends, Option.bind_eq_bind, Option.bind_some, h_distance, h_half,
      h_middle]

/-! ### Boundaries -/

/-- **Boundaries.** Take any field that can be made. Its boundaries are listed in ascending order of
their positions, each as a case that has this position, and the positions of all three are among
them. There are as many as positions in the range of the declaration, up to three; the first is its
low end, the middle is rounded down, and the last is its high end.

Every position can be computed with signed words of 128 bits, as long as the values of a choice can
be counted with 64: no operation on the way overflows. -/
theorem boundaries_exact (h : Field.ofSpec spec = .ok f) :
    f.boundaries.Pairwise (fun b b' => b.2 < b'.2) ∧
    (∀ b ∈ f.boundaries, b.1.isBoundary = true ∧ f.position b.1 = b.2) ∧
    (∀ c, c.isBoundary = true → f.position c ∈ f.boundaries.map (·.2)) ∧
    (∃ low high, spec.Spans low high ∧ f.position .min = low ∧
      f.position .avg = (low + high) / 2 ∧ f.position .max = high ∧
      (f.boundaries.length : Int) = min 3 (high - low + 1)) ∧
    (spec.IsHeld → ∀ c, ∃ word, f.wordPosition c = some word ∧ word.toInt = f.position c) := by
  have h_declared := declared_of_ofSpec h
  refine ⟨f.boundaries_ascending, fun b h_b => ?_, fun c h_c => ?_, ?_,
    exists_wordPosition h_declared⟩
  · obtain ⟨h_boundary, h_position⟩ := eq_of_mem_boundaries h_b
    exact ⟨h_boundary, h_position.symm⟩
  · obtain ⟨b, h_b, h_position⟩ := f.exists_mem_boundaries h_c
    exact List.mem_map.2 ⟨b, h_b, h_position⟩
  · exact ⟨f.low, f.high, spans_of_declared h_declared, rfl, f.position_avg, rfl,
      f.length_boundaries_eq_min⟩

/-- All numbers of 64 bits: their middle is next to zero, and their distance does not fit into 64
bits. -/
theorem boundaries_exact_allNumbers :
    ∃ f, Field.ofSpec (.number Int64.minValue Int64.maxValue) = .ok f ∧
      f.boundaries.length = 3 ∧ f.position .avg = -1 ∧
      ∃ word, f.wordPosition .avg = some word ∧ word.toInt = -1 := by
  obtain ⟨f, h⟩ : ∃ f, Field.ofSpec (.number Int64.minValue Int64.maxValue) = .ok f := ⟨_, rfl⟩
  obtain ⟨-, -, -, ⟨_, _, ⟨rfl, rfl⟩, -, h_avg, -, h_length⟩, h_words⟩ := boundaries_exact h
  obtain ⟨word, h_word, h_toInt⟩ := h_words nofun .avg
  have h_middle : f.position .avg = -1 := h_avg
  exact ⟨f, h, Int.ofNat.inj h_length, h_middle, word, h_word, h_toInt.trans h_middle⟩

end Field

end Specimen
