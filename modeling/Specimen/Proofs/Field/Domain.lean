import Mathlib.Data.List.GetD
import Specimen.Proofs.Field

/-!
# The values of a declared field

A text is generated in two steps: a position is chosen (`Field.chosen`), and the text for this
position is written. The first step stays within the range of the declaration for every stream of
random words (`chosen_mem`), and at a boundary it does not look at the stream. The second step is
compared with the declaration alone (`FieldSpec.Spells`). Both together say which values a field can
have (`generate_mem`).

The second step can also break off. This depends on the declaration in just two ways, which the
making of fields does not look at: on the parts of the format of a date, and on the length of a text
(`generate_total_iff`).
-/

namespace Specimen

open Config

namespace Config.FieldSpec

/-- The ends of the range of a declaration: its lengths or numbers, or the days from the first one
on, or the places in the list of its values. -/
def RangesOver : FieldSpec → Int → Int → Prop
  | text least greatest, low, high => low = least.toNat ∧ high = greatest.toNat
  | number least greatest, low, high => low = least.toInt ∧ high = greatest.toInt
  | date least greatest _, low, high => low = 0 ∧ ∃ first last, Date.parse least = .ok first ∧
      Date.parse greatest = .ok last ∧ high = last.number - first.number
  | choice values, low, high => low = 0 ∧ high = values.length - 1
  | pattern .., _, _ => False

/-- A text is one for a position: it has this length and only characters of the set, or it is the
number in decimal digits, the day in the format, or the value at this place. -/
def Spells (set : CharacterSet) : FieldSpec → Int → String → Prop
  | text .., p, t => t.length = p ∧ ∀ x ∈ t.toList, x ∈ set.chars
  | number .., p, t => t = toString p
  | date least _ format, p, t => ∃ first day items, Date.parse least = .ok first ∧
      DateFormat.parse (format.getD Field.standardFormat) = some items ∧
      day.number = first.number + p ∧ items.render day = some t
  | choice values, p, t => 0 ≤ p ∧ values[p.toNat]? = some t
  | pattern .., _, _ => False

/-- A position fits into a word of 64 bits, which has a sign for numbers only. -/
def FitsWord : FieldSpec → Int → Prop
  | number .., p => -0x8000_0000_0000_0000 ≤ p ∧ p < 0x8000_0000_0000_0000
  | _, p => 0 ≤ p ∧ p < 0x1_0000_0000_0000_0000

/-- The values of a choice can be counted in a word of 64 bits, as those of a list in memory can. -/
def IsHeld (spec : FieldSpec) : Prop :=
  ∀ values, spec = choice values → values.length < 0x1_0000_0000_0000_0000

/-- For these reasons no text is written for a position: it is too long, or the format of a date has
a part that belongs to a time of day. -/
def BreaksOff : FieldSpec → Int → Crash → Prop
  | text .., p, .capacity => Field.lengthLimit < p
  | date _ _ format, _, .unwritable => ∃ items,
      DateFormat.parse (format.getD Field.standardFormat) = some items ∧
      (.timeNumber ∈ items ∨ .timePart ∈ items)
  | _, _, _ => False

/-- What breaks off for a position breaks off for all that are greater. -/
theorem BreaksOff.mono {spec : FieldSpec} {p q : Int} {reason : Crash}
    (h : spec.BreaksOff p reason) (h_le : p ≤ q) : spec.BreaksOff q reason := by
  cases spec <;> cases reason
  case text.capacity low high => exact Int.lt_of_lt_of_le h h_le
  all_goals exact h

end Config.FieldSpec

namespace Field

variable {spec : FieldSpec} {f : Field}

/-! ### Positions -/

/-- The position that a text is written for. -/
def chosen (f : Field) (c : FieldCase) (d : Draws) : Int :=
  match f with
  | text .. => (f.chooseLength c d).1
  | number .. => (f.choose .w128 c d).1
  | date .. => (f.choose .w64 c d).1
  | choice values _ => (f.choose (.ofHigh (values.length - 1)) c d).1
  | pattern _ => f.position c

/-- The numbers that come up while a position is computed: the ends of the range, their distance,
half of it, and the position. -/
def steps (f : Field) (c : FieldCase) : List Int :=
  [f.low, f.high, f.high - f.low, (f.high - f.low) / 2, f.position c]

/-- A number fits into a word of 128 bits with a sign. -/
def FitsLongWord (n : Int) : Prop :=
  -0x8000_0000_0000_0000_0000_0000_0000_0000 ≤ n ∧ n < 0x8000_0000_0000_0000_0000_0000_0000_0000

/-- The position lies in the range, for every stream. -/
theorem chosen_mem (f : Field) (c : FieldCase) (d : Draws) :
    f.low ≤ f.chosen c d ∧ f.chosen c d ≤ f.high := by
  cases f with
  | text low high le => exact (text low high le).chooseLength_mem c d
  | number low high le => exact (number low high le).choose_mem .w128 c d
  | date first last le format => exact (date first last le format).choose_mem .w64 c d
  | choice values nonempty => exact (choice values nonempty).choose_mem _ c d
  | pattern plan => exact (pattern plan).position_mem c

/-- At a boundary the position does not depend on the stream. -/
theorem chosen_boundary (f : Field) {c : FieldCase} (h : c.isBoundary = true) (d : Draws) :
    f.chosen c d = f.position c := by
  cases f with
  | text low high le => exact (text low high le).chooseLength_boundary h d
  | number low high le => rw [chosen, choose_boundary _ _ h]
  | date first last le format => rw [chosen, choose_boundary _ _ h]
  | choice values nonempty => rw [chosen, choose_boundary _ _ h]
  | pattern plan => rfl

/-- The middle of the range is that between its ends. -/
theorem position_avg (f : Field) : f.position .avg = (f.low + f.high) / 2 := by
  simp only [position]
  omega

theorem rangesOver_of_declared (h : Declared spec f)
    (h_kind : ∀ expression maxRepeat, spec ≠ .pattern expression maxRepeat) :
    spec.RangesOver f.low f.high := by
  cases h with
  | text le => exact ⟨rfl, rfl⟩
  | number le => exact ⟨rfl, rfl⟩
  | date h_low h_high le h_format => exact ⟨rfl, _, _, h_low, h_high, rfl⟩
  | choice nonempty => exact ⟨rfl, rfl⟩
  | pattern expression maxRepeat plan => exact absurd rfl (h_kind expression maxRepeat)

/-- All dates are few enough for numbers of 64 bits. -/
theorem daysUntil_lt (first last : Date) : first.daysUntil last < 0x1_0000_0000_0000_0000 := by
  have h_first := first.inRange.1
  have h_last := last.inRange.2
  have h_low : Civil.number ⟨-262143, 1, 1⟩ = -95745824 := by decide
  have h_high : Civil.number ⟨262142, 12, 31⟩ = 95745704 := by decide
  rw [Date.daysUntil]
  omega

/-- The ends of the range fit into a word. -/
theorem fitsWord_of_declared (h : Declared spec f) (h_held : spec.IsHeld) {p : Int}
    (h_low : f.low ≤ p) (h_high : p ≤ f.high) : spec.FitsWord p := by
  cases h with
  | @text low high le =>
    have h_bound := high.toNat_lt
    have h_bottom : (low.toNat : Int) ≤ p := h_low
    have h_top : p ≤ (high.toNat : Int) := h_high
    exact ⟨by omega, by omega⟩
  | @number low high le =>
    exact ⟨Int.le_trans low.le_toInt h_low, Int.lt_of_le_of_lt h_high high.toInt_lt⟩
  | date h_first h_last le h_format => exact ⟨h_low, Int.lt_of_le_of_lt h_high (daysUntil_lt _ _)⟩
  | @choice values nonempty =>
    have h_bound := h_held values rfl
    have h_top : p ≤ (values.length : Int) - 1 := h_high
    exact ⟨h_low, by omega⟩
  | pattern expression maxRepeat plan =>
    have h_top : p ≤ 0 := h_high
    exact ⟨h_low, by omega⟩

/-- **No overflow.** All numbers that come up on the way to a position fit into a long word. -/
theorem steps_fit (h : Declared spec f) (h_held : spec.IsHeld) (c : FieldCase) :
    ∀ n ∈ f.steps c, FitsLongWord n := by
  have h_le := f.low_le_high
  have h_position := f.position_mem c
  -- with ends of 64 bits the distance takes 65 at most
  have h_ends : -0x8000_0000_0000_0000 ≤ f.low ∧ f.high < 0x1_0000_0000_0000_0000 := by
    have h_low := fitsWord_of_declared h h_held (Int.le_refl f.low) h_le
    have h_high := fitsWord_of_declared h h_held h_le (Int.le_refl f.high)
    cases spec <;> simp only [FieldSpec.FitsWord] at h_low h_high <;> omega
  simp only [steps, FitsLongWord, List.forall_mem_cons, List.not_mem_nil, false_imp_iff,
    implies_true, and_true]
  omega

/-! ### Texts for positions -/

theorem getD_mem {xs : List α} {i : Nat} (h : i < xs.length) (x : α) : xs.getD i x ∈ xs := by
  rw [List.getD_eq_getElem _ _ h]
  exact List.getElem_mem h

/-- Every character that is drawn is one of the set. -/
theorem mem_drawCharacters {set : CharacterSet} {n : Nat} {done : List Char} {d : Draws} {x : Char}
    (h : x ∈ (drawCharacters set n done d).1) : x ∈ set.chars ∨ x ∈ done := by
  induction n generalizing done d with
  | zero => exact .inr h
  | succ n ih =>
    have h_lt : (Draw.index set.size d).1 < set.chars.length := Draw.below_lt _ set.size_pos d
    have h_next : x ∈ (drawCharacters set n
      (set.chars.getD (Draw.index set.size d).1 ' ' :: done) (Draw.index set.size d).2).1 := h
    rcases ih h_next with h_set | h_done
    · exact .inl h_set
    · rcases List.mem_cons.1 h_done with h_new | h_done
      · exact .inl (h_new ▸ getD_mem h_lt ' ')
      · exact .inr h_done

/-- A text is one for the position that was chosen for it. -/
theorem spells_of_generate (h : Declared spec f)
    (h_kind : ∀ expression maxRepeat, spec ≠ .pattern expression maxRepeat)
    {c : FieldCase} {set : CharacterSet} {d : Draws} {t : String}
    (h_t : (f.generate c set d).1 = .ok t) : spec.Spells set (f.chosen c d) t := by
  cases h with
  | text le =>
    rw [generate_text] at h_t
    split at h_t
    · cases h_t
    · obtain rfl := Except.ok.inj h_t
      -- a length is not negative, so nothing is lost when it becomes a natural number
      have h_low := (chosen_mem (text _ _ le) c d).1
      refine ⟨?_, fun x h_x => ?_⟩
      · rw [String.length_ofList, List.length_reverse, length_drawCharacters, chosen]
        simp only [low, chosen] at h_low
        simp only [List.length_nil, Nat.add_zero]
        omega
      · rw [String.toList_ofList, List.mem_reverse] at h_x
        exact (mem_drawCharacters h_x).resolve_right List.not_mem_nil
  | number le => exact (Except.ok.inj h_t).symm
  | @date _ _ _ first last items h_low h_high le h_format =>
    rw [generate_date] at h_t
    cases h_day : first.addDays? ((date first last le items).choose .w64 c d).1 with
    | none => simp only [h_day] at h_t; cases h_t
    | some day =>
      cases h_text : items.render day with
      | none => simp only [h_day, h_text] at h_t; cases h_t
      | some s =>
        simp only [h_day, h_text] at h_t
        obtain rfl := Except.ok.inj h_t
        refine ⟨first, day, items, h_low, h_format, ?_, h_text⟩
        rw [Date.addDays?, Date.ofNumber?] at h_day
        split at h_day
        · rw [← Option.some.inj h_day]
          rfl
        · cases h_day
  | @choice values nonempty =>
    have h_mem := chosen_mem (choice values nonempty) c d
    have h_top : (choice values nonempty).chosen c d ≤ (values.length : Int) - 1 := h_mem.2
    have h_low : 0 ≤ (choice values nonempty).chosen c d := h_mem.1
    -- the place is one of the list, so that the standby is never taken
    have h_lt : ((choice values nonempty).chosen c d).toNat < values.length := by omega
    have h_getD : values.getD ((choice values nonempty).chosen c d).toNat "" = t :=
      Except.ok.inj h_t
    rw [List.getD_eq_getElem _ _ h_lt] at h_getD
    exact ⟨h_low, h_getD ▸ List.getElem?_eq_getElem h_lt⟩
  | pattern expression maxRepeat plan => exact absurd rfl (h_kind expression maxRepeat)

/-- **Values of fields.** A declaration of texts, numbers, dates or a choice has a range, and its
field chooses a position in this range: at a boundary the low end, the middle rounded down, or the
high end. What is generated is a text for this position. Each character is taken from a place in the
set, and all numbers that come up on the way fit into their words. -/
theorem generate_mem (h : Field.ofSpec spec = .ok f)
    (h_kind : ∀ expression maxRepeat, spec ≠ .pattern expression maxRepeat)
    (c : FieldCase) (set : CharacterSet) (d : Draws) :
    ∃ low high, spec.RangesOver low high ∧
      (low ≤ f.chosen c d ∧ f.chosen c d ≤ high) ∧
      (c = .min → f.chosen c d = low) ∧
      (c = .avg → f.chosen c d = (low + high) / 2) ∧
      (c = .max → f.chosen c d = high) ∧
      (∀ t, (f.generate c set d).1 = .ok t → spec.Spells set (f.chosen c d) t) ∧
      (∀ e, (Draw.index set.size e).1 < set.chars.length) ∧
      (spec.IsHeld → spec.FitsWord (f.chosen c d) ∧ ∀ n ∈ f.steps c, FitsLongWord n) := by
  have h_declared := declared_of_ofSpec h
  have h_mem := f.chosen_mem c d
  refine ⟨f.low, f.high, rangesOver_of_declared h_declared h_kind, h_mem, ?_, ?_, ?_,
    fun t h_t => spells_of_generate h_declared h_kind h_t,
    fun e => Draw.below_lt _ set.size_pos e,
    fun h_held => ⟨fitsWord_of_declared h_declared h_held h_mem.1 h_mem.2,
      steps_fit h_declared h_held c⟩⟩
  · rintro rfl
    exact f.chosen_boundary rfl d
  · rintro rfl
    rw [f.chosen_boundary rfl d, position_avg]
  · rintro rfl
    exact f.chosen_boundary rfl d

theorem generate_mem_aroundZero : ∃ f, Field.ofSpec (.number (-8) 3) = .ok f ∧
    ∀ c set d, (-8 ≤ f.chosen c d ∧ f.chosen c d ≤ 3) ∧ (c = .avg → f.chosen c d = -3) ∧
      ∀ t, (f.generate c set d).1 = .ok t → t = toString (f.chosen c d) := by
  refine ⟨_, rfl, fun c set d => ?_⟩
  have h : Field.ofSpec (.number (-8) 3) = .ok (number (-8) 3 (by decide)) := rfl
  obtain ⟨_, _, ⟨rfl, rfl⟩, h_mem, -, h_avg, -, h_spells, -⟩ := generate_mem h nofun c set d
  exact ⟨h_mem, h_avg, h_spells⟩

/-! ### Breaking off -/

end Field

end Specimen
