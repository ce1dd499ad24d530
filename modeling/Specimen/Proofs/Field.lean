import Specimen.Field

/-!
# What comes of fields

Drawn positions lie in the range of a field (`Draw.range_mem`), so generating a text never fails
with a fault: a field gives a text, or the program breaks off because the text is too long or the
format of a date asks for a time of day (`Field.generate_error`). Fields of which neither can be
true always give a text (`Field.Renders.generate_ok`), and at a boundary numbers, dates and choices
give the text of the boundary whatever is drawn (`Field.TextAt.generate_eq`).
-/

namespace Specimen

/-! ### Ranges -/

theorem Draw.range_apply (w : Draw.Width) (low high : Int) (d : Draws) :
    (Draw.range w low high d).1 = low +
      (((if (high - low + 1).toNat % w.count = 0 then w.draw
        else Draw.below w ((high - low + 1).toNat % w.count)) d).1 : Nat) := by
  unfold Draw.range
  split <;> rfl

/-- **Ranges.** What is drawn from a range lies in it, whatever the width is: the range is only ever
cut to its remainder by the width. -/
theorem Draw.range_mem (w : Draw.Width) {low high : Int} (h_le : low ≤ high) (d : Draws) :
    low ≤ (Draw.range w low high d).1 ∧ (Draw.range w low high d).1 ≤ high := by
  rw [Draw.range_apply]
  split
  · next h_mod =>
    have h_count := Nat.le_of_dvd (by omega) (Nat.dvd_of_mod_eq_zero h_mod)
    have h_draw := w.draw_lt d
    omega
  · next h_mod =>
    have h_below := Draw.below_lt w (Nat.pos_of_ne_zero h_mod) d
    have h_small := Nat.mod_le (high - low + 1).toNat w.count
    omega

namespace Field

/-! ### Declarations -/

theorem ofSpec_number (low high : Int64) : ofSpec (.number low high) =
    if h : low.toInt ≤ high.toInt then .ok (number low.toInt high.toInt h)
    else .error (.numberRange low.toInt high.toInt) := rfl

theorem ofSpec_choice (values : List String) : ofSpec (.choice values) =
    if h : values ≠ [] then .ok (choice values h) else .error .noChoice := rfl

theorem ofSpec_date (low high : String) (format : Option String) :
    ofSpec (.date low high format) = (dateOf low).bind fun first => (dateOf high).bind fun last =>
      if h : first.number ≤ last.number then
        match DateFormat.parse (format.getD standardFormat) with
        | some f => .ok (date first last h f)
        | none => .error (.format (format.getD standardFormat))
      else .error (.dateRange first last) := rfl

/-- A field is the one of a declaration. -/
inductive Declared : Config.FieldSpec → Field → Prop
  | text {low high : UInt64} (le : low.toNat ≤ high.toNat) :
      Declared (.text low high) (text low.toNat high.toNat le)
  | number {low high : Int64} (le : low.toInt ≤ high.toInt) :
      Declared (.number low high) (number low.toInt high.toInt le)
  | date {low high : String} {format : Option String} {first last : Date} {items : DateFormat}
      (h_low : Date.parse low = .ok first) (h_high : Date.parse high = .ok last)
      (le : first.number ≤ last.number)
      (h_format : DateFormat.parse (format.getD standardFormat) = some items) :
      Declared (.date low high format) (date first last le items)
  | choice {values : List String} (nonempty : values ≠ []) :
      Declared (.choice values) (choice values nonempty)
  | pattern (expression : String) (maxRepeat : Option UInt32) (plan : Regex.Plan) :
      Declared (.pattern expression maxRepeat) (pattern plan)

theorem dateOf_eq_ok_iff {s : String} {date : Date} :
    dateOf s = .ok date ↔ Date.parse s = .ok date := by
  rw [dateOf]
  cases Date.parse s with
  | error fault => exact iff_of_false (fun h => by cases h) (fun h => by cases h)
  | ok first =>
    exact ⟨fun h => congrArg _ (Except.ok.inj h), fun h => congrArg _ (Except.ok.inj h)⟩

/-- What is made of a declaration is its field. -/
theorem declared_of_ofSpec {spec : Config.FieldSpec} {f : Field} (h : ofSpec spec = .ok f) :
    Declared spec f := by
  cases spec with
  | text low high =>
    rw [ofSpec] at h
    split at h
    · next le => exact Except.ok.inj h ▸ .text le
    · cases h
  | number low high =>
    rw [ofSpec_number] at h
    split at h
    · next le => exact Except.ok.inj h ▸ .number le
    · cases h
  | date low high format =>
    rw [ofSpec_date] at h
    cases h_low : dateOf low with
    | error fault => rw [h_low] at h; cases h
    | ok first =>
      cases h_high : dateOf high with
      | error fault => rw [h_low, h_high] at h; cases h
      | ok last =>
        rw [h_low, h_high] at h
        simp only [Except.bind] at h
        -- the two dates are read first, then compared, and the format comes last
        split at h
        · next le =>
          split at h
          · next items h_format =>
            exact Except.ok.inj h ▸
              .date (dateOf_eq_ok_iff.1 h_low) (dateOf_eq_ok_iff.1 h_high) le h_format
          · cases h
        · cases h
  | choice values =>
    rw [ofSpec_choice] at h
    split at h
    · next nonempty => exact Except.ok.inj h ▸ .choice nonempty
    · cases h
  | pattern expression maxRepeat =>
    rw [ofSpec] at h
    split at h
    · next plan _ => exact Except.ok.inj h ▸ .pattern expression maxRepeat plan
    · cases h

/-- Only patterns are read as patterns. -/
theorem eq_pattern_of_ofSpec {spec : Config.FieldSpec} {plan : Regex.Plan}
    (h : ofSpec spec = .ok (.pattern plan)) :
    ∃ expression maxRepeat, spec = .pattern expression maxRepeat := by
  cases declared_of_ofSpec h with
  | pattern expression maxRepeat _ => exact ⟨expression, maxRepeat, rfl⟩

/-! ### Positions -/

/-- The position of a case lies in the range. -/
theorem position_mem (f : Field) (c : FieldCase) :
    f.low ≤ f.position c ∧ f.position c ≤ f.high := by
  have h := f.low_le_high
  cases c <;> simp only [position] <;> omega

theorem mem_distinct {f : Field} {b : FieldCase × Int} {cs : List FieldCase} {seen : List Int}
    (h : b ∈ f.distinct cs seen) : b.1 ∈ cs ∧ b.2 = f.position b.1 ∧ b.2 ∉ seen := by
  induction cs generalizing seen with
  | nil => exact absurd h List.not_mem_nil
  | cons c cs ih =>
    rw [distinct] at h
    split at h
    · exact (ih h).imp_left (List.mem_cons_of_mem _)
    · next h_new =>
      rcases List.mem_cons.1 h with rfl | h
      · exact ⟨List.mem_cons_self, rfl, by simpa using h_new⟩
      · obtain ⟨h_mem, h_position, h_unseen⟩ := ih h
        exact ⟨List.mem_cons_of_mem _ h_mem, h_position, fun h_seen =>
          h_unseen (List.mem_cons_of_mem _ h_seen)⟩

/-- A boundary is listed with its position. -/
theorem eq_of_mem_boundaries {f : Field} {b : FieldCase × Int} (h : b ∈ f.boundaries) :
    b.1.isBoundary = true ∧ b.2 = f.position b.1 := by
  obtain ⟨h_mem, h_position, -⟩ := mem_distinct h
  exact ⟨List.elem_iff.2 h_mem, h_position⟩

/-- Every boundary has the position of one that is listed. -/
theorem exists_mem_boundaries (f : Field) {c : FieldCase} (h : c.isBoundary = true) :
    ∃ b ∈ f.boundaries, b.2 = f.position c := by
  have h_distinct : ∀ cs seen, c ∈ cs → f.position c ∈ seen ∨
      ∃ b ∈ f.distinct cs seen, b.2 = f.position c := by
    intro cs
    induction cs with
    | nil => exact fun _ h_c => absurd h_c List.not_mem_nil
    | cons c' cs ih =>
      intro seen h_c
      rw [distinct]
      split
      · next h_old =>
        rcases List.mem_cons.1 h_c with rfl | h_c
        · exact .inl (by simpa using h_old)
        · exact ih seen h_c
      · rcases List.mem_cons.1 h_c with rfl | h_c
        · exact .inr ⟨_, List.mem_cons_self, rfl⟩
        · rcases ih (f.position c' :: seen) h_c with h_seen | ⟨b, h_b, h_position⟩
          · rcases List.mem_cons.1 h_seen with h_same | h_seen
            · exact .inr ⟨_, List.mem_cons_self, h_same.symm⟩
            · exact .inl h_seen
          · exact .inr ⟨b, List.mem_cons_of_mem _ h_b, h_position⟩
  exact (h_distinct _ _ (List.elem_iff.1 h)).resolve_left List.not_mem_nil

/-- A field has at most three boundaries. -/
theorem length_boundaries_le (f : Field) : f.boundaries.length ≤ 3 := by
  have h_distinct : ∀ cs seen, (f.distinct cs seen).length ≤ cs.length := by
    intro cs
    induction cs with
    | nil => exact fun _ => Nat.le_refl _
    | cons c cs ih =>
      intro seen
      rw [distinct]
      split
      · exact Nat.le_succ_of_le (ih seen)
      · exact Nat.succ_le_succ (ih _)
  exact h_distinct FieldCase.boundaries []

/-- Boundaries are listed from low to high, and no position twice. -/
theorem boundaries_ascending (f : Field) : f.boundaries.Pairwise fun b b' => b.2 < b'.2 := by
  have h_distinct : ∀ cs seen, cs.Pairwise (fun c c' => f.position c ≤ f.position c') →
      (f.distinct cs seen).Pairwise fun b b' => b.2 < b'.2 := by
    intro cs
    induction cs with
    | nil => exact fun _ _ => .nil
    | cons c cs ih =>
      intro seen h_cs
      obtain ⟨h_c, h_cs⟩ := List.pairwise_cons.1 h_cs
      rw [distinct]
      split
      · exact ih seen h_cs
      · refine .cons (fun b h_b => ?_) (ih _ h_cs)
        -- what comes later is not lower, and is not at this position again
        obtain ⟨h_mem, h_position, h_unseen⟩ := mem_distinct h_b
        have h_le : f.position c ≤ b.2 := h_position ▸ h_c b.1 h_mem
        have h_ne : f.position c ≠ b.2 := fun h_eq => h_unseen (h_eq ▸ List.mem_cons_self)
        omega
  refine h_distinct _ _ ?_
  have h_min := f.position_mem .min
  have h_avg := f.position_mem .avg
  have h_max := f.position_mem .max
  simp only [position] at h_min h_avg h_max
  simp only [FieldCase.boundaries, List.pairwise_cons, List.mem_cons, List.not_mem_nil, or_false,
    forall_eq_or_imp, forall_eq, position]
  exact ⟨⟨h_avg.1, h_max.1⟩, h_avg.2, nofun, .nil⟩

/-- A position that is chosen lies in the range. -/
theorem choose_mem (f : Field) (w : Draw.Width) (c : FieldCase) (d : Draws) :
    f.low ≤ (f.choose w c d).1 ∧ (f.choose w c d).1 ≤ f.high := by
  unfold choose
  split
  · exact f.position_mem c
  · exact Draw.range_mem w f.low_le_high d

/-- The position of a boundary is chosen without a draw. -/
theorem choose_boundary (f : Field) (w : Draw.Width) {c : FieldCase} (h : c.isBoundary = true)
    (d : Draws) : f.choose w c d = (f.position c, d) := by
  rw [choose, if_pos h]
  rfl

/-- A day within the range of a field is in the range of dates. -/
theorem exists_addDays? {first last : Date} {days : Int} (h_low : 0 ≤ days)
    (h_high : days ≤ first.daysUntil last) : ∃ day, first.addDays? days = some day := by
  have h_first := first.inRange.1
  have h_last := last.inRange.2
  rw [Date.daysUntil] at h_high
  rw [Date.addDays?, Date.ofNumber?, dif_pos ⟨by omega, by omega⟩]
  exact ⟨_, rfl⟩

/-! ### Generating -/

/-- A text is drawn character by character if its length is not too great. -/
theorem generate_text {low high : Nat} {le : low ≤ high} (c : FieldCase) (set : CharacterSet)
    (d : Draws) : ((text low high le).generate c set d).1 =
      if lengthLimit < ((text low high le).chooseLength c d).1.toNat then
        .error (.crash .capacity)
      else .ok (String.ofList (drawCharacters set ((text low high le).chooseLength c d).1.toNat []
        ((text low high le).chooseLength c d).2).1.reverse) := by
  simp only [generate, bind, StateT.bind]
  obtain ⟨length, d'⟩ := (text low high le).chooseLength c d
  simp only
  split <;> rfl

/-- A date is as many days after the first one as were chosen. -/
theorem generate_date {first last : Date} {le : first.number ≤ last.number} {format : DateFormat}
    (c : FieldCase) (set : CharacterSet) (d : Draws) :
    (date first last le format).generate c set d =
      (match first.addDays? ((date first last le format).choose .w64 c d).1 with
        | none => .error (.fault (.offset ((date first last le format).choose .w64 c d).1))
        | some day =>
          match format.render day with
          | none => .error (.crash .unwritable)
          | some t => .ok t,
        ((date first last le format).choose .w64 c d).2) := rfl

/-- The day that is chosen for a date is in the range of dates. -/
theorem exists_day {first last : Date} (le : first.number ≤ last.number) (format : DateFormat)
    (c : FieldCase) (d : Draws) :
    ∃ day, first.addDays? ((date first last le format).choose .w64 c d).1 = some day := by
  have h_mem := (date first last le format).choose_mem .w64 c d
  exact exists_addDays? h_mem.1 h_mem.2

/-- **Fields do not fail.** If no text comes of a field, the program breaks off. -/
theorem generate_error (f : Field) (c : FieldCase) (set : CharacterSet) (d : Draws)
    {failure : Failure} (h : (f.generate c set d).1 = .error failure) :
    ∃ reason, failure = .crash reason := by
  cases f with
  | text low high le =>
    rw [generate_text] at h
    split at h
    · cases h
      exact ⟨_, rfl⟩
    · cases h
  | number low high le => cases h
  | date first last le format =>
    -- the day is always there, but it may have no text
    obtain ⟨day, h_day⟩ := exists_day le format c d
    rw [generate_date, h_day] at h
    cases h_text : format.render day with
    | none =>
      simp only [h_text] at h
      cases h
      exact ⟨_, rfl⟩
    | some t =>
      simp only [h_text] at h
      cases h
  | choice values nonempty => cases h
  | pattern plan => cases h

/-- Texts of the field are short enough, or its format is made of parts of dates. -/
def Renders : Field → Prop
  | text _ maxLength _ => maxLength ≤ lengthLimit
  | date _ _ _ format => format.isOfDates = true
  | _ => True

/-- A length that is chosen lies in the range. -/
theorem chooseLength_mem (f : Field) (c : FieldCase) (d : Draws) :
    f.low ≤ (f.chooseLength c d).1 ∧ (f.chooseLength c d).1 ≤ f.high := by
  unfold chooseLength
  split
  · exact ⟨Int.le_refl _, f.low_le_high⟩
  · exact f.choose_mem _ c d

theorem chooseLength_le {low high : Nat} (le : low ≤ high) (h_high : high ≤ lengthLimit)
    (c : FieldCase) (d : Draws) :
    ((text low high le).chooseLength c d).1.toNat ≤ lengthLimit := by
  have h_mem : _ ≤ (high : Int) := ((text low high le).chooseLength_mem c d).2
  omega

/-- **Fields that render.** A field whose texts can be written gives one. -/
theorem Renders.generate_ok {f : Field} (h : f.Renders) (c : FieldCase) (set : CharacterSet)
    (d : Draws) : ∃ t, (f.generate c set d).1 = .ok t := by
  cases f with
  | text low high le =>
    rw [generate_text, if_neg (Nat.not_lt.2 (chooseLength_le le h c d))]
    exact ⟨_, rfl⟩
  | number low high le => exact ⟨_, rfl⟩
  | date first last le format =>
    obtain ⟨day, h_day⟩ := exists_day le format c d
    have h_some : (format.render day).isSome = true := (DateFormat.isSome_render format day).trans h
    obtain ⟨t, h_t⟩ := Option.isSome_iff_exists.1 h_some
    rw [generate_date, h_day]
    simp only [h_t]
    exact ⟨t, rfl⟩
  | choice values nonempty => exact ⟨_, rfl⟩
  | pattern plan => exact ⟨_, rfl⟩

/-- A text is the one of a number, a date or a choice at a boundary. -/
def TextAt (f : Field) (c : FieldCase) (t : String) : Prop :=
  match f with
  | number .. => t = toString (f.position c)
  | date first _ _ format => ∃ day, first.addDays? (f.position c) = some day ∧
    format.render day = some t
  | choice values _ => values[(f.position c).toNat]? = some t
  | _ => False

/-- A text at a boundary is the only one that is generated for it, and nothing is drawn for it. -/
theorem TextAt.generate_eq {f : Field} {c : FieldCase} {t : String} (h : f.TextAt c t)
    (h_c : c.isBoundary = true) (set : CharacterSet) (d : Draws) :
    f.generate c set d = (.ok t, d) := by
  cases f with
  | text _ _ _ => exact h.elim
  | number _ _ _ =>
    simp only [generate, bind, StateT.bind, choose_boundary _ _ h_c]
    rw [show t = _ from h]
    rfl
  | date first _ _ format =>
    obtain ⟨day, h_day, h_t⟩ := h
    simp only [generate, bind, StateT.bind, choose_boundary _ _ h_c, h_day, h_t]
    rfl
  | choice values _ =>
    have h_t : values[_]? = some t := h
    simp only [generate, bind, StateT.bind, choose_boundary _ _ h_c]
    rw [List.getD_eq_getElem?_getD, h_t]
    rfl
  | pattern _ => exact h.elim

/-- Numbers, choices and dates whose format is made of parts of dates have a text at each
boundary. -/
theorem exists_textAt {f : Field} (h : f.Renders)
    (h_kind : ∀ low high le, f ≠ text low high le) (h_pattern : ∀ plan, f ≠ pattern plan)
    (c : FieldCase) : ∃ t, f.TextAt c t := by
  have h_mem := f.position_mem c
  cases f with
  | text low high le => exact absurd rfl (h_kind low high le)
  | number _ _ _ => exact ⟨_, rfl⟩
  | date first last le format =>
    obtain ⟨day, h_day⟩ := exists_addDays? h_mem.1 h_mem.2
    have h_some : (format.render day).isSome = true := (DateFormat.isSome_render format day).trans h
    obtain ⟨t, h_t⟩ := Option.isSome_iff_exists.1 h_some
    exact ⟨t, day, h_day, h_t⟩
  | choice values nonempty =>
    have h_pos := List.length_pos_iff.2 nonempty
    have h_high : (choice values nonempty).position c ≤ (values.length : Int) - 1 := h_mem.2
    have h_low : 0 ≤ (choice values nonempty).position c := h_mem.1
    have h_lt : ((choice values nonempty).position c).toNat < values.length := by omega
    exact ⟨_, List.getElem?_eq_getElem h_lt⟩
  | pattern plan => exact absurd rfl (h_pattern plan)

/-- A text is one that the field can have at a boundary: its number, day or choice there, a text of
the length there, or any sample of the pattern. -/
def Shows (f : Field) (c : FieldCase) (t : String) : Prop :=
  match f with
  | text .. => (t.length : Int) = f.position c
  | pattern plan => ∃ d, (plan.sample d).1 = t
  | f => f.TextAt c t

/-- Only the position of the boundary counts. -/
theorem Shows.congr {f : Field} {c c' : FieldCase} {t : String} (h : f.Shows c t)
    (h_position : f.position c' = f.position c) : f.Shows c' t := by
  cases f with
  | text _ _ _ => exact Eq.trans h h_position.symm
  | number _ _ _ => exact Eq.trans h (congrArg toString h_position.symm)
  | date first _ _ format =>
    obtain ⟨day, h_day, h_t⟩ := h
    exact ⟨day, h_position ▸ h_day, h_t⟩
  | choice values nonempty =>
    have h_t : values[((choice values nonempty).position c).toNat]? = some t := h
    rw [← h_position] at h_t
    exact h_t
  | pattern _ => exact h

theorem length_drawCharacters (set : CharacterSet) (n : Nat) (done : List Char) (d : Draws) :
    (drawCharacters set n done d).1.length = n + done.length := by
  induction n generalizing done d with
  | zero => exact (Nat.zero_add _).symm
  | succ n ih =>
    have h_next : (drawCharacters set (n + 1) done d).1.length = n + (done.length + 1) := ih _ _
    omega

/-- The length of a boundary is its position. -/
theorem chooseLength_boundary (f : Field) {c : FieldCase} (h : c.isBoundary = true) (d : Draws) :
    (f.chooseLength c d).1 = f.position c := by
  unfold chooseLength
  split
  · next h_one =>
    have h_mem := f.position_mem c
    change f.low = f.position c
    omega
  · rw [choose_boundary f _ h]

/-- **What is generated for a boundary** is a text of the field at this boundary. -/
theorem shows_of_generate {f : Field} {c : FieldCase} (h_c : c.isBoundary = true)
    {set : CharacterSet} {d : Draws} {t : String} (h : (f.generate c set d).1 = .ok t) :
    f.Shows c t := by
  cases f with
  | text low high le =>
    rw [generate_text, chooseLength_boundary _ h_c] at h
    split at h
    · cases h
    · obtain rfl := Except.ok.inj h
      -- the length is the position, which is not negative
      have h_low : (0 : Int) ≤ (text low high le).low := Int.natCast_nonneg low
      have h_mem := ((text low high le).position_mem c).1
      rw [Shows, String.length_ofList, List.length_reverse, length_drawCharacters]
      simp only [List.length_nil, Nat.add_zero]
      omega
  | number low high le =>
    simp only [generate, bind, StateT.bind, choose_boundary _ _ h_c] at h
    exact (Except.ok.inj h).symm
  | date first last le format =>
    rw [generate_date, choose_boundary _ _ h_c] at h
    -- both the day and its text are there, as there is an answer
    cases h_day : first.addDays? ((date first last le format).position c) with
    | none => simp only [h_day] at h; cases h
    | some day =>
      cases h_text : format.render day with
      | none => simp only [h_day, h_text] at h; cases h
      | some s =>
        simp only [h_day, h_text] at h
        obtain rfl := Except.ok.inj h
        exact ⟨day, h_day, h_text⟩
  | choice values nonempty =>
    have h_position := (choice values nonempty).position_mem c
    have h_pos := List.length_pos_iff.2 nonempty
    simp only [low, high] at h_position
    simp only [generate, bind, StateT.bind, choose_boundary _ _ h_c] at h
    -- the position is an index
    have h_lt : ((choice values nonempty).position c).toNat < values.length := by omega
    obtain rfl := Except.ok.inj h
    change values[((choice values nonempty).position c).toNat]? = some _
    rw [List.getD_eq_getElem?_getD, List.getElem?_eq_getElem h_lt]
    rfl
  | pattern plan => exact ⟨d, Except.ok.inj h⟩

end Field

end Specimen
