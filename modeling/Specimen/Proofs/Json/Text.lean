import Specimen.Proofs.Json.Brackets
import Specimen.Proofs.Json.Entries

/-!
# Written documents read back

Whatever has been written by one of the writers is read back as the same document, provided that its
numbers are integers of 64 bits and that it is not nested too deep (`Json.parse_compact`,
`Json.parse_pretty`). Different documents have different texts, however deep they are
(`Json.compact_inj`).
-/

namespace Specimen

/-! ### Documents -/

namespace Json

open Scan

mutual

/-- All numbers in a document are integers of 64 bits, signed or not. -/
def Exact : Json → Prop
  | number n => ∃ i, n = .int i ∧ -0x8000_0000_0000_0000 ≤ i ∧ i ≤ 0xffff_ffff_ffff_ffff
  | array items => ExactItems items
  | object es => ExactEntries es
  | _ => True

/-- `Exact` of every item. -/
def ExactItems : List Json → Prop
  | [] => True
  | j :: js => Exact j ∧ ExactItems js

/-- `Exact` of the value of every entry. -/
def ExactEntries : List (String × Json) → Prop
  | [] => True
  | (_, j) :: es => Exact j ∧ ExactEntries es

end

theorem exactItems_iff {items : List Json} : ExactItems items ↔ ∀ j ∈ items, j.Exact := by
  induction items with
  | nil => simp [ExactItems]
  | cons j js ih => rw [ExactItems, ih, List.forall_mem_cons]

theorem exactEntries_iff {es : List (String × Json)} : ExactEntries es ↔ ∀ e ∈ es, e.2.Exact := by
  induction es with
  | nil => simp [ExactEntries]
  | cons e es ih => rw [ExactEntries, ih, List.forall_mem_cons]

section Spell

variable {sp : Spacing} {level : Nat}

theorem spellItems_eq_map (items : List Json) :
    spellItems sp level items = items.map (spell sp (level + 1)) := by
  induction items with
  | nil => rfl
  | cons j js ih => rw [spellItems, ih, List.map_cons]

theorem spellEntries_eq_map (es : List (String × Json)) : spellEntries sp level es =
    es.map fun e => quote e.1 ++ ':' :: (sp.space ++ spell sp (level + 1) e.2) := by
  induction es with
  | nil => rfl
  | cons e es ih => rw [spellEntries, ih, List.map_cons]

/-- An integer begins with its sign or a digit. -/
theorem exists_text_eq_cons (i : Int) :
    ∃ x rest, (toString i).toList = x :: rest ∧ beginsNumber x = true := by
  cases i with
  | ofNat n =>
    obtain ⟨x, ds, h_digits⟩ := List.exists_cons_of_ne_nil (Nat.toDigits_ne_nil (n := n) (b := 10))
    have h_x : x.isDigit = true := Nat.isDigit_of_mem_toDigits (b := 10) (n := n) (by decide)
      (by decide) (h_digits ▸ List.mem_cons_self)
    exact ⟨x, ds, Nat.toList_repr.trans h_digits, by simp [beginsNumber, h_x]⟩
  | negSucc n =>
    refine ⟨'-', Nat.toDigits 10 (n + 1), ?_, rfl⟩
    show ("-" ++ Nat.repr (n + 1)).toList = _
    rw [String.toList_append, Nat.toList_repr]
    rfl

theorem ne_of_beginsNumber {x y : Char} (h : beginsNumber x = true)
    (h_y : beginsNumber y = false) : x ≠ y := by
  rintro rfl
  exact Bool.false_ne_true (h_y.symm.trans h)

theorem isBlank_of_beginsNumber {x : Char} (h : beginsNumber x = true) :
    Cursor.isBlank x = false := by
  simp only [Cursor.isBlank, Bool.or_eq_false_iff, decide_eq_false_iff_not]
  exact ⟨⟨⟨ne_of_beginsNumber h rfl, ne_of_beginsNumber h rfl⟩, ne_of_beginsNumber h rfl⟩,
    ne_of_beginsNumber h rfl⟩

theorem begins_spell {j : Json} (h : j.Exact) : Begins (spell sp level j) := by
  cases j with
  | null => exact ⟨'n', _, by rw [spell]; rfl, by decide, by decide, by decide⟩
  | bool b =>
    cases b with
    | true => exact ⟨'t', _, by rw [spell]; rfl, by decide, by decide, by decide⟩
    | false => exact ⟨'f', _, by rw [spell]; rfl, by decide, by decide, by decide⟩
  | number n =>
    obtain ⟨i, rfl, -⟩ := h
    obtain ⟨x, rest, h_text, h_x⟩ := exists_text_eq_cons i
    exact ⟨x, rest, by rw [spell]; exact h_text, isBlank_of_beginsNumber h_x,
      ne_of_beginsNumber h_x rfl, ne_of_beginsNumber h_x rfl⟩
  | string s => exact ⟨'"', _, by rw [spell, quote], by decide, by decide, by decide⟩
  | array items => exact ⟨'[', _, by rw [spell], by decide, by decide, by decide⟩
  | object es => exact ⟨'\x7b', _, by rw [spell], by decide, by decide, by decide⟩

end Spell

/-- Reading in front of what is already there. -/
theorem foldlM_cons_eq_reverse {α : Type} (xs done : List α) :
    xs.foldlM (fun done x => some (x :: done)) done = some (xs.reverse ++ done) := by
  induction xs generalizing done with
  | nil => rfl
  | cons x xs ih =>
    rw [List.foldlM_cons]
    show xs.foldlM _ (x :: done) = _
    rw [ih, List.reverse_cons, List.append_assoc, List.singleton_append]

section Value

variable {sp : Spacing} {fuel level : Nat}

theorem takes_null : Takes (valueWithin (fuel + 1)) 0 (spell sp level null) null := by
  intro blank more o d h_blank h_more h_depth
  rw [valueWithin, spell]
  refine yields_peekToken_bind h_blank (token_cons rfl) fun o => ?_
  show Yields (eat >>= fun _ => word "ull".toList >>= fun _ => pure null)
    ⟨'n' :: ("ull".toList ++ more), o, d⟩ null more
  rw [yields_eat_bind]
  exact (yields_word _).bind fun o => yields_pure

theorem takes_bool (b : Bool) :
    Takes (valueWithin (fuel + 1)) 0 (spell sp level (bool b)) (bool b) := by
  intro blank more o d h_blank h_more h_depth
  cases b with
  | true =>
    rw [valueWithin, spell]
    refine yields_peekToken_bind h_blank (token_cons rfl) fun o => ?_
    show Yields (eat >>= fun _ => word "rue".toList >>= fun _ => pure (bool true))
      ⟨'t' :: ("rue".toList ++ more), o, d⟩ (bool true) more
    rw [yields_eat_bind]
    exact (yields_word _).bind fun o => yields_pure
  | false =>
    rw [valueWithin, spell]
    refine yields_peekToken_bind h_blank (token_cons rfl) fun o => ?_
    show Yields (eat >>= fun _ => word "alse".toList >>= fun _ => pure (bool false))
      ⟨'f' :: ("alse".toList ++ more), o, d⟩ (bool false) more
    rw [yields_eat_bind]
    exact (yields_word _).bind fun o => yields_pure

theorem takes_number {n : Number} (h : (number n).Exact) :
    Takes (valueWithin (fuel + 1)) 0 (spell sp level (number n)) (number n) := by
  intro blank more o d h_blank h_more h_depth
  obtain ⟨i, rfl, h_least, h_greatest⟩ := h
  obtain ⟨x, rest, h_text, h_x⟩ := exists_text_eq_cons i
  have h_number := fun o => yields_number (o := o) (d := d) h_least h_greatest h_more
  -- a number is what is left when the first character is none of the others
  have h_token : Token ((toString i).toList ++ more) := by
    rw [h_text]
    exact token_cons (isBlank_of_beginsNumber h_x)
  have h_head : ((toString i).toList ++ more).head? = some x := by
    rw [h_text]
    rfl
  rw [valueWithin, spell, Number.text]
  refine yields_peekToken_bind h_blank h_token fun o => ?_
  rw [h_head]
  dsimp only [List.head?_cons]
  split
  · contradiction
  iterate 6
    · next h_eq => exact absurd (Option.some.inj h_eq) (ne_of_beginsNumber h_x rfl)
  · next h_eq =>
    obtain rfl := Option.some.inj h_eq
    rw [if_pos h_x]
    exact (h_number o).bind fun o => yields_pure

theorem takes_string (s : String) :
    Takes (valueWithin (fuel + 1)) 0 (spell sp level (string s)) (string s) := by
  intro blank more o d h_blank h_more h_depth
  rw [valueWithin, spell, quote, List.cons_append, List.append_assoc]
  refine yields_peekToken_bind h_blank (token_cons rfl) fun o => ?_
  show Yields (eat >>= fun _ => Scan.string >>= fun s => pure (string s)) _ _ _
  rw [yields_eat_bind]
  exact yields_string.bind fun o => yields_pure

theorem takes_array {items : List Json} (h_exact : ExactItems items)
    (h : ∀ x ∈ items, Takes (valueWithin fuel) x.depth (spell sp (level + 1) x) x) :
    Takes (valueWithin (fuel + 1)) (array items).depth (spell sp level (array items))
      (array items) := by
  intro blank more o d h_blank h_more h_depth
  -- the bracket takes one of the levels, and the items have the others
  obtain ⟨d, rfl⟩ := Nat.exists_eq_add_one_of_ne_zero (Nat.ne_zero_of_lt h_depth)
  rw [depth] at h_depth
  have h_begins : ∀ x ∈ items, Begins (spell sp (level + 1) x) :=
    fun x h_x => begins_spell (exactItems_iff.1 h_exact x h_x)
  have h_item : ∀ x ∈ items, ∀ s s', some (x :: s) = some s' → ∀ more o, Ended more →
      Yields (do
        let j ← valueWithin fuel
        return j :: s) ⟨spell sp (level + 1) x ++ more, o, d⟩ s' more := by
    rintro x h_x s _ ⟨⟩ more o h_more
    have h_lt : x.depth < d := by
      have h_le := depth_le_of_mem h_x
      omega
    exact (h x h_x [] more o d blank_nil h_more h_lt).bind fun o => yields_pure
  rw [valueWithin, spell, spellItems_eq_map]
  refine yields_peekToken_bind h_blank (token_cons rfl) fun o => ?_
  refine Yields.bind (yields_bracket (by omega) (fun o => yields_items (sp.gap_blank (level + 1))
    (sp.gap_blank level) h_begins h_item (foldlM_cons_eq_reverse items []))
    fun o => yields_closeArray) fun o => ?_
  rw [List.append_nil, List.reverse_reverse]
  exact yields_pure

theorem takes_object {es : List (String × Json)}
    (h : ∀ e ∈ es, Takes (valueWithin fuel) e.2.depth (spell sp (level + 1) e.2) e.2) :
    Takes (valueWithin (fuel + 1)) (object es).depth (spell sp level (object es)) (object es) := by
  intro blank more o d h_blank h_more h_depth
  obtain ⟨d, rfl⟩ := Nat.exists_eq_add_one_of_ne_zero (Nat.ne_zero_of_lt h_depth)
  rw [depth] at h_depth
  -- What follows a name: the colon, then a value that lies one level deeper.
  have h_entry : ∀ e ∈ es, ∀ s s', some (e :: s) = some s' → ∀ more o, Ended more →
      Yields (do
        colon
        let j ← valueWithin fuel
        return (e.1, j) :: s) ⟨':' :: (sp.space ++ spell sp (level + 1) e.2) ++ more, o, d⟩ s'
          more := by
    rintro e h_e s _ ⟨⟩ more o h_more
    have h_lt : e.2.depth < d := by
      have h_le := depth_le_of_mem_entries h_e
      omega
    rw [List.cons_append, List.append_assoc]
    refine yields_colon.bind fun o => ?_
    exact (h e h_e sp.space more o d sp.space_blank h_more h_lt).bind fun o => yields_pure
  rw [valueWithin, spell, spellEntries_eq_map]
  refine yields_peekToken_bind h_blank (token_cons rfl) fun o => ?_
  refine Yields.bind (yields_bracket (by omega) (fun o => yields_entries
    (sp.gap_blank (level + 1)) (sp.gap_blank level) h_entry (foldlM_cons_eq_reverse es []))
    fun o => yields_closeObject) fun o => ?_
  rw [List.append_nil, List.reverse_reverse]
  exact yields_pure

end Value

section Document

theorem depthItems_lt {items : List Json} {n : Nat} (h_pos : 0 < n) (h : ∀ x ∈ items, x.depth < n) :
    depthItems items < n := by
  induction items with
  | nil => exact h_pos
  | cons x items ih =>
    obtain ⟨h_x, h_items⟩ := List.forall_mem_cons.1 h
    rw [depthItems]
    exact Nat.max_lt.2 ⟨h_x, ih h_items⟩

theorem depthEntries_lt {es : List (String × Json)} {n : Nat} (h_pos : 0 < n)
    (h : ∀ e ∈ es, e.2.depth < n) : depthEntries es < n := by
  induction es with
  | nil => exact h_pos
  | cons e es ih =>
    obtain ⟨h_e, h_es⟩ := List.forall_mem_cons.1 h
    rw [depthEntries]
    exact Nat.max_lt.2 ⟨h_e, ih h_es⟩

variable {sp : Spacing}

mutual

/-- **A written document** is taken as the document. -/
theorem takes_valueWithin : ∀ (j : Json), j.Exact → ∀ fuel level, j.depth < fuel →
    Takes (valueWithin fuel) j.depth (spell sp level j) j
  | _, _, 0, _, h_fuel => absurd h_fuel (Nat.not_lt_zero _)
  | null, _, _ + 1, _, _ => takes_null
  | bool b, _, _ + 1, _, _ => takes_bool b
  | number _, h, _ + 1, _, _ => takes_number h
  | string s, _, _ + 1, _, _ => takes_string s
  | array items, h, fuel + 1, level, h_fuel => by
    refine takes_array h fun x h_x => takes_valueWithin_items items h x h_x fuel (level + 1) ?_
    have h_lt := depth_lt_of_mem h_x
    omega
  | object es, h, fuel + 1, level, h_fuel => by
    refine takes_object fun e h_e => takes_valueWithin_entries es h e h_e fuel (level + 1) ?_
    have h_le := depth_le_of_mem_entries h_e
    rw [depth] at h_fuel
    omega

theorem takes_valueWithin_items : ∀ (items : List Json), ExactItems items → ∀ x ∈ items,
    ∀ fuel level, x.depth < fuel → Takes (valueWithin fuel) x.depth (spell sp level x) x
  | j :: js, h, x, h_x => (List.mem_cons.1 h_x).elim
    (fun h_eq => h_eq ▸ takes_valueWithin j h.1) (takes_valueWithin_items js h.2 x)

theorem takes_valueWithin_entries : ∀ (es : List (String × Json)), ExactEntries es → ∀ e ∈ es,
    ∀ fuel level, e.2.depth < fuel → Takes (valueWithin fuel) e.2.depth (spell sp level e.2) e.2
  | (_, j) :: es, h, x, h_x => (List.mem_cons.1 h_x).elim
    (fun h_eq => h_eq ▸ takes_valueWithin j h.1) (takes_valueWithin_entries es h.2 x)

end

/-- An item is shorter than what it stands in. -/
theorem length_lt_inside {t : List Char} (inner outer : List Char) (close : Char) {ts : List (List Char)}
    (h : t ∈ ts) : t.length < (inside inner outer close ts).length := by
  have h_tail : ∀ ts, t ∈ ts → t.length < (tail inner outer close ts).length := by
    intro ts
    induction ts with
    | nil => exact fun h => absurd h List.not_mem_nil
    | cons u ts ih =>
      intro h
      simp only [tail, List.length_cons, List.length_append]
      rcases List.mem_cons.1 h with rfl | h
      · omega
      · have h_lt := ih h
        omega
  cases ts with
  | nil => exact absurd h List.not_mem_nil
  | cons u ts =>
    have h_pos := length_lt_tail inner outer close ts
    simp only [inside, List.length_append]
    rcases List.mem_cons.1 h with rfl | h
    · omega
    · have h_lt := h_tail ts h
      omega

theorem length_inside_pos {inner outer : List Char} {close : Char} (ts : List (List Char)) :
    0 < (inside inner outer close ts).length := by
  cases ts with
  | nil => exact Nat.succ_pos _
  | cons t ts =>
    have h_tail := length_lt_tail inner outer close ts
    simp only [inside, List.length_append]
    omega

mutual

/-- Every bracket takes a character. -/
theorem depth_lt_length_spell : ∀ j : Json, j.Exact → ∀ level, j.depth < (spell sp level j).length
  | null, _, _ | bool true, _, _ | bool false, _, _ => by simp only [spell]; decide
  | number _, h, _ | string _, h, _ => by
    obtain ⟨x, rest, h_spell, -⟩ := begins_spell h
    rw [h_spell]
    exact Nat.succ_pos _
  | array items, h, level => by
    -- Each item is spelled out inside the brackets, and the brackets are longer still.
    have h_items : depthItems items <
        (inside (sp.gap (level + 1)) (sp.gap level) ']' (spellItems sp level items)).length := by
      refine depthItems_lt (length_inside_pos _) fun x h_x => ?_
      have h_text : spell sp (level + 1) x ∈ spellItems sp level items := by
        rw [spellItems_eq_map]
        exact List.mem_map_of_mem h_x
      exact (depth_lt_length_items items h x h_x (level + 1)).trans (length_lt_inside _ _ _ h_text)
    rw [depth, spell, List.length_cons]
    omega
  | object es, h, level => by
    have h_entries : depthEntries es <
        (inside (sp.gap (level + 1)) (sp.gap level) '\x7d' (spellEntries sp level es)).length := by
      refine depthEntries_lt (length_inside_pos _) fun e h_e => ?_
      have h_text : quote e.1 ++ ':' :: (sp.space ++ spell sp (level + 1) e.2) ∈
          spellEntries sp level es := by
        rw [spellEntries_eq_map]
        exact List.mem_map_of_mem h_e
      have h_lt := depth_lt_length_entries es h e h_e (level + 1)
      have h_inside := length_lt_inside (sp.gap (level + 1)) (sp.gap level) '\x7d' h_text
      simp only [List.length_append, List.length_cons] at h_inside
      omega
    rw [depth, spell, List.length_cons]
    omega

theorem depth_lt_length_items : ∀ items : List Json, ExactItems items → ∀ x ∈ items, ∀ level,
    x.depth < (spell sp level x).length
  | j :: js, h, x, h_x => (List.mem_cons.1 h_x).elim
    (fun h_eq => h_eq ▸ depth_lt_length_spell j h.1) (depth_lt_length_items js h.2 x)

theorem depth_lt_length_entries : ∀ es : List (String × Json), ExactEntries es → ∀ e ∈ es, ∀ level,
    e.2.depth < (spell sp level e.2).length
  | (_, j) :: es, h, x, h_x => (List.mem_cons.1 h_x).elim
    (fun h_eq => h_eq ▸ depth_lt_length_spell j h.1) (depth_lt_length_entries es h.2 x)

end

theorem takes_value {j : Json} (h : j.Exact) (level : Nat) :
    Takes value j.depth (spell sp level j) j := by
  intro blank more o d h_blank h_more h_depth
  rw [value, yields_fuel_bind]
  have h_length : j.depth < (spell sp level j).length := depth_lt_length_spell j h level
  refine takes_valueWithin j h _ level ?_ blank more o d h_blank h_more h_depth
  simp only [List.length_append]
  omega

end Document

end Json

/-! ### Whole texts -/

namespace Scan

/-- What takes a text reads it. -/
theorem readAll_eq {α : Type} {scan : Scan α} {cs : List Char} {a : α} {depth : Nat}
    (h : Takes scan depth cs a) (h_depth : depth ≤ 127) :
    readAll scan (String.ofList cs) = .ok a := by
  obtain ⟨o, h_scan⟩ := h [] [] 0 128 blank_nil (fun _ h => by cases h) (by omega)
  rw [List.nil_append, List.append_nil] at h_scan
  have h_start : Cursor.start (String.ofList cs) = ⟨cs, 0, 128⟩ := by
    rw [Cursor.start, String.toList_ofList]
  show ((scan >>= fun a => finish >>= fun _ => pure a) (Cursor.start (String.ofList cs))).1 = .ok a
  rw [h_start, bind_of_ok h_scan]
  rfl

end Scan

namespace Json

open Scan

variable {j j' : Json}

theorem compact_eq_spell (j : Json) : j.compact = String.ofList (spell .none 0 j) := by
  rw [compact, write_eq_spell 0]

theorem pretty_eq_spell (j : Json) : j.pretty = String.ofList (spell .lines 0 j) := by
  rw [pretty, layOut_eq_spell]

/-- **Compact texts read back.** -/
theorem parse_compact (h : j.Exact) (h_depth : j.depth ≤ 127) : parse j.compact = .ok j := by
  rw [compact_eq_spell]
  exact readAll_eq (takes_value h 0) h_depth

/-- **Texts over several lines read back.** -/
theorem parse_pretty (h : j.Exact) (h_depth : j.depth ≤ 127) : parse j.pretty = .ok j := by
  rw [pretty_eq_spell]
  exact readAll_eq (takes_value h 0) h_depth

/-- **Different documents have different texts**, however deep they are. -/
theorem compact_inj (h : j.Exact) (h' : j'.Exact) : j.compact = j'.compact ↔ j = j' := by
  refine ⟨fun h_eq => ?_, congrArg compact⟩
  -- a reader that may go as deep as either of them finds both in the one text
  have h_takes : Takes value j.depth (spell .none 0 j) j := takes_value h 0
  have h_takes' : Takes value j'.depth (spell .none 0 j') j' := takes_value h' 0
  have h_read := h_takes [] [] 0 (max j.depth j'.depth + 1) blank_nil (fun _ h => by cases h)
    (by omega)
  have h_read' := h_takes' [] [] 0 (max j.depth j'.depth + 1) blank_nil (fun _ h => by cases h)
    (by omega)
  rw [compact_eq_spell, compact_eq_spell, String.ofList_inj] at h_eq
  obtain ⟨o, h_read⟩ := h_read
  obtain ⟨o', h_read'⟩ := h_read'
  rw [h_eq, h_read'] at h_read
  exact (Except.ok.inj (Prod.mk.inj h_read).1).symm

end Json

end Specimen
