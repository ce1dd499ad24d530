import Specimen.Proofs.Json.Record
import Specimen.Proofs.Json.Text

/-!
# Reading typed values from text

A reader reads a value from a document and, in another way, straight from text. `Reader.Faithful`
says that the second way finds in a written document what the first one finds in the document
itself. Readers of single values are faithful, and collections and records are if their parts are.
-/

namespace Specimen

open Scan Json

variable {α β σ : Type} {sp : Spacing} {level : Nat} {blank more rest : List Char} {o d : Nat}
  {x : Char} {a : α} {b : β}

namespace Scan

theorem yields_valueStart (h : Blank blank) (h_x : Cursor.isBlank x = false) :
    Yields valueStart ⟨blank ++ x :: rest, o, d⟩ x (x :: rest) := by
  rw [valueStart]
  exact yields_peekToken_bind h (token_cons h_x) fun o => yields_pure

theorem yields_ofExcept {x : Except Mismatch α} (h : x = .ok a) :
    Yields (ofExcept x) ⟨more, o, d⟩ a more := by
  rw [h]
  exact yields_pure

end Scan

namespace Reader

variable {r : Reader α}

/-- What a reader finds in a document, it finds in the written document. -/
def Faithful (r : Reader α) : Prop :=
  ∀ j a, j.Exact → r.ofJson .document j = .ok a →
    ∀ sp level, Takes r.scan j.depth (spell sp level j) a

/-! ### Single values -/

theorem faithful_text {expected : String} : (text expected).Faithful := by
  intro j s h_exact h_read sp level blank more o d h_blank h_more h_depth
  cases j with
  | string s' =>
    cases h_read
    rw [spell, quote, List.cons_append, List.append_assoc]
    refine (yields_valueStart h_blank rfl).bind fun o => ?_
    rw [if_pos rfl, yields_eat_bind]
    exact yields_string
  | _ => cases h_read

theorem faithful_integer {expected : String} {low high : Int} :
    (integer expected low high).Faithful := by
  intro j i h_exact h_read sp level blank more o d h_blank h_more h_depth
  cases j with
  | number n =>
    obtain ⟨i', rfl, h_least, h_greatest⟩ := h_exact
    obtain ⟨x, rest, h_text, h_x⟩ := exists_text_eq_cons i'
    have h_number := fun o => yields_number (o := o) (d := d) h_least h_greatest h_more
    rw [spell, Number.text]
    rw [h_text] at h_number ⊢
    refine (yields_valueStart h_blank (isBlank_of_beginsNumber h_x)).bind fun o => ?_
    rw [if_pos h_x]
    exact yields_placed ((h_number o).bind fun o => yields_ofExcept h_read)
  | _ => cases h_read

theorem map_eq_ok_iff {ε : Type} {x : Except ε α} {f : α → β} :
    x.map f = .ok b ↔ ∃ a, x = .ok a ∧ f a = b := by
  cases x with
  | error m => simp [Except.map]
  | ok a => simp [Except.map]

theorem Faithful.map (h : r.Faithful) (f : α → β) : (r.map f).Faithful := by
  intro j b h_exact h_read sp level blank more o d h_blank h_more h_depth
  obtain ⟨a, h_a, rfl⟩ := map_eq_ok_iff.1 h_read
  exact (h j a h_exact h_a sp level blank more o d h_blank h_more h_depth).map

/-- Only null begins with that letter. -/
theorem exists_spell_eq_cons {j : Json} (h : j.Exact) (h_null : j ≠ .null) (sp : Spacing)
    (level : Nat) : ∃ x rest, spell sp level j = x :: rest ∧ Cursor.isBlank x = false ∧ x ≠ 'n' := by
  cases j with
  | null => exact absurd rfl h_null
  | bool b =>
    cases b with
    | true => exact ⟨'t', _, by rw [spell]; rfl, by decide, by decide⟩
    | false => exact ⟨'f', _, by rw [spell]; rfl, by decide, by decide⟩
  | number n =>
    obtain ⟨i, rfl, -⟩ := h
    obtain ⟨x, rest, h_text, h_x⟩ := exists_text_eq_cons i
    exact ⟨x, rest, by rw [spell]; exact h_text, isBlank_of_beginsNumber h_x,
      ne_of_beginsNumber h_x rfl⟩
  | string s => exact ⟨'"', _, by rw [spell, quote], by decide, by decide⟩
  | array items => exact ⟨'[', _, by rw [spell], by decide, by decide⟩
  | object es => exact ⟨'\x7b', _, by rw [spell], by decide, by decide⟩

theorem Faithful.option (h : r.Faithful) : (option r).Faithful := by
  intro j b h_exact h_read sp level blank more o d h_blank h_more h_depth
  by_cases h_null : j = .null
  · subst h_null
    cases h_read
    rw [spell]
    refine yields_peekToken_bind h_blank (token_cons rfl) fun o => ?_
    show Yields (eat >>= fun _ => word "ull".toList >>= fun _ => pure none)
      ⟨'n' :: ("ull".toList ++ more), o, d⟩ none more
    rw [yields_eat_bind]
    exact (yields_word _).bind fun o => yields_pure
  -- nothing else begins like null, and so it is read as a value
  · have h_map : (r.ofJson .document j).map some = .ok b := by
      cases j with
      | null => exact absurd rfl h_null
      | _ => exact h_read
    obtain ⟨a, h_a, rfl⟩ := map_eq_ok_iff.1 h_map
    obtain ⟨x, rest, h_spell, h_x, h_n⟩ := exists_spell_eq_cons h_exact h_null sp level
    have h_scan := fun o => h j a h_exact h_a sp level [] more o d blank_nil h_more h_depth
    rw [h_spell] at h_scan ⊢
    refine yields_peekToken_bind h_blank (token_cons h_x) fun o => ?_
    show Yields (if some x = some 'n' then _ else _) _ _ _
    rw [if_neg fun h_eq => h_n (Option.some.inj h_eq)]
    exact (h_scan o).bind fun o => yields_pure

/-! ### Collections -/

/-- A list that is read item by item. -/
theorem foldlM_of_mapM {ε : Type} {f : α → Except ε β} {xs : List α} {ys : List β}
    (h : xs.mapM f = .ok ys) (done : List β) :
    xs.foldlM (fun done x => (f x).toOption.map (· :: done)) done = some (ys.reverse ++ done) := by
  have h_pairs : List.Forall₂ (fun x y => (f x).toOption = some y) xs ys := by
    rw [← mapM_eq_some_iff, ← toOption_mapM, h]
    rfl
  clear h
  induction h_pairs generalizing done with
  | nil => rfl
  | cons h_x _ ih =>
    rw [List.foldlM_cons, h_x]
    refine (ih _).trans ?_
    rw [List.reverse_cons, List.append_assoc, List.singleton_append]

theorem Faithful.list (h : r.Faithful) : (list r).Faithful := by
  intro j as h_exact h_read sp level blank more o d h_blank h_more h_depth
  cases j with
  | array items =>
    obtain ⟨d, rfl⟩ := Nat.exists_eq_add_one_of_ne_zero (Nat.ne_zero_of_lt h_depth)
    rw [depth] at h_depth
    have h_begins : ∀ x ∈ items, Begins (spell sp (level + 1) x) :=
      fun x h_x => begins_spell (exactItems_iff.1 h_exact x h_x)
    -- an item is put in front of those that have been read before
    have h_item : ∀ x ∈ items, ∀ s s', (r.ofJson .document x).toOption.map (· :: s) = some s' →
        ∀ more o, Ended more → Yields (do
          let a ← r.scan
          return a :: s) ⟨spell sp (level + 1) x ++ more, o, d⟩ s' more := by
      intro x h_x s s' h_step more o h_more
      obtain ⟨a, h_a, rfl⟩ := Option.map_eq_some_iff.1 h_step
      have h_lt : x.depth < d := by
        have h_le := depth_le_of_mem h_x
        omega
      exact (h x a (exactItems_iff.1 h_exact x h_x) (toOption_eq_some_iff.1 h_a) sp (level + 1) []
        more o d blank_nil h_more h_lt).bind fun o => yields_pure
    rw [spell, spellItems_eq_map]
    refine (yields_valueStart h_blank rfl).bind fun o => ?_
    rw [if_pos rfl]
    refine Yields.bind (yields_placed (yields_bracket (d := d + 1) (by omega) (fun o => yields_items
      (sp.gap_blank (level + 1)) (sp.gap_blank level) h_begins h_item (foldlM_of_mapM h_read []))
      fun o => yields_closeArray)) fun o => ?_
    rw [List.append_nil, List.reverse_reverse]
    exact yields_pure
  | _ => cases h_read

/-- A dictionary that is read entry by entry. -/
theorem foldlM_of_mapM_dict {ε : Type} {f : Json → Except ε β} {es : List (String × Json)}
    {ys : List (String × β)} (h : es.mapM (fun e => (f e.2).map fun b => (e.1, b)) = .ok ys)
    (done : Dict β) :
    es.foldlM (fun done e => (f e.2).toOption.map (done.insert e.1)) done =
      some (ys.foldl (fun d e => d.insert e.1 e.2) done) := by
  have h_pairs : List.Forall₂ (fun e y => ((f e.2).map fun b => (e.1, b)).toOption = some y) es ys :=
    by
      rw [← mapM_eq_some_iff, ← toOption_mapM, h]
      rfl
  clear h
  induction h_pairs generalizing done with
  | nil => rfl
  | cons h_x _ ih =>
    rw [toOption_map] at h_x
    obtain ⟨b, h_b, rfl⟩ := Option.map_eq_some_iff.1 h_x
    rw [List.foldlM_cons, h_b]
    exact ih _

theorem Faithful.dict (h : r.Faithful) : (dict r).Faithful := by
  intro j as h_exact h_read sp level blank more o d h_blank h_more h_depth
  cases j with
  | object es =>
    obtain ⟨d, rfl⟩ := Nat.exists_eq_add_one_of_ne_zero (Nat.ne_zero_of_lt h_depth)
    rw [depth] at h_depth
    obtain ⟨ys, h_ys, rfl⟩ := map_eq_ok_iff.1 h_read
    -- an entry replaces one with its key, as it does in the document
    have h_entry : ∀ e ∈ es, ∀ s s' : Dict α,
        (r.ofJson .document e.2).toOption.map (s.insert e.1) = some s' → ∀ more o, Ended more → Yields (do
          colon
          let a ← r.scan
          return s.insert e.1 a)
          ⟨':' :: (sp.space ++ spell sp (level + 1) e.2) ++ more, o, d⟩ s' more := by
      intro e h_e s s' h_step more o h_more
      obtain ⟨a, h_a, rfl⟩ := Option.map_eq_some_iff.1 h_step
      have h_lt : e.2.depth < d := by
        have h_le := depth_le_of_mem_entries h_e
        omega
      rw [List.cons_append, List.append_assoc]
      refine yields_colon.bind fun o => ?_
      exact (h e.2 a (exactEntries_iff.1 h_exact e h_e) (toOption_eq_some_iff.1 h_a) sp (level + 1)
        sp.space more o d sp.space_blank h_more h_lt).bind fun o => yields_pure
    rw [spell, spellEntries_eq_map]
    refine (yields_valueStart h_blank rfl).bind fun o => ?_
    rw [if_pos rfl]
    exact yields_placed (yields_bracket (d := d + 1) (by omega) (fun o => yields_entries
      (sp.gap_blank (level + 1)) (sp.gap_blank level) h_entry
      (foldlM_of_mapM_dict h_ys .empty)) fun o => yields_closeObject)
  | _ => cases h_read

end Reader

/-! ### Objects with fields -/

/-- An object that is read entry by entry into a partly filled record, which is then finished. -/
theorem Scan.yields_object {entry : σ → String → Scan σ} {finish : σ → Except Mismatch α}
    {step : σ → String × Json → Option σ} {es : List (String × Json)} {start s' : σ}
    (more : List Char) (h_depth : (object es).depth < d)
    (h_entry : ∀ e ∈ es, ∀ s s', step s e = some s' → ∀ more o, Ended more →
      Yields (entry s e.1) ⟨':' :: (sp.space ++ spell sp (level + 1) e.2) ++ more, o, d - 1⟩ s' more)
    (h : es.foldlM step start = some s') (h_finish : finish s' = .ok a) :
    Yields (placed (bracket (do
        let s ← entries entry (← Scan.fuel) true start
        ofExcept (finish s)) closeObject)) ⟨spell sp level (object es) ++ more, o, d⟩ a more := by
  rw [depth] at h_depth
  rw [spell, spellEntries_eq_map]
  refine yields_placed (yields_bracket (by omega) (fun o => ?_) fun o =>
    yields_closeObject)
  have h_entries : Yields (do entries entry (← Scan.fuel) true start) ⟨_ ++ more, o, d - 1⟩ s'
      ('\x7d' :: more) :=
    yields_entries (sp.gap_blank (level + 1)) (sp.gap_blank level) h_entry h
  exact yields_fuel_bind.2 ((yields_fuel_bind.1 h_entries).bind fun o => yields_ofExcept h_finish)

/-- What a slot finds in a document, it finds in the written document. -/
def Slot.Faithful (slot : Slot σ) : Prop :=
  ∀ j s s', j.Exact → slot.ofJson .document j s = .ok s' →
    ∀ sp level, Takes (slot.scan s) j.depth (spell sp level j) s'

theorem Slot.of_faithful {r : Reader β} (h : r.Faithful) {name : String} {mayEnd : Bool}
    {get : σ → Option β} {set : β → σ → σ} : (Slot.of name mayEnd get set r).Faithful := by
  intro j s s' h_exact h_read sp level blank more o d h_blank h_more h_depth
  have h_map : (r.ofJson .document j).map (set · s) = .ok s' := h_read
  obtain ⟨b, h_b, rfl⟩ := Reader.map_eq_ok_iff.1 h_map
  exact (h j b h_exact h_b sp level blank more o d h_blank h_more h_depth).bind fun o => yields_pure

/-- An entry that a record takes under one of its own keys is read by the slot of that key. -/
theorem Record.exists_slot_of_addEntry {r : Record σ α} {origin : Origin} {s s' : σ}
    {e : String × Json} (h_known : e.1 ∈ r.slots.map (·.name))
    (h : r.addEntry origin s e = .ok s') :
    ∃ slot ∈ r.slots, r.slotFor s e.1 = .ok (some slot) ∧ slot.ofJson origin e.2 s = .ok s' := by
  obtain ⟨named, h_named, h_name⟩ := List.mem_map.1 h_known
  have h_some : (r.slots.find? fun slot => slot.name = e.1).isSome :=
    List.find?_isSome.2 ⟨named, h_named, decide_eq_true h_name⟩
  obtain ⟨slot, h_find⟩ := Option.isSome_iff_exists.1 h_some
  have h_slotFor : r.slotFor s e.1 =
      if slot.isFilled s then .error (.duplicateField e.1) else .ok (some slot) := by
    rw [slotFor, h_find]
  refine ⟨slot, List.mem_of_find?_eq_some h_find, ?_⟩
  -- a field that is there already would have been refused
  cases h_filled : slot.isFilled s with
  | true =>
    rw [addEntry, h_slotFor, h_filled, if_pos rfl] at h
    cases h
  | false =>
    rw [h_filled, if_neg Bool.false_ne_true] at h_slotFor
    rw [addEntry, h_slotFor] at h
    exact ⟨h_slotFor, h⟩

/-- **Records from text**, written with no other fields than their own. -/
theorem Record.takes_object {r : Record σ α} (h_slots : ∀ slot ∈ r.slots, slot.Faithful)
    {es : List (String × Json)} (h_exact : (object es).Exact)
    (h_known : ∀ e ∈ es, e.1 ∈ r.slots.map (·.name)) (h_read : r.ofEntries .document es = .ok a) :
    Takes r.scan (object es).depth (spell sp level (object es)) a := by
  intro blank more o d h_blank h_more h_depth
  have h_some := toOption_eq_some_iff.2 h_read
  rw [ofEntries, toOption_bind, toOption_foldlM] at h_some
  obtain ⟨s', h_fold, h_finish⟩ := Option.bind_eq_some_iff.1 h_some
  have h_entry : ∀ e ∈ es, ∀ s s', (r.addEntry .document s e).toOption = some s' →
      ∀ more o, Ended more → Yields (r.scanEntry s e.1)
        ⟨':' :: (sp.space ++ spell sp (level + 1) e.2) ++ more, o, d - 1⟩ s' more := by
    intro e h_e s s' h_add more o h_more
    -- the slot is chosen by the key, before the colon
    obtain ⟨slot, h_slot, h_slotFor, h_ofJson⟩ :=
      exists_slot_of_addEntry (h_known e h_e) (toOption_eq_some_iff.1 h_add)
    have h_lt : e.2.depth < d - 1 := by
      have h_le := depth_le_of_mem_entries h_e
      rw [depth] at h_depth
      omega
    rw [scanEntry, h_slotFor, List.cons_append, List.append_assoc]
    refine (yields_ofExcept rfl).bind fun o => ?_
    refine yields_colon.bind fun o => ?_
    exact h_slots slot h_slot e.2 s s' (exactEntries_iff.1 h_exact e h_e) h_ofJson sp (level + 1)
      sp.space more o (d - 1) sp.space_blank h_more h_lt
  have h_object := fun o => yields_object (o := o) more h_depth h_entry h_fold
    (toOption_eq_some_iff.1 h_finish)
  rw [spell] at h_object ⊢
  exact (yields_valueStart h_blank rfl).bind h_object

end Specimen
