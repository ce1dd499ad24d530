import Specimen.Json.Reader
import Specimen.Proofs.Json.Entries

/-!
# Records by look-ups

A record is read entry by entry, in the order of the text. As its slots do not get in each other's
way (`Record.Lawful`), this is the same as looking up the key of each slot (`Record.read?_ofEntries`),
provided that no key is repeated. The same holds of a value whose form is given by a tag
(`Tagged.read?_ofEntries`).

Which fault is reported first depends on the order all the same, so that what is read is given
here as an option.
-/

namespace Specimen

/-! ### Answers as options -/

section Options

variable {ε α β : Type}

@[simp] theorem toOption_ok (a : α) : (Except.ok a : Except ε α).toOption = some a := rfl

@[simp] theorem toOption_error (e : ε) : (Except.error e : Except ε α).toOption = none := rfl

theorem toOption_eq_some_iff {x : Except ε α} {a : α} : x.toOption = some a ↔ x = .ok a := by
  cases x <;> simp

theorem toOption_bind (x : Except ε α) (f : α → Except ε β) :
    (x >>= f).toOption = x.toOption.bind fun a => (f a).toOption := by
  cases x <;> rfl

theorem toOption_map (x : Except ε α) (f : α → β) : (x.map f).toOption = x.toOption.map f := by
  cases x <;> rfl

theorem toOption_foldlM (f : α → β → Except ε α) (xs : List β) (a : α) :
    (xs.foldlM f a).toOption = xs.foldlM (fun a b => (f a b).toOption) a := by
  induction xs generalizing a with
  | nil => rfl
  | cons b xs ih =>
    rw [List.foldlM_cons, List.foldlM_cons, toOption_bind]
    exact Option.bind_congr fun a' _ => ih a'

/-- What each of some documents is read as. -/
theorem toOption_mapM (f : α → Except ε β) (xs : List α) :
    (xs.mapM f).toOption = xs.mapM fun a => (f a).toOption := by
  induction xs with
  | nil => rfl
  | cons a xs ih =>
    rw [List.mapM_cons, List.mapM_cons, toOption_bind]
    refine Option.bind_congr fun b _ => ?_
    rw [toOption_bind, ih]
    rfl

theorem mapM_eq_some_iff {f : α → Option β} {xs : List α} {ys : List β} :
    xs.mapM f = some ys ↔ List.Forall₂ (fun x y => f x = some y) xs ys := by
  induction xs generalizing ys with
  | nil => cases ys <;> simp
  | cons x xs ih =>
    rw [List.mapM_cons]
    constructor
    · intro h
      obtain ⟨y, h_y, h⟩ := Option.bind_eq_some_iff.1 h
      obtain ⟨ys', h_ys, h⟩ := Option.bind_eq_some_iff.1 h
      cases h
      exact .cons h_y (ih.1 h_ys)
    · rintro (_ | ⟨h_y, h_ys⟩)
      rw [h_y, ih.2 h_ys]
      rfl

end Options

namespace Reader

variable {α : Type} (r : Reader α) (origin : Origin)

/-- What a reader makes of a document, if it can read it. -/
def read? (j : Json) : Option α := (r.ofJson origin j).toOption

/-- What is read under a key that must be there. -/
def required (es : List (String × Json)) (key : String) : Option α :=
  (es.lookup key).bind (r.read? origin)

/-- What is read under a key that may be missing. -/
def optional (es : List (String × Json)) (key : String) : Option (Option α) :=
  match es.lookup key with
  | some j => (r.read? origin j).map some
  | none => some none

theorem required_eq (es : List (String × Json)) (key : String) :
    r.required origin es key = (r.optional origin es key).bind id := by
  rw [required, optional]
  cases es.lookup key with
  | none => rfl
  | some j => cases h : r.read? origin j <;> simp [h]

end Reader

/-! ### Slots -/

namespace Slot

variable {σ : Type}

/-- The record with what stands under the key of a slot, if anything does. -/
def fill (slot : Slot σ) (origin : Origin) (es : List (String × Json)) (s : σ) : Option σ :=
  match es.lookup slot.name with
  | some j => (slot.ofJson origin j s).toOption
  | none => some s

/-- Two slots do not get in each other's way. -/
structure Apart (slot slot' : Slot σ) : Prop where
  name : slot.name ≠ slot'.name
  swap : ∀ origin j j' s,
    ((slot.ofJson origin j s).toOption.bind fun s => (slot'.ofJson origin j' s).toOption) =
      (slot'.ofJson origin j' s).toOption.bind fun s => (slot.ofJson origin j s).toOption
  free : ∀ origin j s s', (slot.ofJson origin j s).toOption = some s' →
    slot'.isFilled s' = slot'.isFilled s

theorem of_ofJson {α : Type} {name : String} {mayEnd : Bool} {get : σ → Option α}
    {set : α → σ → σ} {r : Reader α} (origin : Origin) (j : Json) (s : σ) :
    ((Slot.of name mayEnd get set r).ofJson origin j s).toOption =
      (r.read? origin j).map fun a => set a s := by
  simp only [Slot.of, Reader.read?]
  cases r.ofJson origin j <;> rfl

/-- Slots that set different fields are apart. -/
theorem of_apart {α β : Type} {name name' : String} {mayEnd mayEnd' : Bool} {get : σ → Option α}
    {set : α → σ → σ} {r : Reader α} {get' : σ → Option β} {set' : β → σ → σ} {r' : Reader β}
    (h_name : name ≠ name') (h_swap : ∀ a b s, set' b (set a s) = set a (set' b s))
    (h_free : ∀ a s, get' (set a s) = get' s) :
    (Slot.of name mayEnd get set r).Apart (Slot.of name' mayEnd' get' set' r') where
  name := h_name
  swap origin j j' s := by
    simp only [of_ofJson]
    cases r.read? origin j <;> cases r'.read? origin j' <;> simp [h_swap]
  free origin j s s' h := by
    rw [of_ofJson] at h
    obtain ⟨a, -, rfl⟩ := Option.map_eq_some_iff.1 h
    simp only [Slot.of, h_free]

theorem fill_of {α : Type} {name : String} {mayEnd : Bool} {get : σ → Option α}
    {set : α → σ → σ} {r : Reader α} (origin : Origin) (es : List (String × Json)) (s : σ) :
    (Slot.of name mayEnd get set r).fill origin es s =
      (r.optional origin es name).map fun a => a.elim s (set · s) := by
  rw [fill, Reader.optional]
  simp only [of_ofJson]
  show (match es.lookup name with
    | some j => (r.read? origin j).map fun a => set a s
    | none => some s) = _
  cases es.lookup name with
  | none => rfl
  | some j => cases h : r.read? origin j <;> simp [h]

end Slot

/-! ### Records -/

namespace Record

variable {σ α : Type} {r : Record σ α} {origin : Origin} {es : List (String × Json)}

/-- The slots of a record are apart and empty at first. -/
structure Lawful (r : Record σ α) : Prop where
  apart : r.slots.Pairwise fun slot slot' => slot.Apart slot' ∧ slot'.Apart slot
  start : ∀ slot ∈ r.slots, slot.isFilled r.start = false

/-- The record that some slots are filled to, by looking their keys up. -/
def gather (origin : Origin) (es : List (String × Json)) (slots : List (Slot σ)) (s : σ) :
    Option σ :=
  slots.foldlM (fun s slot => slot.fill origin es s) s

@[simp] theorem gather_nil (s : σ) : gather origin es [] s = some s := rfl

@[simp] theorem gather_cons (slot : Slot σ) (slots : List (Slot σ)) (s : σ) :
    gather origin es (slot :: slots) s =
      (slot.fill origin es s).bind fun s => gather origin es slots s := rfl

theorem gather_append (slots slots' : List (Slot σ)) (s : σ) :
    gather origin es (slots ++ slots') s =
      (gather origin es slots s).bind fun s => gather origin es slots' s := by
  rw [gather, List.foldlM_append]
  rfl

/-- Slots that have nothing to do with an entry are filled the same way with or without it. -/
theorem gather_cons_entry {slots : List (Slot σ)} {e : String × Json}
    (h : ∀ slot ∈ slots, slot.name ≠ e.1) (s : σ) :
    gather origin (e :: es) slots s = gather origin es slots s := by
  induction slots generalizing s with
  | nil => rfl
  | cons slot slots ih =>
    obtain ⟨h_slot, h_slots⟩ := List.forall_mem_cons.1 h
    have h_beq : (slot.name == e.1) = false := by simpa using h_slot
    have h_fill : slot.fill origin (e :: es) s = slot.fill origin es s := by
      rw [Slot.fill, Slot.fill, List.lookup_cons, h_beq]
    rw [gather_cons, gather_cons, h_fill]
    exact Option.bind_congr fun s' _ => ih h_slots s'

/-- A slot can be read before or after others that are apart from it. -/
theorem gather_swap {slots : List (Slot σ)} {slot : Slot σ}
    (h : ∀ slot' ∈ slots, slot.Apart slot') (j : Json) (s : σ) :
    ((slot.ofJson origin j s).toOption.bind fun s => gather origin es slots s) =
      (gather origin es slots s).bind fun s => (slot.ofJson origin j s).toOption := by
  induction slots generalizing s with
  | nil => simp
  | cons slot' slots ih =>
    obtain ⟨h_first, h_rest⟩ := List.forall_mem_cons.1 h
    have h_fill : ((slot.ofJson origin j s).toOption.bind fun s => slot'.fill origin es s) =
        (slot'.fill origin es s).bind fun s => (slot.ofJson origin j s).toOption := by
      simp only [Slot.fill]
      split
      · exact h_first.swap origin j _ s
      · simp
    simp only [gather_cons]
    rw [← Option.bind_assoc, h_fill, Option.bind_assoc, Option.bind_assoc]
    exact Option.bind_congr fun s' _ => ih h_rest s'

/-- One more entry, as far as it can be read. -/
theorem toOption_addEntry (s : σ) (e : String × Json) : (r.addEntry origin s e).toOption =
    match r.slots.find? fun slot => slot.name = e.1 with
    | some slot => if slot.isFilled s then none else (slot.ofJson origin e.2 s).toOption
    | none => if r.closed then none else some s := by
  rw [addEntry, slotFor]
  cases r.slots.find? fun slot => slot.name = e.1 with
  | none => cases r.closed <;> rfl
  | some slot => cases h : slot.isFilled s <;> simp [h] <;> rfl

theorem gather_nil_entries (slots : List (Slot σ)) (s : σ) : gather origin [] slots s = some s := by
  induction slots with
  | nil => rfl
  | cons slot slots ih => exact ih

/-- An entry can be read first by its slot, which then finds nothing more under its key. -/
theorem gather_cons_slot {before after : List (Slot σ)} {slot : Slot σ} {e : String × Json}
    (h_before : ∀ slot' ∈ before, slot.Apart slot') (h_after : ∀ slot' ∈ after, slot.Apart slot')
    (h_name : slot.name = e.1) (h_gone : es.lookup slot.name = none) (s : σ) :
    gather origin (e :: es) (before ++ slot :: after) s =
      (slot.ofJson origin e.2 s).toOption.bind fun s =>
        gather origin es (before ++ slot :: after) s := by
  have h_own : ∀ s, slot.fill origin (e :: es) s = (slot.ofJson origin e.2 s).toOption := by
    intro s
    rw [Slot.fill, List.lookup_cons, h_name]
    simp
  have h_skip : ∀ s, slot.fill origin es s = some s := by
    intro s
    rw [Slot.fill, h_gone]
  have h_names : ∀ slots : List (Slot σ), (∀ slot' ∈ slots, slot.Apart slot') →
      ∀ s, gather origin (e :: es) slots s = gather origin es slots s :=
    fun slots h_slots => gather_cons_entry fun slot' h_slot' =>
      h_name ▸ (h_slots slot' h_slot').name.symm
  -- The slot's step is pulled to the front past `before`, then put back without the entry.
  calc gather origin (e :: es) (before ++ slot :: after) s
      = (gather origin es before s).bind fun s => (slot.ofJson origin e.2 s).toOption.bind fun s =>
          gather origin es after s := by
        rw [gather_append, h_names before h_before]
        refine Option.bind_congr fun s' _ => ?_
        rw [gather_cons, h_own]
        exact Option.bind_congr fun s'' _ => h_names after h_after s''
    _ = (slot.ofJson origin e.2 s).toOption.bind fun s => (gather origin es before s).bind fun s =>
          gather origin es after s := by
        rw [← Option.bind_assoc, ← gather_swap h_before, Option.bind_assoc]
    _ = (slot.ofJson origin e.2 s).toOption.bind fun s =>
          gather origin es (before ++ slot :: after) s := by
        refine Option.bind_congr fun s' _ => ?_
        rw [gather_append]
        refine Option.bind_congr fun s'' _ => ?_
        rw [gather_cons, h_skip, Option.bind_some]

/-- A slot that reads an entry leaves the slots free whose entries are still to come. -/
theorem isFilled_of_read {before after : List (Slot σ)} {slot : Slot σ} {j : Json} {s s' : σ}
    (h_before : ∀ slot' ∈ before, slot.Apart slot') (h_after : ∀ slot' ∈ after, slot.Apart slot')
    (h_gone : es.lookup slot.name = none)
    (h_free : ∀ slot' ∈ before ++ slot :: after, (es.lookup slot'.name).isSome = true →
      slot'.isFilled s = false)
    (h_read : (slot.ofJson origin j s).toOption = some s') :
    ∀ slot' ∈ before ++ slot :: after, (es.lookup slot'.name).isSome = true →
      slot'.isFilled s' = false := by
  intro slot' h_slot' h_some
  have h_apart : slot.Apart slot' := by
    rcases List.mem_append.1 h_slot' with h_mem | h_mem
    · exact h_before slot' h_mem
    · rcases List.mem_cons.1 h_mem with rfl | h_mem
      · rw [h_gone] at h_some
        cases h_some
      · exact h_after slot' h_mem
  exact (h_apart.free origin j s s' h_read).trans (h_free slot' h_slot' h_some)

/-- The slot for a key is apart from those before it and behind it. -/
theorem Lawful.apart_of_find? {key : String} {slot : Slot σ} (h : r.Lawful)
    (h_find : (r.slots.find? fun slot => slot.name = key) = some slot) : slot.name = key ∧
      ∃ before after, r.slots = before ++ slot :: after ∧
        (∀ slot' ∈ before, slot.Apart slot') ∧ ∀ slot' ∈ after, slot.Apart slot' := by
  obtain ⟨h_name, before, after, h_slots, -⟩ := List.find?_eq_some_iff_append.1 h_find
  have h_apart := h.apart
  rw [h_slots, List.pairwise_append] at h_apart
  obtain ⟨-, h_after, h_across⟩ := h_apart
  exact ⟨by simpa using h_name, before, after, h_slots,
    fun slot' h_slot' => (h_across slot' h_slot' slot List.mem_cons_self).2,
    fun slot' h_slot' => ((List.pairwise_cons.1 h_after).1 slot' h_slot').1⟩

/-- The entries of a record one after the other, or slot by slot. -/
theorem foldlM_addEntry (h : r.Lawful) (h_keys : (es.map (·.1)).Nodup)
    (h_known : r.closed = true → ∀ e ∈ es, ∃ slot ∈ r.slots, slot.name = e.1) (s : σ)
    (h_free : ∀ slot ∈ r.slots, (es.lookup slot.name).isSome = true → slot.isFilled s = false) :
    (es.foldlM (r.addEntry origin) s).toOption = gather origin es r.slots s := by
  rw [toOption_foldlM]
  induction es generalizing s with
  | nil => exact (gather_nil_entries r.slots s).symm
  | cons e es ih =>
    obtain ⟨h_new, h_keys⟩ := List.nodup_cons.1 h_keys
    have h_known' : r.closed = true → ∀ e ∈ es, ∃ slot ∈ r.slots, slot.name = e.1 :=
      fun h_closed => (List.forall_mem_cons.1 (h_known h_closed)).2
    -- what stands under other keys is found behind the entry
    have h_later : ∀ slot ∈ r.slots, (es.lookup slot.name).isSome = true →
        slot.isFilled s = false := by
      intro slot h_slot h_some
      refine h_free slot h_slot ?_
      rw [List.lookup_cons]
      split
      · rfl
      · exact h_some
    rw [List.foldlM_cons, toOption_addEntry]
    cases h_find : r.slots.find? fun slot => slot.name = e.1 with
    | none =>
      have h_none : ∀ slot ∈ r.slots, slot.name ≠ e.1 := by
        simpa using List.find?_eq_none.1 h_find
      have h_open : r.closed = false := by
        refine Bool.eq_false_iff.2 fun h_closed => ?_
        obtain ⟨slot, h_slot, h_name⟩ := h_known h_closed e List.mem_cons_self
        exact h_none slot h_slot h_name
      rw [gather_cons_entry h_none]
      simp only [h_open, Bool.false_eq_true, if_false]
      exact ih h_keys h_known' s h_later
    | some slot =>
      obtain ⟨h_name, before, after, h_slots, h_before, h_after⟩ := h.apart_of_find? h_find
      have h_filled : slot.isFilled s = false := by
        refine h_free slot (h_slots ▸ List.mem_append_right _ List.mem_cons_self) ?_
        rw [List.lookup_cons, h_name]
        simp
      have h_gone : es.lookup slot.name = none := Dict.lookup_eq_none (h_name ▸ h_new)
      simp only [h_filled, Bool.false_eq_true, if_false]
      rw [h_slots] at h_later ih ⊢
      rw [gather_cons_slot h_before h_after h_name h_gone]
      -- the other slots read on as if this one had been last
      refine Option.bind_congr fun s' h_s' => ?_
      have h_known'' : r.closed = true → ∀ e ∈ es, ∃ slot' ∈ before ++ slot :: after,
          slot'.name = e.1 := h_slots ▸ h_known'
      exact ih h_keys h_known'' s' (isFilled_of_read h_before h_after h_gone h_later h_s')

/-- **Records by look-ups.** -/
theorem read?_ofEntries (h : r.Lawful) (h_keys : (es.map (·.1)).Nodup)
    (h_known : r.closed = true → ∀ e ∈ es, ∃ slot ∈ r.slots, slot.name = e.1) :
    (r.ofEntries origin es).toOption =
      (gather origin es r.slots r.start).bind fun s => (r.finish s).toOption := by
  rw [ofEntries, toOption_bind,
    foldlM_addEntry h h_keys h_known r.start fun slot h_slot _ => h.start slot h_slot]

/-- A key that a closed record does not know is one too many. -/
theorem ofEntries_unknown (h_closed : r.closed = true) {e : String × Json} (h_e : e ∈ es)
    (h_unknown : ∀ slot ∈ r.slots, slot.name ≠ e.1) : (r.ofEntries origin es).toOption = none := by
  have h_none : ∀ s, es.foldlM (fun s e => (r.addEntry origin s e).toOption) s = none := by
    induction es with
    | nil => exact absurd h_e List.not_mem_nil
    | cons x es ih =>
      intro s
      rw [List.foldlM_cons]
      rcases List.mem_cons.1 h_e with rfl | h_e
      · have h_find : (r.slots.find? fun slot => slot.name = e.1) = none :=
          List.find?_eq_none.2 (by simpa using h_unknown)
        rw [toOption_addEntry, h_find, h_closed]
        rfl
      · cases (r.addEntry origin s x).toOption with
        | none => rfl
        | some s' => exact ih h_e s'
  rw [ofEntries, toOption_bind, toOption_foldlM, h_none]
  rfl

end Record

/-! ### Tags -/

namespace Tagged

variable {α : Type} {t : Tagged α} {origin : Origin} {es : List (String × Json)}

/-- The entries beside a tag. -/
def beside (key : String) (es : List (String × Json)) : List (String × Json) :=
  es.filter fun e => e.1 != key

theorem lookup_beside {key k : String} (h : k ≠ key) : (beside key es).lookup k = es.lookup k := by
  rw [beside, Dict.lookup_filter_ne, if_neg h]

theorem nodup_beside {key : String} (h : (es.map (·.1)).Nodup) :
    ((beside key es).map (·.1)).Nodup :=
  h.sublist (List.filter_sublist.map _)

theorem toOption_splitEntries_found {name : String} {others : List (String × Json)}
    (h : ∀ e ∈ es, e.1 ≠ t.tag) :
    t.splitEntries origin es (some name) others = .ok (name, others.reverse ++ es) := by
  induction es generalizing others with
  | nil => simp [splitEntries]
  | cons e es ih =>
    obtain ⟨h_e, h_es⟩ := List.forall_mem_cons.1 h
    rw [splitEntries, if_neg h_e, ih h_es]
    simp

/-- The tag is looked up, and the others are what is left. -/
theorem toOption_splitEntries (h_keys : (es.map (·.1)).Nodup) (others : List (String × Json)) :
    (t.splitEntries origin es none others).toOption =
      (es.lookup t.tag).bind fun j => (variantNamed origin t.variants j).toOption.map fun name =>
        (name, others.reverse ++ beside t.tag es) := by
  induction es generalizing others with
  | nil => rfl
  | cons e es ih =>
    obtain ⟨k, j⟩ := e
    obtain ⟨h_new, h_keys⟩ := List.nodup_cons.1 h_keys
    rw [splitEntries, List.lookup_cons]
    by_cases h_tag : k = t.tag
    · -- The tag does not come again, so all later entries are set aside.
      have h_others : ∀ e ∈ es, e.1 ≠ t.tag :=
        fun e h_e h_eq => h_new (List.mem_map.2 ⟨e, h_e, h_eq.trans h_tag.symm⟩)
      have h_beside : beside t.tag ((k, j) :: es) = es := by
        rw [beside, List.filter_cons_of_neg (by simp [h_tag])]
        exact List.filter_eq_self.2 fun e h_e => by simpa using h_others e h_e
      rw [if_pos h_tag, h_beside, h_tag]
      simp only [beq_self_eq_true, Option.bind_some]
      cases variantNamed origin t.variants j with
      | error _ => rfl
      | ok name =>
        show (t.splitEntries origin es (some name) others).toOption = _
        rw [toOption_splitEntries_found h_others]
        rfl
    · have h_beq : (t.tag == k) = false := by simpa using Ne.symm h_tag
      have h_beside : beside t.tag ((k, j) :: es) = (k, j) :: beside t.tag es := by
        rw [beside, List.filter_cons_of_pos (by simpa using h_tag), beside]
      rw [if_neg h_tag, ih h_keys, h_beq, h_beside]
      simp

/-- **Tagged values by look-ups.** -/
theorem read?_ofEntries (h_keys : (es.map (·.1)).Nodup) :
    (t.ofEntries origin es).toOption =
      (es.lookup t.tag).bind fun j => (variantNamed origin t.variants j).toOption.bind fun name =>
        (t.variant name (.entries (beside t.tag es))).toOption := by
  rw [ofEntries, toOption_bind, toOption_splitEntries h_keys, Option.bind_assoc]
  refine Option.bind_congr fun j _ => ?_
  cases (variantNamed origin t.variants j).toOption <;> rfl

/-- A variant that is named by the tag is read from what stands beside it. -/
theorem read?_variant (h_keys : (es.map (·.1)).Nodup) {name : String}
    (h_tag : es.lookup t.tag = some (.string name)) (h_name : t.variants.contains name = true) :
    (t.ofEntries origin es).toOption =
      (t.variant name (.entries (beside t.tag es))).toOption := by
  have h_variant : variantNamed origin t.variants (.string name) = .ok name := by
    rw [variantNamed, if_pos h_name]
  rw [read?_ofEntries h_keys, h_tag, Option.bind_some, h_variant]
  rfl

end Tagged

/-- **Records beside a tag**, by look-ups. -/
theorem Record.read?_beside {σ α : Type} {r : Record σ α} (h : r.Lawful) (h_open : r.closed = false)
    {es : List (String × Json)} (h_keys : (es.map (·.1)).Nodup) {key : String}
    (h_names : ∀ slot ∈ r.slots, slot.name ≠ key) :
    (r.ofUntagged (.entries (Tagged.beside key es))).toOption =
      (Record.gather .fragment es r.slots r.start).bind fun s => (r.finish s).toOption := by
  have h_gather : ∀ (slots : List (Slot σ)) s, (∀ slot ∈ slots, slot.name ≠ key) →
      Record.gather .fragment (Tagged.beside key es) slots s =
        Record.gather .fragment es slots s := by
    intro slots
    induction slots with
    | nil => exact fun _ _ => rfl
    | cons slot slots ih =>
      intro s h_names
      obtain ⟨h_name, h_names⟩ := List.forall_mem_cons.1 h_names
      rw [Record.gather_cons, Record.gather_cons, Slot.fill, Slot.fill,
        Tagged.lookup_beside h_name]
      exact Option.bind_congr fun s' _ => ih s' h_names
  rw [Record.ofUntagged, Record.read?_ofEntries h (Tagged.nodup_beside h_keys)
    (fun h_closed => absurd h_closed (by simp [h_open])), h_gather _ _ h_names]

end Specimen
