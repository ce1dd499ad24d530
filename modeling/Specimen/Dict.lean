/-!
# Dictionaries in the order of their keys

Ids, character sets, settings and data sets are all looked up by a text, and whatever
lists them does so in the order of the keys: by code point, which is also the order of
their UTF-8 bytes. A `Dict` is the list of its entries with strictly ascending keys, so
two dictionaries with the same entries are equal and every listing is already sorted.

* `get?_insert` and `get?_erase` say what the two updates do to every key.
* `ext_get?`: a dictionary is determined by what it holds under each key.
-/

namespace Specimen

/-- Entries whose keys ascend strictly. -/
structure Dict (α : Type) where
  /-- The entries, by ascending key. -/
  entries : List (String × α)
  ascending : entries.Pairwise (fun a b => a.1 < b.1)

/-- A set of texts, in ascending order. -/
abbrev NameSet := Dict Unit

namespace Dict

variable {α : Type}

instance : Inhabited (Dict α) := ⟨⟨[], .nil⟩⟩

/-- The dictionary without entries. -/
def empty : Dict α := ⟨[], .nil⟩

@[ext] theorem ext {d e : Dict α} (h : d.entries = e.entries) : d = e := by
  cases d; cases e; simp_all

instance [DecidableEq α] : DecidableEq (Dict α) := fun d e =>
  if h : d.entries = e.entries then isTrue (ext h) else isFalse fun he => h (he ▸ rfl)

/-! ### Look-up -/

/-- The value under a key. -/
def get? (d : Dict α) (k : String) : Option α := d.entries.lookup k

/-- True when the key has an entry. -/
def contains (d : Dict α) (k : String) : Bool := (d.get? k).isSome

/-- The keys, in ascending order. -/
def keys (d : Dict α) : List String := d.entries.map (·.1)

/-- The number of entries. -/
def size (d : Dict α) : Nat := d.entries.length

/-- True when there is no entry. -/
def isEmpty (d : Dict α) : Bool := d.entries.isEmpty

/-! ### Updates -/

/-- Puts an entry into an ascending list, in place of one with the same key. -/
def insertEntry (k : String) (v : α) : List (String × α) → List (String × α)
  | [] => [(k, v)]
  | e :: es =>
    if k < e.1 then (k, v) :: e :: es
    else if e.1 < k then e :: insertEntry k v es
    else (k, v) :: es

theorem mem_insertEntry {k : String} {v : α} {es : List (String × α)} {x : String × α}
    (h : x ∈ insertEntry k v es) : x = (k, v) ∨ x ∈ es := by
  induction es with
  | nil => simpa [insertEntry] using h
  | cons e es ih =>
    simp only [insertEntry] at h
    split at h
    · simpa using h
    · split at h
      · rcases List.mem_cons.1 h with rfl | h
        · simp
        · rcases ih h with h | h <;> simp [h]
      · rcases List.mem_cons.1 h with rfl | h <;> simp_all

theorem insertEntry_ascending (k : String) (v : α) {es : List (String × α)}
    (h : es.Pairwise (fun a b => a.1 < b.1)) :
    (insertEntry k v es).Pairwise (fun a b => a.1 < b.1) := by
  induction es with
  | nil => simp [insertEntry]
  | cons e es ih =>
    obtain ⟨hhead, htail⟩ := List.pairwise_cons.1 h
    simp only [insertEntry]
    split
    · next hlt =>
      refine List.pairwise_cons.2 ⟨fun x hx => ?_, h⟩
      rcases List.mem_cons.1 hx with rfl | hx
      · exact hlt
      · exact String.lt_trans hlt (hhead x hx)
    · next hlt =>
      split
      · next hgt =>
        refine List.pairwise_cons.2 ⟨fun x hx => ?_, ih htail⟩
        rcases mem_insertEntry hx with rfl | hx
        · exact hgt
        · exact hhead x hx
      · next hgt =>
        have heq : k = e.1 :=
          String.le_antisymm (String.not_lt.1 hgt) (String.not_lt.1 hlt)
        exact List.pairwise_cons.2 ⟨fun x hx => heq ▸ hhead x hx, htail⟩

/-- The dictionary with `v` under `k`. -/
def insert (d : Dict α) (k : String) (v : α) : Dict α :=
  ⟨insertEntry k v d.entries, insertEntry_ascending k v d.ascending⟩

/-- The dictionary without the key. -/
def erase (d : Dict α) (k : String) : Dict α :=
  ⟨d.entries.filter (fun e => e.1 != k), d.ascending.filter _⟩

/-- The entries of a list in order; of two with one key the later counts. -/
def ofList (es : List (String × α)) : Dict α :=
  es.foldl (fun d e => d.insert e.1 e.2) empty

/-- The same keys with their values transformed. -/
def map {β : Type} (f : α → β) (d : Dict α) : Dict β :=
  ⟨d.entries.map fun e => (e.1, f e.2), by
    rw [List.pairwise_map]; exact d.ascending⟩

/-! ### What the updates do to a look-up -/

@[simp] theorem get?_empty (k : String) : (empty : Dict α).get? k = none := rfl

theorem lookup_insertEntry (k : String) (v : α) (es : List (String × α)) (j : String) :
    (insertEntry k v es).lookup j = if j = k then some v else es.lookup j := by
  induction es with
  | nil =>
    by_cases h : j = k
    · simp [insertEntry, h]
    · have h' : (j == k) = false := by simpa using h
      simp [insertEntry, List.lookup_cons, h', h]
  | cons e es ih =>
    obtain ⟨e₁, e₂⟩ := e
    simp only [insertEntry]
    split
    · by_cases h : j = k
      · simp [h]
      · have h' : (j == k) = false := by simpa using h
        simp only [List.lookup_cons, h', if_neg h]
    · next hlt =>
      split
      · next hgt =>
        by_cases he : j = e₁
        · subst he
          have hne : j ≠ k := fun hjk => String.lt_irrefl k (hjk ▸ hgt)
          simp [hne]
        · have he' : (j == e₁) = false := by simpa using he
          simp [List.lookup_cons, he', ih]
      · next hgt =>
        have heq : k = e₁ :=
          String.le_antisymm (String.not_lt.1 hgt) (String.not_lt.1 hlt)
        subst heq
        by_cases h : j = k
        · simp [h]
        · have h' : (j == k) = false := by simpa using h
          simp only [List.lookup_cons, h', if_neg h]

/-- Insertion sets the one key and keeps the others. -/
theorem get?_insert (d : Dict α) (k : String) (v : α) (j : String) :
    (d.insert k v).get? j = if j = k then some v else d.get? j :=
  lookup_insertEntry k v d.entries j

@[simp] theorem get?_insert_self (d : Dict α) (k : String) (v : α) :
    (d.insert k v).get? k = some v := by
  simp [get?_insert]

theorem lookup_filter_ne (es : List (String × α)) (k j : String) :
    (es.filter (fun e => e.1 != k)).lookup j = if j = k then none else es.lookup j := by
  induction es with
  | nil => simp
  | cons e es ih =>
    obtain ⟨e₁, e₂⟩ := e
    by_cases hk : e₁ = k
    · subst hk
      by_cases hj : j = e₁
      · subst hj; simpa using ih
      · have hj' : (j == e₁) = false := by simpa using hj
        simp [List.lookup_cons, hj', hj, ih]
    · have hk' : (e₁ != k) = true := by simpa using hk
      by_cases hj : j = e₁
      · subst hj; simp [hk', hk]
      · have hj' : (j == e₁) = false := by simpa using hj
        simp [List.lookup_cons, hk', hj', ih]

/-- Erasing removes the one key and keeps the others. -/
theorem get?_erase (d : Dict α) (k j : String) :
    (d.erase k).get? j = if j = k then none else d.get? j :=
  lookup_filter_ne d.entries k j

theorem mem_entries_iff {d : Dict α} {k : String} {v : α} :
    (k, v) ∈ d.entries ↔ d.get? k = some v := by
  obtain ⟨es, h⟩ := d
  simp only [get?]
  induction es with
  | nil => simp
  | cons e es ih =>
    obtain ⟨hhead, htail⟩ := List.pairwise_cons.1 h
    obtain ⟨e₁, e₂⟩ := e
    by_cases hk : k = e₁
    · subst hk
      constructor
      · intro hm
        rcases List.mem_cons.1 hm with hm | hm
        · simp only [Prod.mk.injEq, true_and] at hm
          simp [hm]
        · exact absurd (hhead _ hm) (String.lt_irrefl k)
      · intro hl
        simp only [List.lookup_cons, beq_self_eq_true, Option.some.injEq] at hl
        simp [hl]
    · have hk' : (k == e₁) = false := by simpa using hk
      simp only [List.lookup_cons, hk', List.mem_cons, Prod.mk.injEq, hk, false_and, false_or]
      exact ih htail

/-- The keys are those with a value. -/
theorem mem_keys_iff {d : Dict α} {k : String} : k ∈ d.keys ↔ d.contains k = true := by
  simp only [keys, contains, List.mem_map, Option.isSome_iff_exists]
  constructor
  · rintro ⟨⟨j, v⟩, hm, rfl⟩
    exact ⟨v, mem_entries_iff.1 hm⟩
  · rintro ⟨v, hv⟩
    exact ⟨(k, v), mem_entries_iff.2 hv, rfl⟩

/-- The keys ascend strictly, so none is listed twice. -/
theorem keys_ascending (d : Dict α) : d.keys.Pairwise (· < ·) := by
  rw [keys, List.pairwise_map]; exact d.ascending

/-- A dictionary is determined by what it holds under each key. -/
theorem ext_get? {d e : Dict α} (h : ∀ k, d.get? k = e.get? k) : d = e := by
  have hsub : ∀ {d e : Dict α}, (∀ k, d.get? k = e.get? k) → d.entries ⊆ e.entries := by
    intro d e h x hx
    exact mem_entries_iff.2 ((h x.1).symm.trans (mem_entries_iff.1 hx))
  have hnodup : ∀ d : Dict α, d.entries.Nodup := fun d =>
    d.ascending.imp fun {a b} (hlt : a.1 < b.1) (heq : a = b) =>
      String.lt_irrefl b.1 (heq ▸ hlt)
  have hperm : d.entries.Perm e.entries :=
    (List.perm_ext_iff_of_nodup (hnodup d) (hnodup e)).2 fun x =>
      ⟨fun hx => hsub h hx, fun hx => hsub (fun k => (h k).symm) hx⟩
  refine Dict.ext (List.Perm.eq_of_pairwise ?_ d.ascending e.ascending hperm)
  intro a b _ _ hab hba
  exact absurd (String.lt_trans hab hba) (String.lt_irrefl _)

end Dict

namespace NameSet

/-- The set of the texts of a list. -/
def ofNames (names : List String) : NameSet := Dict.ofList (names.map fun n => (n, ()))

end NameSet

end Specimen
