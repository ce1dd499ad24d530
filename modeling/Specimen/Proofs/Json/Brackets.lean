import Specimen.Proofs.Json.Spelling

/-!
# Reading between brackets

Arrays are read item by item, and objects entry by entry (`Scan.yields_items`,
`Scan.yields_entries`). What an item is read as is left open: the laws hold of readers of whole
documents as well as of readers of typed values.

`Scan.Takes` says that a reader takes a certain text as a value, whatever stands around it.
-/

namespace Specimen

namespace Scan

open Json

variable {σ β : Type} {cs more inner outer blank : List Char} {o d fuel : Nat} {s s' : σ}

/-- A reader takes a text, behind white space and before what ends a number, and answers a value.
Brackets may nest as deep in the text as the number says. -/
def Takes {α : Type} (scan : Scan α) (depth : Nat) (cs : List Char) (a : α) : Prop :=
  ∀ blank more o d, Blank blank → Ended more → depth < d →
    Yields scan ⟨blank ++ (cs ++ more), o, d⟩ a more

/-- A text begins with a character other than white space and a closing bracket. -/
def Begins (cs : List Char) : Prop :=
  ∃ x rest, cs = x :: rest ∧ Cursor.isBlank x = false ∧ x ≠ ']' ∧ x ≠ '\x7d'

theorem Begins.append (h : Begins cs) (more : List Char) : Begins (cs ++ more) := by
  obtain ⟨x, rest, rfl, h_x⟩ := h
  exact ⟨x, rest ++ more, rfl, h_x⟩

theorem token_cons {x : Char} {rest : List Char} (h : Cursor.isBlank x = false) :
    Token (x :: rest) := by
  rintro _ ⟨⟩
  exact h

theorem blank_nil : Blank [] := fun _ h => absurd h List.not_mem_nil

theorem yields_peekToken_bind_cons {α : Type} {a : α} {k : Option Char → Scan α} {x : Char}
    {rest : List Char} (h : Cursor.isBlank x = false)
    (h_k : ∀ o, Yields (k (some x)) ⟨x :: rest, o, d⟩ a more) :
    Yields (peekToken >>= k) ⟨x :: rest, o, d⟩ a more := by
  have h_bind := yields_peekToken_bind (o := o) blank_nil (token_cons h) h_k
  rwa [List.nil_append] at h_bind

theorem ended_cons {x : Char} {rest : List Char}
    (h : x.isDigit = false ∧ x ≠ '.' ∧ x ≠ 'e' ∧ x ≠ 'E') : Ended (x :: rest) := by
  rintro _ ⟨⟩
  exact h

/-- White space ends a number. -/
theorem ended_blank (h : Blank blank) (h_more : Ended more) : Ended (blank ++ more) := by
  cases blank with
  | nil => exact h_more
  | cons x blank =>
    have h_x : Cursor.isBlank x = true := h x List.mem_cons_self
    refine ended_cons ?_
    simp only [Cursor.isBlank, Bool.or_eq_true, decide_eq_true_eq] at h_x
    rcases h_x with ((rfl | rfl) | rfl) | rfl <;> decide

theorem ended_tail (h : Blank outer) {close : Char} (h_close : close = ']' ∨ close = '\x7d')
    (ts : List (List Char)) : Ended (tail inner outer close ts ++ more) := by
  cases ts with
  | nil =>
    rw [tail, List.append_assoc]
    refine ended_blank h (ended_cons ?_)
    rcases h_close with rfl | rfl <;> decide
  | cons t ts => exact ended_cons (by decide)

/-- Every item after the first one takes some characters. -/
theorem length_lt_tail (inner outer : List Char) (close : Char) (ts : List (List Char)) :
    ts.length < (tail inner outer close ts).length := by
  induction ts with
  | nil => simp [tail]
  | cons t ts ih =>
    simp only [tail, List.length_cons, List.length_append]
    omega

/-! ### Arrays -/

theorem yields_anotherItem_end {first : Bool} (h : Blank blank) :
    Yields (anotherItem first) ⟨blank ++ ']' :: more, o, d⟩ false (']' :: more) := by
  rw [anotherItem]
  exact yields_peekToken_bind h (token_cons rfl) fun o => yields_pure

theorem yields_anotherItem_first (h : Blank blank) (h_cs : Begins cs) :
    Yields (anotherItem true) ⟨blank ++ cs, o, d⟩ true cs := by
  obtain ⟨x, rest, rfl, h_x, h_close, -⟩ := h_cs
  rw [anotherItem]
  refine yields_peekToken_bind h (token_cons h_x) fun o => ?_
  dsimp only [List.head?_cons]
  split
  · contradiction
  · next h_eq => exact absurd (Option.some.inj h_eq) h_close
  · exact yields_pure

theorem yields_anotherItem_next (h : Blank blank) (h_cs : Begins cs) :
    Yields (anotherItem false) ⟨',' :: (blank ++ cs), o, d⟩ true cs := by
  obtain ⟨x, rest, rfl, h_x, h_close, -⟩ := h_cs
  rw [anotherItem]
  refine yields_peekToken_bind_cons rfl fun o => ?_
  show Yields (eat >>= fun _ => peekToken >>= _) _ _ _
  rw [yields_eat_bind]
  refine yields_peekToken_bind h (token_cons h_x) fun o => ?_
  dsimp only [List.head?_cons]
  split
  · contradiction
  · next h_eq => exact absurd (Option.some.inj h_eq) h_close
  · exact yields_pure

theorem yields_closeArray : Yields closeArray ⟨']' :: more, o, d⟩ () more := by
  rw [closeArray]
  exact yields_peekToken_bind_cons rfl fun o => yields_eat

section Items

variable {item : σ → Scan σ} {text : β → List Char} {step : σ → β → Option σ} {xs : List β}
  (h_inner : Blank inner) (h_outer : Blank outer) (h_begins : ∀ x ∈ xs, Begins (text x))
  (h_item : ∀ x ∈ xs, ∀ s s', step s x = some s' → ∀ more o, Ended more →
    Yields (item s) ⟨text x ++ more, o, d⟩ s' more)

include h_inner h_outer h_begins h_item

theorem yields_items_tail (h : xs.foldlM step s = some s') (h_fuel : xs.length < fuel) :
    Yields (items item fuel false s) ⟨tail inner outer ']' (xs.map text) ++ more, o, d⟩ s'
      (']' :: more) := by
  induction xs generalizing s fuel o with
  | nil =>
    obtain ⟨fuel, rfl⟩ := Nat.exists_eq_add_one_of_ne_zero (Nat.ne_zero_of_lt h_fuel)
    cases h
    rw [items, List.map_nil, tail, List.append_assoc]
    exact (yields_anotherItem_end h_outer).bind fun o => yields_pure
  | cons x xs ih =>
    obtain ⟨fuel, rfl⟩ := Nat.exists_eq_add_one_of_ne_zero (Nat.ne_zero_of_lt h_fuel)
    obtain ⟨s₁, h_x, h_xs⟩ := Option.bind_eq_some_iff.1 h
    obtain ⟨h_begin, h_begins⟩ := List.forall_mem_cons.1 h_begins
    obtain ⟨h_first, h_item⟩ := List.forall_mem_cons.1 h_item
    rw [items, List.map_cons, tail, List.cons_append, List.append_assoc, List.append_assoc]
    refine (yields_anotherItem_next h_inner (h_begin.append _)).bind fun o => ?_
    refine (h_first s s₁ h_x _ o (ended_tail h_outer (.inl rfl) _)).bind fun o => ?_
    exact ih h_begins h_item h_xs (Nat.lt_of_succ_lt_succ h_fuel)

/-- **Items**, behind the opening bracket. -/
theorem yields_items (h : xs.foldlM step s = some s') :
    Yields (do items item (← Scan.fuel) true s)
      ⟨inside inner outer ']' (xs.map text) ++ more, o, d⟩ s' (']' :: more) := by
  rw [yields_fuel_bind, items]
  cases xs with
  | nil =>
    cases h
    exact (yields_anotherItem_end blank_nil).bind fun o => yields_pure
  | cons x xs =>
    obtain ⟨s₁, h_x, h_xs⟩ := Option.bind_eq_some_iff.1 h
    obtain ⟨h_begin, h_begins⟩ := List.forall_mem_cons.1 h_begins
    obtain ⟨h_first, h_item⟩ := List.forall_mem_cons.1 h_item
    have h_length := length_lt_tail inner outer ']' (xs.map text)
    rw [List.length_map] at h_length
    simp only [List.map_cons, inside, List.append_assoc]
    refine (yields_anotherItem_first h_inner (h_begin.append _)).bind fun o => ?_
    refine (h_first s s₁ h_x _ o (ended_tail h_outer (.inl rfl) _)).bind fun o => ?_
    refine yields_items_tail h_inner h_outer h_begins h_item h_xs ?_
    simp only [List.length_append]
    omega

end Items

/-! ### Objects -/

theorem yields_anotherEntry_end {first : Bool} (h : Blank blank) :
    Yields (anotherEntry first) ⟨blank ++ '\x7d' :: more, o, d⟩ false ('\x7d' :: more) := by
  rw [anotherEntry]
  exact yields_peekToken_bind h (token_cons rfl) fun o => yields_pure

theorem yields_anotherEntry_first (h : Blank blank) :
    Yields (anotherEntry true) ⟨blank ++ '"' :: more, o, d⟩ true more := by
  rw [anotherEntry]
  refine yields_peekToken_bind h (token_cons rfl) fun o => ?_
  exact yields_eat_bind.2 yields_pure

theorem yields_anotherEntry_next (h : Blank blank) :
    Yields (anotherEntry false) ⟨',' :: (blank ++ '"' :: more), o, d⟩ true more := by
  rw [anotherEntry]
  refine yields_peekToken_bind_cons rfl fun o => ?_
  show Yields (eat >>= fun _ => peekToken >>= _) _ _ _
  rw [yields_eat_bind]
  refine yields_peekToken_bind h (token_cons rfl) fun o => ?_
  exact yields_eat_bind.2 yields_pure

theorem yields_closeObject : Yields closeObject ⟨'\x7d' :: more, o, d⟩ () more := by
  rw [closeObject]
  exact yields_peekToken_bind_cons rfl fun o => yields_eat

theorem yields_colon : Yields colon ⟨':' :: more, o, d⟩ () more := by
  rw [colon]
  exact yields_peekToken_bind_cons rfl fun o => yields_eat

section Entries

variable {entry : σ → String → Scan σ} {key : β → String} {text : β → List Char}
  {step : σ → β → Option σ} {xs : List β}
  (h_inner : Blank inner) (h_outer : Blank outer)
  (h_entry : ∀ x ∈ xs, ∀ s s', step s x = some s' → ∀ more o, Ended more →
    Yields (entry s (key x)) ⟨text x ++ more, o, d⟩ s' more)

include h_inner h_outer h_entry

theorem yields_entries_tail (h : xs.foldlM step s = some s') (h_fuel : xs.length < fuel) :
    Yields (entries entry fuel false s)
      ⟨tail inner outer '\x7d' (xs.map fun x => quote (key x) ++ text x) ++ more, o, d⟩ s'
      ('\x7d' :: more) := by
  induction xs generalizing s fuel o with
  | nil =>
    obtain ⟨fuel, rfl⟩ := Nat.exists_eq_add_one_of_ne_zero (Nat.ne_zero_of_lt h_fuel)
    cases h
    rw [entries, List.map_nil, tail, List.append_assoc]
    exact (yields_anotherEntry_end h_outer).bind fun o => yields_pure
  | cons x xs ih =>
    obtain ⟨fuel, rfl⟩ := Nat.exists_eq_add_one_of_ne_zero (Nat.ne_zero_of_lt h_fuel)
    obtain ⟨s₁, h_x, h_xs⟩ := Option.bind_eq_some_iff.1 h
    obtain ⟨h_first, h_entry⟩ := List.forall_mem_cons.1 h_entry
    rw [entries, List.map_cons, tail, quote]
    simp only [List.cons_append, List.append_assoc, List.nil_append]
    refine (yields_anotherEntry_next h_inner).bind fun o => ?_
    refine yields_string.bind fun o => ?_
    refine (h_first s s₁ h_x _ o (ended_tail h_outer (.inr rfl) _)).bind fun o => ?_
    exact ih h_entry h_xs (Nat.lt_of_succ_lt_succ h_fuel)

/-- **Entries**, behind the opening brace. -/
theorem yields_entries (h : xs.foldlM step s = some s') :
    Yields (do entries entry (← Scan.fuel) true s)
      ⟨inside inner outer '\x7d' (xs.map fun x => quote (key x) ++ text x) ++ more, o, d⟩ s'
      ('\x7d' :: more) := by
  rw [yields_fuel_bind, entries]
  cases xs with
  | nil =>
    cases h
    exact (yields_anotherEntry_end blank_nil).bind fun o => yields_pure
  | cons x xs =>
    obtain ⟨s₁, h_x, h_xs⟩ := Option.bind_eq_some_iff.1 h
    obtain ⟨h_first, h_entry⟩ := List.forall_mem_cons.1 h_entry
    have h_length := length_lt_tail inner outer '\x7d'
      (xs.map fun x => quote (key x) ++ text x)
    rw [List.length_map] at h_length
    rw [List.map_cons, inside, quote]
    simp only [List.cons_append, List.append_assoc, List.nil_append]
    refine (yields_anotherEntry_first h_inner).bind fun o => ?_
    refine yields_string.bind fun o => ?_
    refine (h_first s s₁ h_x _ o (ended_tail h_outer (.inr rfl) _)).bind fun o => ?_
    refine yields_entries_tail h_inner h_outer h_entry h_xs ?_
    simp only [List.length_append, List.length_cons]
    omega

end Entries

end Scan

end Specimen
