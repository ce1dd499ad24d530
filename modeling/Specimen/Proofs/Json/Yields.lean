import Mathlib.Data.List.TakeWhile
import Specimen.Json.Scan
import Specimen.Proofs.Ends

/-!
# How readers of text go on

`Scan.Yields` says that a reader answers a value and leaves some characters, standing as deep in
brackets as before. Places in the text do not count: they matter for faults only.

Every step of a reader has a law that says how the next one begins, so that a reader is followed by
rewriting, character by character.
-/

namespace Specimen.Scan

variable {α β : Type} {a : α} {b : β} {more rest : List Char} {x : Char} {o d : Nat} {c : Cursor}

/-- A reader answers a value and leaves the cursor before some characters. -/
def Yields (scan : Scan α) (c : Cursor) (a : α) (more : List Char) : Prop :=
  ∃ o, scan c = (.ok a, ⟨more, o, c.depth⟩)

theorem Yields.bind {e : Scan α} {k : α → Scan β} (h : Yields e c a rest)
    (h_rest : ∀ o, Yields (k a) ⟨rest, o, c.depth⟩ b more) : Yields (e >>= k) c b more := by
  obtain ⟨o, h_e⟩ := h
  obtain ⟨o', h_k⟩ := h_rest o
  exact ⟨o', (bind_of_ok h_e).trans h_k⟩

theorem Yields.map {e : Scan α} {f : α → β} (h : Yields e c a more) :
    Yields (f <$> e) c (f a) more := by
  obtain ⟨o, h_e⟩ := h
  rw [← bind_pure_comp]
  exact ⟨o, bind_of_ok h_e⟩

theorem yields_pure : Yields (pure a) ⟨more, o, d⟩ a more := ⟨o, rfl⟩

/-! ### Steps -/

section Steps

variable {k : α → Scan β}

theorem yields_get_bind {k : Cursor → Scan β} :
    Yields (get >>= k) c b more ↔ Yields (k c) c b more := Iff.rfl

theorem yields_peek_bind {k : Option Char → Scan β} :
    Yields (peek >>= k) c b more ↔ Yields (k c.rest.head?) c b more := Iff.rfl

theorem yields_eat_bind {k : Unit → Scan β} :
    Yields (eat >>= k) ⟨x :: rest, o, d⟩ b more ↔
      Yields (k ()) ⟨rest, o + x.utf8Size, d⟩ b more := Iff.rfl

theorem yields_next_bind {k : Option Char → Scan β} :
    Yields (next >>= k) ⟨x :: rest, o, d⟩ b more ↔
      Yields (k (some x)) ⟨rest, o + x.utf8Size, d⟩ b more := Iff.rfl

theorem yields_eat : Yields eat ⟨x :: more, o, d⟩ () more := ⟨_, rfl⟩

theorem yields_fuel_bind {k : Nat → Scan β} :
    Yields (fuel >>= k) c b more ↔ Yields (k (c.rest.length + 1)) c b more := Iff.rfl

end Steps

/-! ### White space -/

/-- White space. -/
def Blank (cs : List Char) : Prop := ∀ x ∈ cs, Cursor.isBlank x = true

/-- The characters that a reader finds behind white space. -/
def Token (cs : List Char) : Prop := ∀ x ∈ cs.head?, Cursor.isBlank x = false

theorem skipBlank_append {blank : List Char} (h : Blank blank) (h_rest : Token rest) :
    Cursor.skipBlank ⟨blank ++ rest, o, d⟩ = ⟨rest, o + blank.length, d⟩ := by
  -- the characters that are passed over are just the white space, since what follows is a token
  have h_take : (blank ++ rest).takeWhile Cursor.isBlank = blank := by
    rw [List.takeWhile_append_of_pos h]
    cases rest with
    | nil => simp
    | cons x rest =>
      rw [List.takeWhile_cons_of_neg (by simp [h_rest x rfl]), List.append_nil]
  have h_drop : (blank ++ rest).dropWhile Cursor.isBlank = rest := by
    rw [List.dropWhile_append_of_pos h]
    cases rest with
    | nil => rfl
    | cons x rest => exact List.dropWhile_cons_of_neg (by simp [h_rest x rfl])
  rw [Cursor.skipBlank, h_take, h_drop]

/-- White space is passed over before a token. -/
theorem yields_peekToken_bind {k : Option Char → Scan β} {blank : List Char} (h : Blank blank)
    (h_rest : Token rest) (h_k : ∀ o, Yields (k rest.head?) ⟨rest, o, d⟩ b more) :
    Yields (peekToken >>= k) ⟨blank ++ rest, o, d⟩ b more := by
  show Yields (k (Cursor.skipBlank ⟨blank ++ rest, o, d⟩).rest.head?)
    (Cursor.skipBlank ⟨blank ++ rest, o, d⟩) b more
  rw [skipBlank_append h h_rest]
  exact h_k _

/-! ### Brackets and places -/

/-- A reader that answers has no fault to be caught. -/
theorem tryCatch_of_ok {scan : Scan α} {handler : ReadFault → Scan α} {c' : Cursor}
    (h : scan c = (.ok a, c')) : tryCatch scan handler c = (.ok a, c') := by
  simp only [tryCatch, tryCatchThe, MonadExceptOf.tryCatch, ExceptT.tryCatch, ExceptT.mk, bind,
    StateT.bind]
  rw [h]
  rfl

theorem yields_placed {scan : Scan α} (h : Yields scan c a more) :
    Yields (placed scan) c a more := by
  obtain ⟨o, h_scan⟩ := h
  exact ⟨o, tryCatch_of_ok h_scan⟩

theorem observing_of_ok {scan : Scan α} {c' : Cursor} (h : scan c = (.ok a, c')) :
    thenAlways.observing scan c = (.ok (.ok a), c') :=
  tryCatch_of_ok (bind_of_ok h)

theorem thenAlways_of_ok {scan : Scan α} {close : Scan Unit} {c' c'' : Cursor}
    (h : scan c = (.ok a, c')) (h_close : close c' = (.ok (), c'')) :
    thenAlways scan close c = (.ok a, c'') := by
  rw [thenAlways, bind_of_ok (observing_of_ok h), bind_of_ok (observing_of_ok h_close)]
  rfl

/-- Brackets, if they do not nest too deep. -/
theorem yields_bracket {scan : Scan α} {close : Scan Unit} {inner : List Char} (h_depth : 1 < d)
    (h : ∀ o, Yields scan ⟨rest, o, d - 1⟩ a inner)
    (h_close : ∀ o, Yields close ⟨inner, o, d⟩ () more) :
    Yields (bracket scan close) ⟨x :: rest, o, d⟩ a more := by
  -- the opening bracket is taken, and the closing one puts the depth back
  have h_bracket : bracket scan close ⟨x :: rest, o, d⟩ =
      thenAlways scan (do
        modify fun c => { c with depth := d }
        close) ⟨rest, o + x.utf8Size, d - 1⟩ := by
    rw [bracket]
    show (if d ≤ 1 then failPeek .depthLimit else _ : Scan α) ⟨x :: rest, o, d⟩ = _
    rw [if_neg (by omega)]
    rfl
  obtain ⟨o₁, h_scan⟩ := h (o + x.utf8Size)
  obtain ⟨o₂, h_close⟩ := h_close o₁
  exact ⟨o₂, h_bracket.trans (thenAlways_of_ok h_scan h_close)⟩

/-! ### Words and strings -/

theorem yields_word (w : List Char) : Yields (word w) ⟨w ++ more, o, d⟩ () more := by
  induction w generalizing o with
  | nil => exact ⟨o, rfl⟩
  | cons x w ih =>
    rw [word, List.cons_append, yields_next_bind]
    show Yields (if x = x then word w else _) _ _ _
    rw [if_pos rfl]
    exact ih

theorem hexValue?_hexDigit (n : Nat) : hexValue? (Json.hexDigit n) = some (n % 16) := by
  have h_all : ∀ i : Fin 16, hexValue? (Nat.digitChar i) = some i.val := by decide
  exact h_all ⟨n % 16, Nat.mod_lt _ (by decide)⟩

theorem yields_fourHexDigits {c₁ c₂ c₃ c₄ : Char} {n₁ n₂ n₃ n₄ : Nat} (h₁ : hexValue? c₁ = some n₁)
    (h₂ : hexValue? c₂ = some n₂) (h₃ : hexValue? c₃ = some n₃) (h₄ : hexValue? c₄ = some n₄) :
    Yields fourHexDigits ⟨c₁ :: c₂ :: c₃ :: c₄ :: more, o, d⟩
      (((n₁ * 16 + n₂) * 16 + n₃) * 16 + n₄) more := by
  -- four characters are never fewer than four bytes, so that the text does not count as cut off
  have h_size : ¬ 0 + c₁.utf8Size + c₂.utf8Size + c₃.utf8Size + c₄.utf8Size < 4 := by
    have := c₁.utf8Size_pos
    have := c₂.utf8Size_pos
    have := c₃.utf8Size_pos
    have := c₄.utf8Size_pos
    omega
  have h_digits : [c₁, c₂, c₃, c₄].mapM hexValue? = some [n₁, n₂, n₃, n₄] := by
    simp [h₁, h₂, h₃, h₄]
  rw [fourHexDigits, yields_get_bind, yields_get_bind]
  have h_take : (c₁ :: c₂ :: c₃ :: c₄ :: more).take 4 = [c₁, c₂, c₃, c₄] := rfl
  simp only [h_take, h_digits, List.foldl_cons, List.foldl_nil]
  rw [if_neg h_size]
  exact ⟨_, rfl⟩

/-- The escape of a control character, behind its letter. -/
theorem yields_numericEscape (h : x.toNat < 0x20) :
    Yields numericEscape
      ⟨'0' :: '0' :: Json.hexDigit (x.toNat / 16) :: Json.hexDigit x.toNat :: more, o, d⟩ x more := by
  rw [numericEscape]
  have h_zero : hexValue? '0' = some 0 := rfl
  refine (yields_fourHexDigits h_zero h_zero (hexValue?_hexDigit _)
    (hexValue?_hexDigit _)).bind fun o => ?_
  -- control characters are no surrogates: the four digits stand for the character alone
  have h_number : ((0 * 16 + 0) * 16 + x.toNat / 16 % 16) * 16 + x.toNat % 16 = x.toNat := by omega
  rw [h_number, if_neg (by omega), if_pos (by omega), Char.ofNat_toNat]
  exact yields_pure

theorem yields_escape_u :
    Yields escape ⟨'u' :: rest, o, d⟩ x more ↔ Yields numericEscape ⟨rest, o + 1, d⟩ x more := Iff.rfl

/-- An escaped character is taken as the character. -/
theorem yields_stringBody_escapeChar {fuel : Nat} {done : List Char} {s : String}
    (h : ∀ o, Yields (stringBody fuel (x :: done)) ⟨rest, o, d⟩ s more) :
    Yields (stringBody (fuel + 1) done) ⟨Json.escapeChar x ++ rest, o, d⟩ s more := by
  -- all escapes begin alike; what follows the backslash is left to the cases
  have h_escape : ∀ {cs}, (∀ o, Yields escape ⟨cs, o, d⟩ x rest) →
      Yields (stringBody (fuel + 1) done) ⟨'\\' :: cs, o, d⟩ s more := by
    intro cs h_cs
    rw [stringBody, yields_next_bind]
    exact (h_cs _).bind h
  rw [Json.escapeChar]
  split_ifs with h_quote h_backslash h_b h_f h_n h_r h_t h_control
  -- the escapes of one letter, then those of other control characters
  iterate 7
    · subst_vars
      exact h_escape fun o => ⟨o + 1, rfl⟩
  · exact h_escape fun o => yields_escape_u.2 (yields_numericEscape h_control)
  -- any other character stands for itself, and is none that the body treats in another way
  · rw [stringBody, List.singleton_append, yields_next_bind]
    split
    · contradiction
    · next h_eq => exact absurd (Option.some.inj h_eq) h_quote
    · next h_eq => exact absurd (Option.some.inj h_eq) h_backslash
    · next h_eq =>
      obtain rfl := Option.some.inj h_eq
      rw [if_neg h_control]
      exact h _

/-- A quoted text, behind its opening quote. -/
theorem yields_stringBody {cs done : List Char} {fuel : Nat} (h_fuel : cs.length < fuel) :
    Yields (stringBody fuel done) ⟨cs.flatMap Json.escapeChar ++ '"' :: more, o, d⟩
      (String.ofList (done.reverse ++ cs)) more := by
  induction cs generalizing done fuel o with
  | nil =>
    obtain ⟨fuel, rfl⟩ := Nat.exists_eq_add_one_of_ne_zero (Nat.ne_zero_of_lt h_fuel)
    rw [List.append_nil]
    exact ⟨_, rfl⟩
  | cons x cs ih =>
    obtain ⟨fuel, rfl⟩ := Nat.exists_eq_add_one_of_ne_zero (Nat.ne_zero_of_lt h_fuel)
    rw [List.flatMap_cons, List.append_assoc]
    refine yields_stringBody_escapeChar fun o => ?_
    -- the characters are collected in reverse
    have h_text : done.reverse ++ x :: cs = (x :: done).reverse ++ cs := by
      rw [List.reverse_cons, List.append_assoc, List.singleton_append]
    rw [h_text]
    exact ih (Nat.lt_of_succ_lt_succ h_fuel)

theorem length_le_flatMap_escapeChar (cs : List Char) :
    cs.length ≤ (cs.flatMap Json.escapeChar).length := by
  induction cs with
  | nil => exact Nat.le_refl _
  | cons x cs ih =>
    have h_pos : 0 < (Json.escapeChar x).length := by
      rw [Json.escapeChar]
      split_ifs <;> exact Nat.succ_pos _
    rw [List.flatMap_cons, List.length_append, List.length_cons]
    omega

theorem yields_string {s : String} :
    Yields string ⟨s.toList.flatMap Json.escapeChar ++ '"' :: more, o, d⟩ s more := by
  -- the fuel is the length of what is left, and a character is never written shorter than it is
  have h_length := length_le_flatMap_escapeChar s.toList
  rw [string, yields_fuel_bind]
  have h_text : s = String.ofList ([].reverse ++ s.toList) := by
    rw [List.reverse_nil, List.nil_append, String.ofList_toList]
  conv => arg 3; rw [h_text]
  refine yields_stringBody ?_
  rw [List.length_append]
  omega

/-! ### Numbers -/

/-- What may follow a number: nothing that it could go on with. -/
def Ended (cs : List Char) : Prop :=
  ∀ x ∈ cs.head?, x.isDigit = false ∧ x ≠ '.' ∧ x ≠ 'e' ∧ x ≠ 'E'

theorem yields_goesOn (h : Ended more) : Yields goesOn ⟨more, o, d⟩ false more := by
  rw [goesOn, yields_peek_bind]
  cases more with
  | nil => exact yields_pure
  | cons x more =>
    obtain ⟨-, h_point, h_e, h_E⟩ := h x rfl
    dsimp only [List.head?_cons]
    split
    · next h_eq => exact absurd (Option.some.inj h_eq) h_point
    · next h_eq => exact absurd (Option.some.inj h_eq) h_e
    · next h_eq => exact absurd (Option.some.inj h_eq) h_E
    · exact yields_pure

theorem le_ofDigitChars (ds : List Char) (start : Nat) : start ≤ Nat.ofDigitChars 10 ds start := by
  induction ds generalizing start with
  | nil => exact Nat.le_of_eq Nat.ofDigitChars_nil.symm
  | cons x ds ih =>
    rw [Nat.ofDigitChars_cons]
    exact Nat.le_trans (by omega) (ih _)

/-- Digits that fit 64 bits are taken as one significand. -/
theorem splitSignificand_eq {ds : List Char} {start : Nat}
    (h : Nat.ofDigitChars 10 ds start < 0x1_0000_0000_0000_0000) :
    splitSignificand start ds = (Nat.ofDigitChars 10 ds start, []) := by
  induction ds generalizing start with
  | nil => rw [splitSignificand, Nat.ofDigitChars_nil]
  | cons x ds ih =>
    rw [Nat.ofDigitChars_cons] at h ⊢
    -- the significand only grows, so no digit on the way exceeds the limit either
    rw [splitSignificand, if_pos (Nat.lt_of_le_of_lt (le_ofDigitChars ds _) h)]
    exact ih h

/-- Positive numbers are written without leading zeros. -/
theorem exists_toDigits_eq_cons {n : Nat} (h : 0 < n) :
    ∃ x ds, Nat.toDigits 10 n = x :: ds ∧ x ≠ '0' := by
  induction n using Nat.strongRecOn with
  | ind n ih =>
    rw [Nat.toDigits_eq_if (by decide)]
    split
    · exact ⟨_, _, rfl, by simpa using Nat.ne_of_gt h⟩
    · obtain ⟨x, ds, h_digits, h_x⟩ := ih (n / 10) (by omega) (by omega)
      exact ⟨x, ds ++ [Nat.digitChar (n % 10)], by rw [h_digits, List.cons_append], h_x⟩

/-- Digits are taken up to what ends the number. -/
theorem yields_digits {ds : List Char} (h : ∀ x ∈ ds, x.isDigit = true) (h_more : Ended more) :
    Yields digits ⟨ds ++ more, o, d⟩ ds more := by
  have h_take : (ds ++ more).takeWhile Char.isDigit = ds := by
    rw [List.takeWhile_append_of_pos h]
    cases more with
    | nil => simp
    | cons x more => rw [List.takeWhile_cons_of_neg (by simp [(h_more x rfl).1]), List.append_nil]
  have h_drop : (ds ++ more).dropWhile Char.isDigit = more := by
    rw [List.dropWhile_append_of_pos h]
    cases more with
    | nil => rfl
    | cons x more => exact List.dropWhile_cons_of_neg (by simp [(h_more x rfl).1])
  refine ⟨o + ds.length, ?_⟩
  show (Except.ok ((ds ++ more).takeWhile Char.isDigit), (⟨(ds ++ more).dropWhile Char.isDigit,
    o + ((ds ++ more).takeWhile Char.isDigit).length, d⟩ : Cursor)) = _
  rw [h_take, h_drop]

theorem yields_unsigned {n : Nat} {negative : Bool} (h : n < 0x1_0000_0000_0000_0000)
    (h_more : Ended more) : Yields (unsigned negative) ⟨Nat.toDigits 10 n ++ more, o, d⟩
      (wholeNumber negative n) more := by
  have h_number : ∀ n, ∀ o, Yields (do
      if ← goesOn then withFraction negative n 0 else return wholeNumber negative n) ⟨more, o, d⟩
      (wholeNumber negative n) more :=
    fun n o => (yields_goesOn h_more).bind fun _ => yields_pure
  -- zero has a branch of its own: no digit may follow it
  by_cases h_zero : n = 0
  · subst h_zero
    rw [Nat.toDigits_zero, List.singleton_append, unsigned, yields_peek_bind]
    show Yields (eat >>= _) _ _ _
    rw [yields_eat_bind, yields_peek_bind]
    cases more with
    | nil => exact yields_pure
    | cons x more =>
      show Yields (if x.isDigit = true then _ else _) _ _ _
      rw [if_neg (by simp [(h_more x rfl).1])]
      exact h_number 0 _
  · obtain ⟨x, ds, h_digits, h_x⟩ := exists_toDigits_eq_cons (Nat.pos_of_ne_zero h_zero)
    have h_all : ∀ y ∈ x :: ds, y.isDigit = true := fun y h_y =>
      Nat.isDigit_of_mem_toDigits (by decide) (by decide) (h_digits ▸ h_y)
    have h_value : Nat.ofDigitChars 10 (x :: ds) 0 = n := h_digits ▸ Nat.ofDigitChars_ten_toDigits
    have h_split : splitSignificand 0 (x :: ds) = (n, []) := by
      rw [splitSignificand_eq (h_value ▸ h), h_value]
    rw [h_digits, unsigned, yields_peek_bind]
    dsimp only [List.head?_cons]
    split
    · contradiction
    · next h_eq => exact absurd (Option.some.inj h_eq) h_x
    · next h_eq =>
      obtain rfl := Option.some.inj h_eq
      rw [if_pos (h_all x List.mem_cons_self)]
      refine (yields_digits h_all h_more).bind fun o => ?_
      rw [h_split]
      exact h_number n o

/-- **Integers of 64 bits**, signed or not. -/
theorem yields_number {i : Int} (h_least : -0x8000_0000_0000_0000 ≤ i)
    (h_greatest : i ≤ 0xffff_ffff_ffff_ffff) (h_more : Ended more) :
    Yields number ⟨(toString i).toList ++ more, o, d⟩ (.int i) more := by
  cases i with
  | ofNat n =>
    have h_text : (toString (Int.ofNat n)).toList = Nat.toDigits 10 n := Nat.toList_repr
    have h_n : n < 0x1_0000_0000_0000_0000 := by
      simp only [Int.ofNat_eq_natCast] at h_greatest
      omega
    obtain ⟨x, ds, h_digits⟩ := List.exists_cons_of_ne_nil (Nat.toDigits_ne_nil (n := n) (b := 10))
    -- the reader looks for a sign first
    have h_x : x ≠ '-' := by
      rintro rfl
      have h_digit := Nat.isDigit_of_mem_toDigits (b := 10) (n := n) (by decide) (by decide)
        (h_digits ▸ List.mem_cons_self)
      exact absurd h_digit (by decide)
    have h_unsigned : Yields (unsigned false) ⟨Nat.toDigits 10 n ++ more, o, d⟩
        (wholeNumber false n) more :=
      yields_unsigned h_n h_more
    rw [h_text, number, yields_peek_bind]
    rw [h_digits] at h_unsigned ⊢
    dsimp only [List.head?_cons]
    split
    · next h_eq => exact absurd (Option.some.inj h_eq) h_x
    · exact h_unsigned
  | negSucc n =>
    have h_text : (toString (Int.negSucc n)).toList = '-' :: Nat.toDigits 10 (n + 1) := by
      show ("-" ++ Nat.repr (n + 1)).toList = _
      rw [String.toList_append, Nat.toList_repr]
      rfl
    have h_n : n + 1 ≤ 0x8000_0000_0000_0000 := by omega
    -- down to the least integer of 64 bits the number stays an integer
    have h_whole : wholeNumber true (n + 1) = .int (Int.negSucc n) := by
      rw [wholeNumber, if_pos rfl, if_neg (by omega)]
      rfl
    rw [h_text, number, yields_peek_bind]
    show Yields (eat >>= fun _ => unsigned true) _ _ _
    rw [List.cons_append, yields_eat_bind, ← h_whole]
    exact yields_unsigned (by omega) h_more

end Specimen.Scan
