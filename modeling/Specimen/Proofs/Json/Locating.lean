import Mathlib.Data.List.Basic
import Specimen.Json.Pointer
import Specimen.Proofs.Json.Yields

/-!
# Where the text of a pointer leads to

A text is read as a pointer in one way at most, and that pointer is written as the text
(`Pointer.parse_eq_some_iff`). So a step that is put into a text as it is, instead of being escaped,
leads on under its own name only if it has neither a tilde nor a slash
(`Pointer.text_eq_iff_unescaped`).

`Json.Leads j path part` says that a text leads from a document to one of its parts. A text grows
with the document: one more step leads from a part to what stands under a key of it (`Leads.entry`)
or at an index (`Leads.item`).
-/

namespace Specimen

namespace Pointer

variable {p : Pointer} {s : String}

theorem text_append (p q : Pointer) : (p ++ q).text = p.text ++ q.text := by
  rw [text, text, text, ← String.ofList_append, write, write, write, List.flatMap_append]

/-! ### Reading is undone by writing -/

theorem write_of_readStep {done cs : List Char} (h : readStep done cs = some p) :
    write p = '/' :: (done.reverse.flatMap escapeChar ++ cs) := by
  fun_induction readStep done cs generalizing p with
  | case1 done =>
    obtain rfl := Option.some.inj h
    simp [write]
  | case2 done cs ih =>
    obtain ⟨q, h_q, rfl⟩ := Option.map_eq_some_iff.1 h
    have h_write := ih h_q
    simp only [write, List.reverse_nil, List.flatMap_nil, List.nil_append] at h_write
    simp [write, h_write]
  | case3 done cs ih => simp [ih h, escapeChar]
  | case4 done cs ih => simp [ih h, escapeChar]
  | case5 => cases h
  | case6 done c cs h_slash _ _ h_tilde ih =>
    have h_c : escapeChar c = [c] := by
      rw [escapeChar, if_neg h_tilde, if_neg h_slash]
    simp [ih h, h_c]

/-- **One reading.** A text stands for a pointer exactly when the pointer is written so. -/
theorem parse_eq_some_iff : parse s = some p ↔ p.text = s := by
  constructor
  · intro h
    rw [text, ← String.toList_inj, String.toList_ofList]
    rw [parse] at h
    generalize s.toList = cs at h ⊢
    unfold read at h
    split at h
    · obtain rfl := Option.some.inj h
      rfl
    · simpa using write_of_readStep h
    · cases h
  · rintro rfl
    exact parse_text p

/-- A pointer has a step for each slash of its text. -/
theorem length_of_readStep {done cs : List Char} (h : readStep done cs = some p) :
    p.length = cs.count '/' + 1 := by
  fun_induction readStep done cs generalizing p with
  | case1 done =>
    obtain rfl := Option.some.inj h
    rfl
  | case2 done cs ih =>
    obtain ⟨q, h_q, rfl⟩ := Option.map_eq_some_iff.1 h
    simp [ih h_q]
  | case3 done cs ih => simp [ih h]
  | case4 done cs ih => simp [ih h]
  | case5 => cases h
  | case6 done c cs h_slash _ _ _ ih => rw [ih h, List.count_cons_of_ne h_slash]

/-! ### Steps that need no escape -/

/-- The characters that are written as themselves. -/
def Unescaped (step : String) : Prop := '~' ∉ step.toList ∧ '/' ∉ step.toList

instance (step : String) : Decidable (Unescaped step) := inferInstanceAs (Decidable (_ ∧ _))

theorem flatMap_escapeChar_eq_iff {cs : List Char} :
    cs.flatMap escapeChar = cs ↔ '~' ∉ cs ∧ '/' ∉ cs := by
  have h_length : ∀ cs : List Char, cs.length ≤ (cs.flatMap escapeChar).length := by
    intro cs
    induction cs with
    | nil => exact Nat.le_refl _
    | cons c cs ih =>
      have h_c : 1 ≤ (escapeChar c).length := by
        unfold escapeChar
        split
        · decide
        · split <;> simp
      rw [List.flatMap_cons, List.length_append, List.length_cons]
      omega
  induction cs with
  | nil => simp
  | cons c cs ih =>
    rw [List.flatMap_cons]
    by_cases h_c : c = '~' ∨ c = '/'
    · -- an escape is longer than what it stands for
      have h_two : (escapeChar c).length = 2 := by rcases h_c with rfl | rfl <;> rfl
      refine iff_of_false (fun h_eq => ?_) fun h => by rcases h_c with rfl | rfl <;> simp at h
      have h_sum := congrArg List.length h_eq
      have h_rest := h_length cs
      simp only [List.length_append, List.length_cons] at h_sum
      omega
    · obtain ⟨h_tilde, h_slash⟩ := not_or.1 h_c
      rw [escapeChar, if_neg h_tilde, if_neg h_slash, List.singleton_append, List.cons_inj_right]
      simp [ih, Ne.symm h_tilde, Ne.symm h_slash]

/-- **Steps as they are.** A step is written as it is exactly when it needs no escape. -/
theorem text_eq_iff_unescaped {step : String} : text [step] = "/" ++ step ↔ Unescaped step := by
  rw [← String.toList_inj, text, String.toList_ofList, String.toList_append, Unescaped,
    ← flatMap_escapeChar_eq_iff]
  simp [write]

end Pointer

namespace Json

variable {j part v : Json} {path key step : String}

/-! ### Indices -/

/-- An index is read as it is written. -/
theorem indexOfStep?_toString (n : Nat) : indexOfStep? (toString n) = some n := by
  rcases Nat.eq_zero_or_pos n with rfl | h_pos
  · rfl
  · have h_digits : (Nat.toDigits 10 n).all Char.isDigit = true :=
      List.all_eq_true.2 fun c h_c =>
        Nat.isDigit_of_mem_toDigits (b := 10) (by decide) (Nat.le_refl _) h_c
    have h_value := Nat.ofDigitChars_ten_toDigits (n := n)
    obtain ⟨c, cs, h_cons, h_c⟩ := Scan.exists_toDigits_eq_cons h_pos
    rw [indexOfStep?, Nat.toString_eq_ofList_toDigits, String.toList_ofList]
    rw [Nat.ofDigitChars_eq_foldl] at h_value
    rw [h_cons] at h_digits h_value ⊢
    -- the first digit is not a zero, so all digits are taken
    split
    · next h_eq => cases h_eq
    · next h_eq => exact absurd (List.cons.inj h_eq).1 h_c
    · next h_eq => exact absurd (List.cons.inj h_eq).1 h_c
    · rw [if_pos h_digits]
      exact congrArg some h_value

/-- An index needs no escape. -/
theorem unescaped_toString (n : Nat) : Pointer.Unescaped (toString n) := by
  have h_digit : ∀ c ∈ (toString n).toList, c.isDigit = true := by
    rw [Nat.toString_eq_ofList_toDigits, String.toList_ofList]
    exact fun c h_c => Nat.isDigit_of_mem_toDigits (by decide) (Nat.le_refl _) h_c
  exact ⟨fun h => absurd (h_digit _ h) (by decide), fun h => absurd (h_digit _ h) (by decide)⟩

/-! ### Parts of parts -/

theorem at?_append (j : Json) (p q : Pointer) : j.at? (p ++ q) = (j.at? p).bind (·.at? q) := by
  induction p generalizing j with
  | nil => rfl
  | cons step p ih =>
    cases j with
    | array items =>
      rw [List.cons_append, at?, at?, Option.bind_assoc]
      refine congrArg _ (funext fun i => ?_)
      rw [Option.bind_assoc]
      exact congrArg _ (funext fun j => ih j)
    | object entries =>
      rw [List.cons_append, at?, at?, Option.bind_assoc]
      exact congrArg _ (funext fun j => ih j)
    | _ => simp [at?]

/-- What a text leads to in a document when it is read as a pointer. -/
def find? (j : Json) (path : String) : Option Json := (Pointer.parse path).bind j.at?

/-- A text leads to a part of a document. -/
def Leads (j : Json) (path : String) (part : Json) : Prop := j.find? path = some part

theorem leads_iff : j.Leads path part ↔ ∃ p : Pointer, p.text = path ∧ j.at? p = some part := by
  rw [Leads, find?, Option.bind_eq_some_iff]
  exact exists_congr fun p => and_congr_left' Pointer.parse_eq_some_iff

theorem leads_whole (j : Json) : j.Leads "" j := leads_iff.2 ⟨[], rfl, rfl⟩

theorem Leads.onward (h : j.Leads path part) (h_v : part.at? [key] = some v)
    (h_step : Pointer.text [key] = step) : j.Leads (path ++ step) v := by
  obtain ⟨p, rfl, h_part⟩ := leads_iff.1 h
  refine leads_iff.2 ⟨p ++ [key], ?_, ?_⟩
  · rw [Pointer.text_append, h_step]
  · rw [at?_append, h_part]
    exact h_v

/-- One step further to the value of an entry. -/
theorem Leads.entry {es : List (String × Json)} (h : j.Leads path (.object es)) (key : String)
    (h_v : es.lookup key = some v) (h_step : Pointer.text [key] = step) :
    j.Leads (path ++ step) v :=
  h.onward (by rw [at?, h_v]; rfl) h_step

/-- One step further to an item. -/
theorem Leads.item {items : List Json} {n : Nat} (h : j.Leads path (.array items))
    (h_v : items[n]? = some v) : j.Leads (path ++ ("/" ++ toString n)) v :=
  h.onward (by rw [at?, indexOfStep?_toString, Option.bind_some, h_v]; rfl)
    (Pointer.text_eq_iff_unescaped.2 (unescaped_toString n))

end Json

end Specimen
