import Mathlib.Algebra.Order.Ring.Int
import Specimen.Proofs.Json.Entries
import Specimen.Proofs.Json.Record
import Specimen.Schema.Basic

/-!
# Forms of documents

What a document looks like, as far as that does not depend on what it is for: texts, numbers,
lists, and objects with something of a form under a key that has to be there (`Json.Has`) or that
may be missing (`Json.MayHave`).

`Reader.Reads` says that a reader makes something of a document. For the readers of single values
and collections, this is a form of documents; what is read under a key is a form of the object.
-/

namespace Specimen

namespace Number

/-- An integer by value that is not negative. -/
def IsNatural (n : Number) : Prop :=
  n.isIntegral = true ∧ Bound.least.admits (.float .zero) n = true

theorem isNatural_int_iff {i : Int} : (int i).IsNatural ↔ 0 ≤ i := by
  have h_zero : (float .zero).ratio.1 = 0 := rfl
  have h_unit : (float .zero).ratio.2 = 1 <<< (-Binary64.zero.exponent).toNat := rfl
  have h_pos : (0 : Int) < ((float .zero).ratio.2 : Int) := by
    rw [h_unit, Nat.one_shiftLeft]
    exact_mod_cast Nat.two_pow_pos _
  have h_bound : Bound.least.admits (.float .zero) (int i) =
      (compare (i * ((float .zero).ratio.2 : Int)) ((float .zero).ratio.1 * 1)).isGE := rfl
  rw [IsNatural, h_bound, h_zero, zero_mul, Ordering.isGE_iff_ne_lt, compare_lt_iff_lt, not_lt,
    mul_nonneg_iff_of_pos_right h_pos]
  exact and_iff_right rfl

end Number

namespace Json

variable {es : List (String × Json)} {key : String} {P Q : Json → Prop} {j : Json}

/-- Something of a form stands under a key. -/
def Has (es : List (String × Json)) (key : String) (P : Json → Prop) : Prop :=
  ∃ v, es.lookup key = some v ∧ P v

/-- Nothing stands under a key, or something of a form. -/
def MayHave (es : List (String × Json)) (key : String) (P : Json → Prop) : Prop :=
  ∀ v, es.lookup key = some v → P v

/-- A text. -/
def IsText (j : Json) : Prop := ∃ s, j = .string s

/-- A number of which something is asked. -/
def IsNumber (A : Number → Prop) (j : Json) : Prop := ∃ n, j = .number n ∧ A n

/-- Null, or something of a form. -/
def OrNull (P : Json → Prop) (j : Json) : Prop := j = .null ∨ P j

/-- A list of items of a form. -/
def IsListOf (P : Json → Prop) (j : Json) : Prop := ∃ items, j = .array items ∧ ∀ x ∈ items, P x

/-- An object whose values are of a form. -/
def IsMapOf (P : Json → Prop) (j : Json) : Prop := ∃ es, j = .object es ∧ ∀ e ∈ es, P e.2

theorem has_iff : Has es key P ↔ (es.lookup key).isSome = true ∧ MayHave es key P := by
  constructor
  · rintro ⟨v, h_v, h⟩
    exact ⟨Option.isSome_of_eq_some h_v, fun w h_w => Option.some.inj (h_v.symm.trans h_w) ▸ h⟩
  · rintro ⟨h_some, h⟩
    obtain ⟨v, h_v⟩ := Option.isSome_iff_exists.1 h_some
    exact ⟨v, h_v, h v h_v⟩

theorem has_eq_iff {j : Json} : Has es key (· = j) ↔ es.lookup key = some j := by
  simp [Has]

theorem has_congr (h : ∀ v, es.lookup key = some v → (P v ↔ Q v)) :
    Has es key P ↔ Has es key Q :=
  exists_congr fun v => and_congr_right (h v)

theorem Has.imp (h : Has es key P) (h_imp : ∀ v, P v → Q v) : Has es key Q :=
  Exists.imp (fun _ h_v => ⟨h_v.1, h_imp _ h_v.2⟩) h

theorem Has.and (h : Has es key P) (h' : Has es key Q) : Has es key fun v => P v ∧ Q v := by
  obtain ⟨v, h_v, h_P⟩ := h
  exact ⟨v, h_v, h_P, (has_iff.1 h').2 v h_v⟩

theorem MayHave.imp (h : MayHave es key P) (h_imp : ∀ v, P v → Q v) : MayHave es key Q :=
  fun v h_v => h_imp v (h v h_v)

theorem IsNumber.imp {A B : Number → Prop} (h : IsNumber A j) (h_imp : ∀ n, A n → B n) :
    IsNumber B j :=
  Exists.imp (fun _ h => ⟨h.1, h_imp _ h.2⟩) h

theorem OrNull.imp (h : OrNull P j) (h_imp : P j → Q j) : OrNull Q j :=
  Or.imp id h_imp h

theorem IsListOf.and (h : IsListOf P j) (h' : IsListOf Q j) : IsListOf (fun x => P x ∧ Q x) j := by
  obtain ⟨items, rfl, h_P⟩ := h
  obtain ⟨items', h_same, h_Q⟩ := h'
  cases h_same
  exact ⟨items, rfl, fun x h_x => ⟨h_P x h_x, h_Q x h_x⟩⟩

theorem IsListOf.imp (h : IsListOf P j) (h_imp : ∀ x, P x → Q x) : IsListOf Q j :=
  Exists.imp (fun _ h => ⟨h.1, fun x h_x => h_imp x (h.2 x h_x)⟩) h

end Json

/-! ### What readers can read -/

namespace Reader

open Json

variable {α β : Type} {r : Reader α} {origin : Origin} {j : Json} {es : List (String × Json)}
  {key : String}

/-- A reader can read a document. -/
def Reads (r : Reader α) (origin : Origin) (j : Json) : Prop := (r.read? origin j).isSome = true

theorem reads_iff : r.Reads origin j ↔ ∃ a, r.ofJson origin j = .ok a := by
  simp only [Reads, Option.isSome_iff_exists, read?, toOption_eq_some_iff]

theorem isSome_required_iff :
    (r.required origin es key).isSome = true ↔ Has es key (r.Reads origin) := by
  rw [required, Has]
  cases es.lookup key with
  | none => simp
  | some v => simp [Reads]

theorem isSome_optional_iff :
    (r.optional origin es key).isSome = true ↔ MayHave es key (r.Reads origin) := by
  rw [optional, MayHave]
  cases es.lookup key with
  | none => simp
  | some v => simp [Reads]

/-! ### Values -/

theorem reads_text {expected : String} : (text expected).Reads origin = IsText := by
  funext j
  refine propext (reads_iff.trans ?_)
  cases j <;> simp [text, IsText]

theorem reads_string : string.Reads origin = IsText := reads_text

theorem reads_map {f : α → β} : (r.map f).Reads origin = r.Reads origin := by
  funext j
  rw [Reads, Reads, read?, map, toOption_map, Option.isSome_map, read?]

theorem reads_integer {expected : String} {low high : Int} :
    (integer expected low high).Reads origin =
      IsNumber (fun n => ∃ i, n = .int i ∧ low ≤ i ∧ i ≤ high) := by
  funext j
  refine propext (reads_iff.trans ⟨?_, ?_⟩)
  · rintro ⟨i, h⟩
    cases j with
    | number n =>
      cases n with
      | int i' =>
        by_cases h_range : low ≤ i' ∧ i' ≤ high
        · exact ⟨_, rfl, i', rfl, h_range⟩
        · simp [integer, integer.check, h_range] at h
      | float x => cases h
    | _ => cases h
  · rintro ⟨_, rfl, i, rfl, h_range⟩
    exact ⟨i, by simp [integer, integer.check, h_range]⟩

theorem reads_option : (option r).Reads origin = OrNull (r.Reads origin) := by
  funext j
  rw [OrNull]
  cases j with
  | null => simp [Reads, read?, option]
  | _ => simp only [Reads, read?, option, toOption_map, Option.isSome_map, reduceCtorEq, false_or]

/-! ### Collections -/

theorem isSome_mapM_iff {f : α → Option β} {xs : List α} :
    (xs.mapM f).isSome = true ↔ ∀ x ∈ xs, (f x).isSome = true := by
  induction xs with
  | nil => simp
  | cons x xs ih =>
    rw [List.mapM_cons, List.forall_mem_cons, ← ih]
    cases f x with
    | none => simp
    | some y => cases xs.mapM f <;> simp

theorem reads_list : (list r).Reads origin = IsListOf (r.Reads origin) := by
  funext j
  cases j with
  | array items =>
    rw [Reads, read?, list, toOption_mapM, isSome_mapM_iff]
    simp [IsListOf, Reads, read?]
  | _ => simp [Reads, read?, list, IsListOf]

theorem reads_dict : (dict r).Reads origin = IsMapOf (r.Reads origin) := by
  funext j
  cases j with
  | object es =>
    rw [Reads, read?, dict, toOption_map, Option.isSome_map, toOption_mapM, isSome_mapM_iff]
    simp [IsMapOf, Reads, read?, toOption_map]
  | _ => simp [Reads, read?, dict, IsMapOf]

end Reader

end Specimen
