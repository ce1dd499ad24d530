import Mathlib.Data.Finset.Dedup
import Specimen.Proofs.Config.WellFormed
import Specimen.Proofs.Dict
import Specimen.Settings

/-!
# Lists of ids

Ids are listed in a text, one on a line. `Lists` says what such a text looks like: a line shows an
id or nothing (`Shows`), with white space around it and perhaps a comment behind it, and a line feed
ends it, alone or behind a carriage return. The last line need not be ended.

What is read from such a text are just the ids that its lines show (`indexedIds_exact`).

* `idOfLine?_of_shows`: a line is read as what it shows, so neither white space nor a comment costs
  an id, not even a comment right behind it.
* `listed_append`: in any text, the end of a line separates what stands before it from what stands
  after it. A carriage return goes to the line before it, where it is white space or part of a
  comment (`listed_return`).
-/

namespace Specimen.Settings

/-! ### What a list looks like -/

/-- White space within a line. -/
def IsGap (cs : List Char) : Prop := ∀ c ∈ cs, Text.isWhite c = true ∧ c ≠ '\n'

/-- Nothing, or a comment up to the end of the line. -/
def IsRemark : List Char → Prop
  | [] => True
  | c :: cs => c = '#' ∧ '\n' ∉ cs

instance (cs : List Char) : Decidable (IsGap cs) :=
  List.decidableBAll (fun c => Text.isWhite c = true ∧ c ≠ '\n') cs

instance : ∀ cs, Decidable (IsRemark cs)
  | [] => isTrue trivial
  | c :: cs => inferInstanceAs (Decidable (c = '#' ∧ '\n' ∉ cs))

/-- A line shows an id or nothing. -/
inductive Shows : List Char → Option String → Prop where
  | nothing {gap remark : List Char} (h_gap : IsGap gap) (h_remark : IsRemark remark) :
    Shows (gap ++ remark) none
  | id {before after remark : List Char} {id : String} (h_before : IsGap before)
    (h_id : Config.IsIdText id) (h_after : IsGap after) (h_remark : IsRemark remark) :
    Shows (before ++ id.toList ++ after ++ remark) (some id)

/-- The ways to end a line. -/
def lineEnds : List (List Char) := [['\n'], ['\r', '\n']]

/-- A text lists ids: its lines show them in this order. -/
inductive Lists : List Char → List String → Prop where
  /-- The last line has no end. If the text ends with that of a line, nothing stands on it. -/
  | last {line : List Char} {shown : Option String} (h : Shows line shown) :
    Lists line shown.toList
  | line {line ending rest : List Char} {shown : Option String} {ids : List String}
    (h : Shows line shown) (h_ending : ending ∈ lineEnds) (h_rest : Lists rest ids) :
    Lists (line ++ ending ++ rest) (shown.toList ++ ids)

/-! ### Characters -/

/-- The characters of ids are no white space, and none begins a comment. -/
theorem apart_of_isIdRest {c : Char} (h : Config.IsIdRest c) :
    Text.isWhite c = false ∧ c ≠ '#' := by
  have h_le : ∀ {d e : Char}, d ≤ e ↔ d.toNat ≤ e.toNat := Iff.rfl
  -- hyphens come first among them, and small letters last
  have h_range : 45 ≤ c.toNat ∧ c.toNat ≤ 122 := by
    rw [Config.IsIdRest, Config.IsIdStart, h_le, h_le, h_le, h_le, h_le, h_le] at h
    rcases h with (h | h | h | rfl) | rfl | rfl
    · exact ⟨Nat.le_trans (by decide) h.1, Nat.le_trans h.2 (by decide)⟩
    · exact ⟨Nat.le_trans (by decide) h.1, h.2⟩
    · exact ⟨Nat.le_trans (by decide) h.1, Nat.le_trans h.2 (by decide)⟩
    all_goals decide
  constructor
  · simp only [Text.isWhite, Bool.or_eq_false_iff, Bool.and_eq_false_iff, decide_eq_false_iff_not,
      beq_eq_false_iff_ne]
    omega
  · rintro rfl
    exact absurd h_range (by decide)

theorem isIdRest_of_mem {id : String} (h : Config.IsIdText id) {c : Char} (h_c : c ∈ id.toList) :
    Config.IsIdRest c := by
  obtain ⟨a, rest, h_eq, h_start, h_rest⟩ := h
  rw [h_eq] at h_c
  rcases List.mem_cons.1 h_c with rfl | h_c
  · exact .inl h_start
  · exact h_rest c h_c

theorem not_mem_of_white {cs : List Char} (h : ∀ c ∈ cs, Text.isWhite c = true) : '#' ∉ cs :=
  fun h_mem => absurd (h _ h_mem) (by decide)

/-! ### Single lines -/

/-- White space at the front is dropped. -/
theorem trimStart_append {gap cs : List Char} (h : ∀ c ∈ gap, Text.isWhite c = true) :
    Text.trimStart (gap ++ cs) = Text.trimStart cs :=
  List.dropWhile_append_of_pos h

/-- White space at the end is dropped. -/
theorem trimEnd_append {cs gap : List Char} (h : ∀ c ∈ gap, Text.isWhite c = true) :
    Text.trimEnd (cs ++ gap) = Text.trimEnd cs := by
  rw [Text.trimEnd, List.reverse_append,
    List.dropWhile_append_of_pos fun c h_c => h c (List.mem_reverse.1 h_c), Text.trimEnd]

/-- What begins with something else than white space keeps its front. -/
theorem trimStart_cons {c : Char} {cs : List Char} (h : Text.isWhite c = false) :
    Text.trimStart (c :: cs) = c :: cs :=
  List.dropWhile_cons_of_neg (by rw [h]; exact Bool.false_ne_true)

/-- What has no white space keeps its end. -/
theorem trimEnd_of_dense {cs : List Char} (h : ∀ c ∈ cs, Text.isWhite c = false) :
    Text.trimEnd cs = cs := by
  rw [Text.trimEnd]
  cases h_rev : cs.reverse with
  | nil => rw [← cs.reverse_reverse, h_rev]; rfl
  | cons c ds =>
    have h_c : c ∈ cs := List.mem_reverse.1 (h_rev ▸ List.mem_cons_self)
    rw [List.dropWhile_cons_of_neg (by rw [h c h_c]; exact Bool.false_ne_true), ← h_rev,
      List.reverse_reverse]

/-- A line is read up to its comment. -/
theorem takeWhile_remark {cs remark : List Char} (h_cs : '#' ∉ cs) (h : IsRemark remark) :
    (cs ++ remark).takeWhile (· != '#') = cs := by
  have h_own : ∀ c ∈ cs, (c != '#') = true := fun c h_c => by
    rw [bne_iff_ne]
    exact fun h_eq => h_cs (h_eq ▸ h_c)
  rw [List.takeWhile_append_of_pos h_own]
  match remark, h with
  | [], _ => rw [List.takeWhile_nil, List.append_nil]
  | _ :: text, ⟨rfl, _⟩ => rw [List.takeWhile_cons_of_neg (by decide), List.append_nil]

/-- **A line is read as what it shows.** -/
theorem idOfLine?_of_shows {line : List Char} {shown : Option String} (h : Shows line shown) :
    idOfLine? line = shown := by
  cases h with
  | @nothing gap remark h_gap h_remark =>
    have h_white : ∀ c ∈ gap, Text.isWhite c = true := fun c h_c => (h_gap c h_c).1
    have h_trim : Text.trimEnd (Text.trimStart gap) = [] := by
      rw [← gap.append_nil, trimStart_append h_white]
      rfl
    rw [idOfLine?, takeWhile_remark (not_mem_of_white h_white) h_remark, Text.trim,
      String.toList_ofList, h_trim]
    rfl
  | @id before after remark id h_before h_id h_after h_remark =>
    -- An identifier holds neither white space nor `#`, so neither trimming nor the remark cuts it.
    have h_apart : ∀ c ∈ id.toList, Text.isWhite c = false ∧ c ≠ '#' := fun c h_c =>
      apart_of_isIdRest (isIdRest_of_mem h_id h_c)
    have h_white : ∀ c ∈ before, Text.isWhite c = true := fun c h_c => (h_before c h_c).1
    have h_white' : ∀ c ∈ after, Text.isWhite c = true := fun c h_c => (h_after c h_c).1
    have h_line : '#' ∉ before ++ id.toList ++ after := by
      simp only [List.mem_append, not_or]
      exact ⟨⟨not_mem_of_white h_white, fun h_mem => (h_apart _ h_mem).2 rfl⟩,
        not_mem_of_white h_white'⟩
    obtain ⟨a, rest, h_eq, -⟩ := h_id
    have h_a : Text.isWhite a = false := (h_apart a (h_eq ▸ List.mem_cons_self)).1
    have h_trim : Text.trimEnd (Text.trimStart (before ++ id.toList ++ after)) = id.toList := by
      rw [List.append_assoc, trimStart_append h_white, h_eq, List.cons_append, trimStart_cons h_a,
        ← List.cons_append, trimEnd_append h_white', ← h_eq,
        trimEnd_of_dense fun c h_c => (h_apart c h_c).1]
    have h_some : id.isEmpty = false := by
      rw [Bool.eq_false_iff, ne_eq, String.isEmpty_iff]
      rintro rfl
      cases h_eq
    rw [idOfLine?, takeWhile_remark h_line h_remark, Text.trim, String.toList_ofList, h_trim,
      String.ofList_toList, h_some]
    rfl

/-- A line that shows something is a single line. -/
theorem Shows.not_mem {line : List Char} {shown : Option String} (h : Shows line shown) :
    '\n' ∉ line := by
  have h_gap : ∀ {gap}, IsGap gap → '\n' ∉ gap := fun h_gap h_mem => (h_gap _ h_mem).2 rfl
  have h_remark : ∀ {remark}, IsRemark remark → '\n' ∉ remark := by
    rintro (_ | ⟨c, text⟩) h_remark h_mem
    · exact List.not_mem_nil h_mem
    · obtain ⟨rfl, h_text⟩ := h_remark
      exact h_text ((List.mem_cons.1 h_mem).resolve_left (by decide))
  cases h with
  | nothing h_before h_after =>
    rw [List.mem_append, not_or]
    exact ⟨h_gap h_before, h_remark h_after⟩
  | id h_before h_id h_after h_behind =>
    simp only [List.mem_append, not_or]
    refine ⟨⟨⟨h_gap h_before, fun h_mem => ?_⟩, h_gap h_after⟩, h_remark h_behind⟩
    exact absurd (apart_of_isIdRest (isIdRest_of_mem h_id h_mem)).1 (by decide)

/-- A carriage return at the end of a line counts for nothing, whatever the line is. -/
theorem idOfLine?_return (line : List Char) : idOfLine? (line ++ ['\r']) = idOfLine? line := by
  have h_white : ∀ c ∈ ['\r'], Text.isWhite c = true := List.forall_mem_singleton.2 rfl
  have h_trim (cs : List Char) :
      Text.trim (String.ofList (cs ++ ['\r'])) = Text.trim (String.ofList cs) := by
    rw [Text.trim, Text.trim, String.toList_ofList, String.toList_ofList, Text.trimStart,
      Text.trimStart, List.dropWhile_append]
    split
    · next h_none =>
      rw [List.isEmpty_iff.1 h_none]
      rfl
    · rw [trimEnd_append h_white]
  rw [idOfLine?, idOfLine?, List.takeWhile_append]
  split
  · next h_whole =>
    -- without a comment the carriage return is white space at the end
    have h_own : line.takeWhile (· != '#') = line :=
      (List.takeWhile_prefix _).eq_of_length h_whole
    rw [h_own]
    exact congrArg (fun id : String => if id.isEmpty then none else some id) (h_trim line)
  · rfl

/-! ### Lines of a text -/

/-- The ids on the lines of a text. -/
abbrev listed (text : List Char) : List String := (text.splitOn '\n').filterMap idOfLine?

theorem listed_lineFeed (a b : List Char) : listed (a ++ '\n' :: b) = listed a ++ listed b := by
  rw [listed, List.splitOn_eq_splitOnP, List.splitOnP_append_cons a b (by rfl),
    List.filterMap_append]
  rfl

theorem listed_of_line {line : List Char} (h : '\n' ∉ line) :
    listed line = (idOfLine? line).toList := by
  have h_single : line.splitOn '\n' = [line] :=
    List.splitOnP_eq_singleton fun c h_c => beq_false_of_ne fun h_eq => h (h_eq ▸ h_c)
  rw [listed, h_single, List.filterMap_cons]
  cases idOfLine? line <;> rfl

theorem listed_return (a : List Char) : listed (a ++ ['\r']) = listed a := by
  induction h_length : a.length using Nat.strongRecOn generalizing a with
  | ind k ih =>
    by_cases h : '\n' ∈ a
    · -- the carriage return is on the last of several lines
      obtain ⟨s, t, rfl⟩ := List.append_of_mem h
      have h_rest : t.length < k := by
        rw [← h_length, List.length_append, List.length_cons]
        omega
      rw [List.append_assoc, List.cons_append, listed_lineFeed, listed_lineFeed,
        ih t.length h_rest t rfl]
    · have h_return : '\n' ∉ a ++ ['\r'] := by simp [h]
      rw [listed_of_line h, listed_of_line h_return, idOfLine?_return]

/-- **The end of a line** separates what stands before it from what stands after it. -/
theorem listed_append (a b : List Char) {ending : List Char} (h : ending ∈ lineEnds) :
    listed (a ++ ending ++ b) = listed a ++ listed b := by
  rcases List.mem_pair.1 h with rfl | rfl
  · rw [List.append_assoc, List.singleton_append, listed_lineFeed]
  · have h_split : a ++ ['\r', '\n'] ++ b = (a ++ ['\r']) ++ '\n' :: b := by simp
    rw [h_split, listed_lineFeed, listed_return]

/-- What a text lists is read, line by line. -/
theorem Lists.listed_eq {text : List Char} {ids : List String} (h : Lists text ids) :
    listed text = ids := by
  induction h with
  | last h => rw [listed_of_line h.not_mem, idOfLine?_of_shows h]
  | line h h_ending _ ih =>
    rw [listed_append _ _ h_ending, listed_of_line h.not_mem, idOfLine?_of_shows h, ih]

theorem contains_indexedIds {text id : String} :
    (indexedIds text).contains id = true ↔ id ∈ listed text.toList := by
  rw [← Dict.mem_keys_iff, indexedIds, NameSet.mem_ofNames]
  exact Iff.rfl

/-- **No id is lost.** A text that lists the ids of a finite set, in any order and as often as it
likes, is read as just this set. And whatever two texts are made of, with the end of a line between
them they are read as the union of what each of them is read as. -/
theorem indexedIds_exact :
    (∀ (S : Finset String) (text : String) (ids : List String), Lists text.toList ids →
      ids.toFinset = S → ∀ id, (indexedIds text).contains id = true ↔ id ∈ S) ∧
    ∀ a b ending : String, ending.toList ∈ lineEnds → ∀ id,
      (indexedIds (a ++ ending ++ b)).contains id = true ↔
        (indexedIds a).contains id = true ∨ (indexedIds b).contains id = true := by
  refine ⟨fun S text ids h_lists h_S id => ?_, fun a b ending h_ending id => ?_⟩
  · rw [contains_indexedIds, h_lists.listed_eq, ← h_S, List.mem_toFinset]
  · simp only [contains_indexedIds, String.toList_append]
    rw [listed_append _ _ h_ending, List.mem_append]

/-- Two ids, one of which is listed twice, with both ends of lines, white space of several kinds and
a comment right behind an id. -/
def remarkedIds : String :=
  "# ids\r\nlogin.user#first\n\t\n order.id\u00a0# second\r\n\u2003login.user\r"

theorem lists_remarkedIds :
    Lists remarkedIds.toList ["login.user", "order.id", "login.user"] := by
  have h_user : Config.IsIdText "login.user" := Config.isValidId_iff.1 (by decide)
  have h_order : Config.IsIdText "order.id" := Config.isValidId_iff.1 (by decide)
  have h_first : Shows "# ids".toList none :=
    @Shows.nothing [] "# ids".toList (by decide) (by decide)
  have h_second : Shows "login.user#first".toList (some "login.user") :=
    @Shows.id [] [] "#first".toList "login.user" (by decide) h_user (by decide) (by decide)
  have h_third : Shows "\t".toList none :=
    @Shows.nothing ['\t'] [] (by decide) (by decide)
  have h_fourth : Shows " order.id\u00a0# second".toList (some "order.id") :=
    @Shows.id [' '] ['\u00a0'] "# second".toList "order.id" (by decide) h_order (by decide)
      (by decide)
  have h_last : Shows "\u2003login.user\r".toList (some "login.user") :=
    @Shows.id ['\u2003'] ['\r'] [] "login.user" (by decide) h_user (by decide) (by decide)
  have h_text : remarkedIds.toList = "# ids".toList ++ ['\r', '\n'] ++ ("login.user#first".toList ++
      ['\n'] ++ ("\t".toList ++ ['\n'] ++ (" order.id\u00a0# second".toList ++ ['\r', '\n'] ++
        "\u2003login.user\r".toList))) := by
    decide
  rw [h_text]
  exact .line h_first (by decide) (.line h_second (by decide) (.line h_third (by decide)
    (.line h_fourth (by decide) (.last h_last))))

/-- The two ids are read and no other, and a further id may come behind the end of a line. -/
theorem indexedIds_exact_remarkedIds :
    (∀ id, (indexedIds remarkedIds).contains id = true ↔
      id ∈ ({"login.user", "order.id"} : Finset String)) ∧
    (indexedIds (remarkedIds ++ "\r\n" ++ "other")).contains "other" = true := by
  refine ⟨indexedIds_exact.1 _ _ _ lists_remarkedIds (by decide), ?_⟩
  refine (indexedIds_exact.2 remarkedIds "other" "\r\n" (by decide) "other").2 (.inr ?_)
  exact contains_indexedIds.2 (by decide)

end Specimen.Settings
