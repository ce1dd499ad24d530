import Specimen.Proofs.Dict
import Specimen.Storage

/-!
# Trees of files

What a change of one file does to the rest of a tree. A place whose entry is no folder is on no way
to any other place, so that a text put there leaves all ways as they were (`walk_withText`), and the
texts at other places too (`text?_withText_of_ne`).

For the files of one folder (`Siblings`) this says what writing one of them does: it is there
(`text?_update`), the others are as they were (`Siblings.text?_update_of_ne`), and all of them can
be written again if they could be before (`Admits.exists_update`).
-/

namespace Specimen.Files

variable {f : Files} {place place' : List String} {key contents : String}

/-! ### Entries -/

/-- The tree with a text at the place with a name. -/
def withText (f : Files) (key contents : String) : Files :=
  { f with texts := f.texts.insert key contents }

/-- The text of an entry. -/
def Entry.text? : Entry → Option String
  | .text contents => some contents
  | _ => none

theorem entry_congr (h : name place = name place') : f.entry place = f.entry place' := by
  rw [entry, entry, h]

theorem entry_eq_text_iff : f.entry place = .text contents ↔
    f.texts.get? (name place) = some contents := by
  rw [entry]
  cases f.texts.get? (name place) with
  | some contents' => simp
  | none =>
    dsimp only
    split <;> simp

theorem text?_entry : (f.entry place).text? = f.texts.get? (name place) := by
  cases h : f.texts.get? (name place) with
  | some contents => rw [entry_eq_text_iff.2 h, Entry.text?]
  | none =>
    cases h_entry : f.entry place with
    | text contents =>
      rw [entry_eq_text_iff.1 h_entry] at h
      cases h
    | folder => rfl
    | nothing => rfl

theorem get?_of_folder (h : f.entry place = .folder) : f.texts.get? (name place) = none := by
  rw [← text?_entry, h]
  rfl

theorem entry_withText_self : (f.withText (name place) contents).entry place = .text contents :=
  entry_eq_text_iff.2 (Dict.get?_insert_self ..)

theorem text?_withText_of_ne (h : name place ≠ key) :
    ((f.withText key contents).entry place).text? = (f.entry place).text? := by
  rw [text?_entry, text?_entry, withText, Dict.get?_insert, if_neg h]

/-- Folders stay folders. -/
theorem entry_withText_of_folder (h : name place ≠ key) (h_folder : f.entry place = .folder) :
    (f.withText key contents).entry place = .folder := by
  have h_keys : ∀ k ∈ f.texts.keys, k ∈ (f.withText key contents).texts.keys := by
    intro k h_k
    rw [Dict.mem_keys_iff, Dict.contains_iff] at h_k ⊢
    obtain ⟨old, h_old⟩ := h_k
    rw [withText, Dict.get?_insert]
    split
    · exact ⟨_, rfl⟩
    · exact ⟨old, h_old⟩
  have h_get : (f.withText key contents).texts.get? (name place) = none := by
    rw [withText, Dict.get?_insert, if_neg h, get?_of_folder h_folder]
  rw [entry, get?_of_folder h_folder] at h_folder
  rw [entry, h_get]
  simp only [Bool.or_eq_true, List.any_eq_true] at h_folder ⊢
  split at h_folder
  · next h_below =>
    exact if_pos (h_below.imp_left (.imp_right
      fun ⟨k, h_k, h_start⟩ => ⟨k, h_keys k h_k, h_start⟩))
  · cases h_folder

/-! ### Ways -/

theorem walk_append (f : Files) (steps steps' : List String) : ∀ place,
    f.walk place (steps ++ steps') =
      (f.walk place steps).bind fun place => f.walk place steps' := by
  induction steps with
  | nil => exact fun place => rfl
  | cons step steps ih =>
    intro place
    rw [List.cons_append, walk, walk]
    cases f.entry place with
    | text contents => rfl
    | nothing => rfl
    | folder =>
      dsimp only
      repeat' split
      all_goals first | exact ih _ | rfl

/-- **Ways stay open** when a text is put where no folder is. -/
theorem walk_withText (h : f.entry place ≠ .folder) {steps : List String} :
    ∀ {start last : List String}, f.walk start steps = .ok last →
      (f.withText (name place) contents).walk start steps = .ok last := by
  induction steps with
  | nil => exact fun h_walk => h_walk
  | cons step steps ih =>
    intro start last h_walk
    rw [walk] at h_walk ⊢
    cases h_entry : f.entry start with
    | text old => rw [h_entry] at h_walk; cases h_walk
    | nothing => rw [h_entry] at h_walk; cases h_walk
    | folder =>
      -- The place written to is no folder, so a folder on the way is another place.
      have h_name : name start ≠ name place := fun h_name =>
        h (entry_congr h_name ▸ h_entry)
      rw [h_entry] at h_walk
      rw [entry_withText_of_folder h_name h_entry]
      dsimp only at h_walk ⊢
      split
      · next h_idle => exact ih (by rwa [if_pos h_idle] at h_walk)
      · next h_idle =>
        rw [if_neg h_idle] at h_walk
        split
        · next h_up =>
          rw [if_pos h_up] at h_walk
          split
          · next h_root => rw [if_pos h_root] at h_walk; cases h_walk
          · next h_root => exact ih (by rwa [if_neg h_root] at h_walk)
        · next h_up => exact ih (by rwa [if_neg h_up] at h_walk)

/-! ### Names -/

/-- The names of the places of one folder begin in the same way. -/
theorem exists_name_concat (place : List String) :
    ∃ front, ∀ last, name (place ++ [last]) = front ++ last := by
  induction place with
  | nil => exact ⟨"", fun last => by simp [name]⟩
  | cons step place ih =>
    obtain ⟨front, h_front⟩ := ih
    refine ⟨step ++ "/" ++ front, fun last => ?_⟩
    -- what follows the first step has a step in it, so that a slash stands between
    have h_name : name (step :: place ++ [last]) = step ++ "/" ++ name (place ++ [last]) := by
      cases place <;> exact String.intercalate_cons_cons
    simp only [h_name, h_front, String.append_assoc]

theorem name_concat_inj {last last' : String} :
    name (place ++ [last]) = name (place ++ [last']) ↔ last = last' := by
  obtain ⟨front, h_front⟩ := exists_name_concat place
  rw [h_front, h_front, String.append_right_inj]

/-- No place of a folder is below another one. -/
theorem not_startsWith_concat {last last' : String} (h : '/' ∉ last.toList) :
    (name (place ++ [last])).startsWith (name (place ++ [last']) ++ "/") = false := by
  obtain ⟨front, h_front⟩ := exists_name_concat place
  rw [Bool.eq_false_iff, Ne, String.startsWith_string_iff, h_front, h_front, String.append_assoc]
  simp only [String.toList_append, List.prefix_append_right_inj]
  exact fun h_below => h (h_below.subset (by simp))

/-- A place does not become a folder by a text that is not below it. -/
theorem entry_withText_ne_folder (h_entry : f.entry place ≠ .folder)
    (h_key : key.startsWith (name place ++ "/") = false) :
    (f.withText key contents).entry place ≠ .folder := by
  intro h_folder
  have h_get := get?_of_folder h_folder
  have h_ne : name place ≠ key := by
    rintro rfl
    rw [withText, Dict.get?_insert_self] at h_get
    cases h_get
  have h_get' : f.texts.get? (name place) = none := by
    rwa [withText, Dict.get?_insert, if_neg h_ne] at h_get
  rw [entry, h_get] at h_folder
  rw [entry, h_get'] at h_entry
  refine h_entry (if_pos ?_)
  dsimp only at h_folder
  split at h_folder
  · next h_below =>
    -- whatever is below it has been there before
    have h_old : ∀ k, k ∈ (f.withText key contents).texts.keys →
        k.startsWith (name place ++ "/") = true → k ∈ f.texts.keys := by
      intro k h_k h_start
      rw [Dict.mem_keys_iff, Dict.contains_iff, withText, Dict.get?_insert] at h_k
      split at h_k
      · next h_eq =>
        rw [h_eq, h_key] at h_start
        cases h_start
      · exact Dict.mem_keys_iff.2 (Dict.contains_iff.2 h_k)
    simp only [Bool.or_eq_true, List.any_eq_true] at h_below ⊢
    exact h_below.imp_left (.imp_right fun ⟨k, h_k, h_start⟩ => ⟨k, h_old k h_k h_start, h_start⟩)
  · cases h_folder

/-! ### Files of one folder -/

/-- Paths to files of one folder: they have their own last step, which is a name. -/
structure Siblings (names : List String) (path : String → String) : Prop where
  steps : ∃ ss, ∀ a ∈ names, FilePath.steps (path a) = ss ++ [a]
  relative : ∀ a ∈ names, ((path a).isEmpty || FilePath.isAbsolute (path a)) = false
  name : ∀ a ∈ names, FilePath.isIdle a = false ∧ a ≠ ".." ∧ '/' ∉ a.toList

section Siblings

variable {names : List String} {path : String → String} {a b : String}

theorem locate_withText (h : f.entry place ≠ .folder) {p : String} {last : List String}
    (h_locate : f.locate p = .ok last) :
    (f.withText (name place) contents).locate p = .ok last := by
  rw [locate] at h_locate ⊢
  split at h_locate
  · cases h_locate
  · next h_relative => rw [if_neg h_relative, walk_withText h h_locate]

/-- A step to a name in a folder. -/
theorem walk_name {step : String} (h : FilePath.isIdle step = false ∧ step ≠ "..")
    (h_folder : f.entry place = .folder) : f.walk place [step] = .ok (place ++ [step]) := by
  rw [walk, h_folder]
  dsimp only
  rw [h.1, if_neg Bool.false_ne_true, if_neg h.2, walk]

/-- Steps lead on from folders only. -/
theorem folder_of_walk {step : String} {steps last : List String}
    (h : f.walk place (step :: steps) = .ok last) : f.entry place = .folder := by
  rw [walk] at h
  cases h_entry : f.entry place with
  | folder => rfl
  | text old | nothing => rw [h_entry] at h; cases h

/-- If one of the paths leads somewhere, then each leads to a place of the same folder. -/
theorem Siblings.exists_locate (h : Siblings names path) (h_a : a ∈ names)
    (h_locate : f.locate (path a) = .ok place) :
    ∃ folder, place = folder ++ [a] ∧ ∀ b ∈ names, f.locate (path b) = .ok (folder ++ [b]) := by
  obtain ⟨ss, h_ss⟩ := h.steps
  have h_walk (b : String) (h_b : b ∈ names) :
      f.locate (path b) = (f.walk [] ss).bind fun folder => f.walk folder [b] := by
    rw [locate, h.relative b h_b, h_ss b h_b, walk_append]
    rfl
  rw [h_walk a h_a] at h_locate
  cases h_folder : f.walk [] ss with
  | error fault => rw [h_folder] at h_locate; cases h_locate
  | ok folder =>
    rw [h_folder] at h_locate
    have h_entry := folder_of_walk h_locate
    have h_last (b : String) (h_b : b ∈ names) : f.walk folder [b] = .ok (folder ++ [b]) :=
      walk_name ⟨(h.name b h_b).1, (h.name b h_b).2.1⟩ h_entry
    refine ⟨folder, Except.ok.inj (h_locate.symm.trans (h_last a h_a)), fun b h_b => ?_⟩
    rw [h_walk b h_b, h_folder]
    exact h_last b h_b

/-- The text of a file, if there is one. -/
def text? (f : Files) (p : String) : Option String := (f.read p).toOption

theorem text?_of_locate {p : String} (h : f.locate p = .ok place) :
    f.text? p = (f.entry place).text? := by
  rw [text?, read, h]
  cases h_entry : f.entry place <;> simp [bind, Except.bind, h_entry] <;> rfl

/-- A change that succeeds puts a text where no folder is. -/
theorem exists_of_update {p : String} {f' : Files} (h : f.update p (fun _ => contents) = .ok f') :
    ∃ place, f.locate p = .ok place ∧ f.entry place ≠ .folder ∧
      f' = f.withText (name place) contents := by
  rw [update] at h
  cases h_locate : f.locate p with
  | error fault => rw [h_locate] at h; cases h
  | ok place =>
    rw [h_locate] at h
    refine ⟨place, rfl, ?_⟩
    cases h_entry : f.entry place with
    | folder => simp [bind, Except.bind, h_entry] at h
    | text old =>
      simp only [bind, Except.bind, h_entry] at h
      exact ⟨Entry.noConfusion, (Except.ok.inj h).symm⟩
    | nothing =>
      simp only [bind, Except.bind, h_entry] at h
      exact ⟨Entry.noConfusion, (Except.ok.inj h).symm⟩

theorem update_of_locate {p : String} (h : f.locate p = .ok place)
    (h_entry : f.entry place ≠ .folder) :
    f.update p (fun _ => contents) = .ok (f.withText (name place) contents) := by
  rw [update, h]
  cases h_place : f.entry place with
  | folder => exact absurd h_place h_entry
  | text old => simp only [bind, Except.bind, h_place]; rfl
  | nothing => simp only [bind, Except.bind, h_place]; rfl

/-- **What is written is there.** -/
theorem text?_update {p : String} {f' : Files} (h : f.update p (fun _ => contents) = .ok f') :
    f'.text? p = some contents := by
  obtain ⟨place, h_locate, h_entry, rfl⟩ := exists_of_update h
  rw [text?_of_locate (locate_withText h_entry h_locate), entry_withText_self, Entry.text?]

/-- **Other files of the folder** keep their texts. -/
theorem Siblings.text?_update_of_ne (h : Siblings names path) (h_a : a ∈ names) (h_b : b ∈ names)
    (h_ne : a ≠ b) {f' : Files} (h_update : f.update (path a) (fun _ => contents) = .ok f') :
    f'.text? (path b) = f.text? (path b) := by
  obtain ⟨place, h_locate, h_entry, rfl⟩ := exists_of_update h_update
  obtain ⟨folder, rfl, h_folder⟩ := h.exists_locate h_a h_locate
  rw [text?_of_locate (locate_withText h_entry (h_folder b h_b)), text?_of_locate (h_folder b h_b),
    text?_withText_of_ne (mt name_concat_inj.1 h_ne.symm)]

/-- The files of a folder can be written: the folder is there, and no folder has one of their
names. -/
def Admits (f : Files) (names : List String) (path : String → String) : Prop :=
  ∃ folder, ∀ a ∈ names, f.locate (path a) = .ok (folder ++ [a]) ∧ f.entry (folder ++ [a]) ≠ .folder

/-- **Files that can be written** can still be written when one of them has been. -/
theorem Admits.exists_update (h : Siblings names path) (h_f : f.Admits names path) (h_a : a ∈ names)
    (contents : String) :
    ∃ f', f.update (path a) (fun _ => contents) = .ok f' ∧ f'.Admits names path := by
  obtain ⟨folder, h_folder⟩ := h_f
  obtain ⟨h_locate, h_entry⟩ := h_folder a h_a
  refine ⟨_, update_of_locate h_locate h_entry, folder, fun b h_b => ?_⟩
  obtain ⟨h_locate', h_entry'⟩ := h_folder b h_b
  exact ⟨locate_withText h_entry h_locate',
    entry_withText_ne_folder h_entry' (not_startsWith_concat (h.name a h_a).2.2)⟩

end Siblings

end Specimen.Files
