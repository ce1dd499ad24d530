import Specimen.Proofs.Csv
import Specimen.Proofs.Generator.Limit
import Specimen.Proofs.Generator.Origin
import Specimen.Proofs.Run.Surroundings

/-!
# The artifacts of a completed run agree

The table, the report and the answer of a run are made in different places from the same data sets.
Read back, the table has the roots as its first record and then a record for each data set; and the
report counts the bytes of the table, its data sets, and how often each root is null.

* `Tallies` is the invariant of counting: one more data set is one more for each root that it has
  no value for (`Tallies.concat`).
* `Attempt.exists_of_run` and `Run.exists_of_completing` say what an attempt and the writing of its
  results have done when they succeed.
* `Run.perform_agrees` is the main result.
-/

namespace Specimen

/-- No two roots have one id. -/
theorem Generator.Represents.roots_nodup {g : Generator} {c : Config} {tops : List Node}
    (h : g.Represents c tops) : g.roots.Nodup := by
  have h_declares {i : Nat} {id : String} (h_id : g.roots[i]? = some id) : c.Declares [i] id := by
    have h_constraint : (c.constraints.map Config.Constraint.id)[i]? = some (some id) := by
      rw [h.map_id_eq, List.getElem?_map, h_id, Option.map_some]
    rw [List.getElem?_map] at h_constraint
    obtain ⟨x, h_x, h_eq⟩ := Option.map_eq_some_iff.1 h_constraint
    exact Config.declares_cons.2
      ⟨x, h_x, Config.Constraint.declares_nil.2 (Option.mem_toList.2 h_eq)⟩
  rw [List.nodup_iff_getElem?_ne_getElem?]
  intro i j h_lt h_length h_eq
  have h_j := List.getElem?_eq_getElem h_length
  have h_place := h.wellFormed.unique_ids _ _ _ (h_declares (h_eq.trans h_j)) (h_declares h_j)
  exact absurd (List.cons.inj h_place).1 (Nat.ne_of_lt h_lt)

namespace Attempt

/-! ### Counting nulls -/

/-- How often an id has no value. -/
def nulls (ds : List DataSet) (id : String) : Nat := ds.countP fun d => (d.value id).isNone

/-- A number as it is listed: zero is left out. -/
def listed (n : Nat) : Option UInt64 := if n = 0 then none else some (UInt64.ofNat n)

/-- Counts for the columns, once some data sets have been gone through. -/
def Tallies (columns : List String) (ds : List DataSet) (counts : Dict UInt64) : Prop :=
  ∀ id, counts.get? id = if id ∈ columns then listed (nulls ds id) else none

/-- The counts with one data set more. -/
def countRow (columns : List String) (counts : Dict UInt64) (d : DataSet) : Dict UInt64 :=
  columns.foldl (fun counts id =>
    if (d.value id).isNone then counts.insert id ((counts.get? id).getD 0 + 1) else counts) counts

/-- A data set adds one to each column that it has no value for. -/
theorem get?_countRow {columns : List String} (h : columns.Nodup) (counts : Dict UInt64)
    (d : DataSet) (id : String) : (countRow columns counts d).get? id =
      if id ∈ columns ∧ (d.value id).isNone then some ((counts.get? id).getD 0 + 1)
      else counts.get? id := by
  induction columns generalizing counts with
  | nil => simp [countRow]
  | cons column columns ih =>
    obtain ⟨h_column, h_columns⟩ := List.nodup_cons.1 h
    show (countRow columns _ d).get? id = _
    rw [ih h_columns]
    by_cases h_id : id = column
    · subst h_id
      by_cases h_null : (d.value id).isNone = true <;> simp [h_column, h_null]
    · have h_get : (if (d.value column).isNone then
          counts.insert column ((counts.get? column).getD 0 + 1) else counts).get? id =
            counts.get? id := by
        split
        · rw [Dict.get?_insert, if_neg h_id]
        · rfl
      simp only [h_get, List.mem_cons, h_id, false_or]

theorem listed_succ (n : Nat) : listed (n + 1) = some ((listed n).getD 0 + 1) := by
  cases n with
  | zero => rfl
  | succ n => simp [listed, UInt64.ofNat_add]

theorem Tallies.concat {columns : List String} {ds : List DataSet} {counts : Dict UInt64}
    (h : Tallies columns ds counts) (h_columns : columns.Nodup) (d : DataSet) :
    Tallies columns (ds ++ [d]) (countRow columns counts d) := by
  intro id
  rw [get?_countRow h_columns, h id]
  have h_nulls : nulls (ds ++ [d]) id = nulls ds id + if (d.value id).isNone then 1 else 0 := by
    rw [nulls, List.countP_append, List.countP_singleton, nulls]
  rw [h_nulls]
  by_cases h_id : id ∈ columns
  · by_cases h_null : (d.value id).isNone = true
    · rw [if_pos ⟨h_id, h_null⟩, if_pos h_id, if_pos h_null, if_pos h_id, listed_succ]
    · rw [if_neg fun h => h_null h.2, if_neg h_null, Nat.add_zero]
  · rw [if_neg fun h => h_id h.1, if_neg h_id, if_neg h_id]

/-- **Counting** lists every column as often as it is null. -/
theorem countNulls_tallies {columns : List String} (h : columns.Nodup) (ds : List DataSet) :
    Tallies columns ds (countNulls columns ds) := by
  have h_fold : ∀ (more done : List DataSet) (counts : Dict UInt64), Tallies columns done counts →
      Tallies columns (done ++ more) (more.foldl (countRow columns) counts) := by
    intro more
    induction more with
    | nil => intro done counts h_done; rwa [List.append_nil]
    | cons d more ih =>
      intro done counts h_done
      have h_next := ih (done ++ [d]) _ (h_done.concat h d)
      rwa [List.append_assoc] at h_next
  have h_start : Tallies columns [] .empty := by
    intro id
    rw [Dict.get?_empty, nulls, List.countP_nil, listed, if_pos rfl, ite_self]
  exact h_fold ds [] .empty h_start

/-- What is listed for an id, of numbers that fit 64 bits. -/
theorem Tallies.get?_eq_some_iff {columns : List String} {ds : List DataSet} {counts : Dict UInt64}
    (h : Tallies columns ds counts) (h_fits : ds.length < 2 ^ 64) {id : String} {n : UInt64} :
    counts.get? id = some n ↔ id ∈ columns ∧ 0 < nulls ds id ∧ n.toNat = nulls ds id := by
  have h_lt : nulls ds id < 2 ^ 64 := List.countP_le_length.trans_lt h_fits
  rw [h id]
  by_cases h_id : id ∈ columns
  · rw [if_pos h_id, listed]
    split
    · next h_zero => simp [h_zero]
    · next h_pos =>
      rw [Option.some_inj, ← UInt64.toNat_inj, UInt64.toNat_ofNat_of_lt' h_lt]
      exact ⟨fun h_eq => ⟨h_id, Nat.pos_of_ne_zero h_pos, h_eq.symm⟩, fun h_all => h_all.2.2.symm⟩
  · simp [h_id]

/-! ### Attempts that succeed -/

theorem generateMany_length {g : Generator} {c : FieldCase} {n : Nat} :
    ∀ {done ds : List DataSet} {m m' : Memory}, g.generateMany c n done m = (.ok ds, m') →
      ds.length = done.length + n := by
  induction n with
  | zero =>
    intro done ds m m' h
    cases h
    rw [List.length_reverse, Nat.add_zero]
  | succ n ih =>
    intro done ds m m' h
    rw [Generator.generateMany] at h
    obtain ⟨d, m₁, -, h_rest⟩ := bind_eq_ok_iff.1 h
    rw [ih h_rest, List.length_cons]
    omega

variable {g : Generator} {m m' : Memory}

/-- The number of data sets of any mode fits 64 bits. -/
theorem dataSets_length_lt {mode : RunMode} {ds : List DataSet} {left : Bool}
    (h : dataSets g mode m = (.ok (ds, left), m')) : ds.length < 2 ^ 64 := by
  cases mode with
  | random n c =>
    rw [dataSets] at h
    split at h
    · cases (Prod.mk.inj h).1
    · obtain ⟨ds', m₁, h_many, h_end⟩ := bind_eq_ok_iff.1 h
      cases h_end
      rw [generateMany_length h_many, List.length_nil, Nat.zero_add]
      exact n.toNat_lt
  | cases limit =>
    rw [dataSets] at h
    obtain ⟨ds', m₁, h_enumerate, h_next⟩ := bind_eq_ok_iff.1 h
    obtain ⟨more, m₂, h_more, h_end⟩ := bind_eq_ok_iff.1 h_next
    cases h_end
    obtain ⟨m₀, -, h_on⟩ := Generator.enumerate_eq_ok_iff.1 h_enumerate
    exact h_on.length_le.trans_lt limit.toNat_lt

/-- An attempt that succeeds has the roots of the generator as its columns, and its report lists how
often each of them is null. -/
theorem exists_of_run {c : Config} {o : GeneratorOptions} {mode : RunMode} {random : UInt64}
    {r : RunReport} {columns : List String} {ds : List DataSet}
    (h : (run c o mode random r).outcome = .ok (columns, ds)) :
    c.constraints.map Config.Constraint.id = columns.map some ∧ columns.Nodup ∧
      ds.length < 2 ^ 64 ∧ Tallies columns ds (run c o mode random r).report.nullValues := by
  rw [run] at h ⊢
  cases h_g : Generator.ofConfig c o random with
  | error fault => rw [h_g] at h; cases h
  | ok g =>
    rw [h_g] at h
    dsimp only at h ⊢
    cases h_count : g.countCases.run g.freshMemory with
    | mk answer m =>
      rw [h_count] at h
      cases answer with
      | error failure => cases h
      | ok cases =>
        dsimp only at h ⊢
        cases h_sets : (dataSets g mode).run m with
        | mk answer m' =>
          rw [h_sets] at h
          cases answer with
          | error failure => cases h
          | ok answer =>
            obtain ⟨rfl, rfl⟩ := Prod.mk.inj (Except.ok.inj h)
            obtain ⟨⟨tops, h_tops⟩, -⟩ := Generator.ofConfig_represents h_g
            exact ⟨h_tops.map_id_eq, h_tops.roots_nodup, dataSets_length_lt h_sets,
              countNulls_tallies h_tops.roots_nodup answer.1⟩

end Attempt

namespace Run

variable {W : Type} {s : Surroundings (StateM W)} {text? : W → String → Option String}
  {folder : String} {w w' : W}

/-! ### Runs that are completed -/

theorem write_of_reported {r : RunReport} {result : Except RunFault RunResult} {done : RunResult}
    (h : reported s folder r result w = (.ok done, w')) : result = .ok done ∧
      (s.storage.write (FilePath.join folder "generation_report.json") r.toJson.pretty).run w =
        (.ok (), w') := by
  rw [reported] at h
  split at h
  · next h_write => exact ⟨(Prod.mk.inj h).1, (Prod.mk.inj h).2 ▸ h_write⟩
  · cases (Prod.mk.inj h).1

theorem failing_ne_ok {r : RunReport} {text : String} {fault : RunFault} {done : RunResult} :
    failing s folder r text fault w ≠ (.ok done, w') :=
  fun h => by cases (write_of_reported h).1

/-- What completes a run has written its table and then its report, both of which are there. -/
theorem exists_of_completing (h_keeps : s.Keeps text? folder) {columns : List String}
    {ds : List DataSet} {r : RunReport} {tokens : Nat} {done : RunResult}
    (h : completing s folder columns ds r tokens w = (.ok done, w')) : ∃ duration,
    done = ⟨folder, completedReport columns ds r tokens duration, ds⟩ ∧
      text? w' (FilePath.join folder "data_sets.csv") = some (Csv.table columns ds) ∧
      text? w' (FilePath.join folder "generation_report.json") =
        some (completedReport columns ds r tokens duration).toJson.pretty := by
  rw [completing] at h
  split at h
  · exact absurd h failing_ne_ok
  · next w₁ h_write =>
    obtain ⟨h_result, h_report⟩ := write_of_reported h
    have h_others := h_keeps.others "generation_report.json" "data_sets.csv"
      (completedReport columns ds r tokens (s.elapsed.run w₁).1).toJson.pretty (s.elapsed.run w₁).2
      (by decide) (by decide) (by decide)
    rw [h_report, h_keeps.elapsed] at h_others
    exact ⟨_, (Except.ok.inj h_result).symm, h_others.trans (h_keeps.written (by decide) h_write),
      h_keeps.written (by decide) h_report⟩

/-- A completed run has got its folder, its options and its data sets. -/
theorem exists_of_perform {c : Config} {settings : Settings} {o : RunOptions} {tag : RunTag}
    {done : RunResult} (h : upshot (perform s c settings o tag) w = (.ok done, w')) :
    ∃ options columns ds w₃,
      let a := Attempt.run c options o.mode tag.random (.begun tag.id o.mode c.fingerprint);
      a.outcome = .ok (columns, ds) ∧
        completing s (folderOf o tag) columns ds a.report a.tokens w₃ = (.ok done, w') := by
  rw [upshot_perform] at h
  -- every other step ends the run with a fault
  split at h
  · cases h
  · split at h
    · cases h
    · split at h
      · cases h
      · next options w₃ _ =>
        rw [upshot_generateIn] at h
        dsimp only at h
        split at h
        · next columns ds h_outcome => exact ⟨options, columns, ds, w₃, h_outcome, h⟩
        · exact absurd h failing_ne_ok

/-- What a completed run leaves in its folder agrees with its result, for the ids of its columns. -/
structure Agrees (text? : W → String → Option String) (folder : String) (ids : List String)
    (done : RunResult) (w : W) : Prop where
  /-- The table reads back as the ids and, below them, the values of the data sets, null being
  empty; the report counts its bytes, up to the greatest number of 64 bits. -/
  table : ∃ table, text? w (FilePath.join folder "data_sets.csv") = some table ∧
    (∀ blank, Csv.read blank table =
      some (ids :: done.dataSets.map fun d => ids.map fun id => (d.value id).getD "")) ∧
    done.report.bytesWritten.toNat = min table.utf8ByteSize (2 ^ 64 - 1)
  report : text? w (FilePath.join folder "generation_report.json") = some done.report.toJson.pretty
  dataSets : done.report.dataSets.toNat = done.dataSets.length
  /-- Those ids are listed that some data set has no value for, with the number of these. -/
  nullValues : ∀ id n, done.report.nullValues.get? id = some n ↔ id ∈ ids ∧
    n.toNat = done.dataSets.countP (fun d => (d.value id).isNone) ∧ 0 < n.toNat

/-- **The artifacts of a completed run agree.** Take a run of a configuration with constraints that
has a result. Read as a table, its `data_sets.csv` has the ids of the constraints as its first
record and then one record for each data set of the result, with the values that it has for these
ids. The report, which is there as a file too, counts these data sets and the bytes of the table,
and lists for each of the ids how many of the data sets have no value for it, if there are any. -/
theorem perform_agrees {c : Config} {settings : Settings} {o : RunOptions} {tag : RunTag}
    {done : RunResult} (h_keeps : s.Keeps text? (folderOf o tag))
    (h_done : upshot (perform s c settings o tag) w = (.ok done, w'))
    (h_roots : c.constraints ≠ []) :
    ∃ ids, c.constraints.map Config.Constraint.id = ids.map some ∧
      Agrees text? (folderOf o tag) ids done w' := by
  obtain ⟨options, columns, ds, w₃, h_outcome, h_completing⟩ := exists_of_perform h_done
  obtain ⟨h_ids, h_nodup, h_length, h_tallies⟩ := Attempt.exists_of_run h_outcome
  obtain ⟨duration, rfl, h_table, h_report⟩ := exists_of_completing h_keeps h_completing
  have h_columns : columns ≠ [] := by
    rintro rfl
    exact h_roots (List.map_eq_nil_iff.1 h_ids)
  refine ⟨columns, h_ids, ⟨_, h_table, fun blank => Csv.read_table blank h_columns ds, ?_⟩,
    h_report, UInt64.toNat_ofNat_of_lt' h_length, fun id n => ?_⟩
  · exact UInt64.toNat_ofNat_of_lt' (Nat.lt_of_le_of_lt (Nat.min_le_right ..) (by decide))
  · refine (h_tallies.get?_eq_some_iff h_length).trans (and_congr_right fun _ => ?_)
    rw [Attempt.nulls, and_comm]
    exact and_congr_right fun h_eq => by rw [h_eq]

/-- Two data sets without values. -/
def twoNulls : RunOptions := ⟨"out", .random 2 .null⟩

/-- The records are empty, but the lines are not. -/
theorem perform_agrees_twoNulls : ∃ done w',
    Files.surroundings.Keeps Files.text? (folderOf twoNulls firstRun) ∧
    upshot (perform Files.surroundings label {} twoNulls firstRun) noFiles = (.ok done, w') ∧
    label.constraints ≠ [] ∧
    Files.text? w' (FilePath.join (folderOf twoNulls firstRun) "data_sets.csv") =
      some "label\n\"\"\n\"\"\n" ∧
    done.report.nullValues.get? "label" = some 2 ∧
    ∃ ids, label.constraints.map Config.Constraint.id = ids.map some ∧
      Agrees Files.text? (folderOf twoNulls firstRun) ids done w' := by
  have h_run : (upshot (perform Files.surroundings label {} twoNulls firstRun)
      noFiles).1.toOption.map (·.report.nullValues.get? "label") = some (some 2) := by
    decide +kernel
  have h_table : Files.text? (upshot (perform Files.surroundings label {} twoNulls firstRun)
      noFiles).2 (FilePath.join (folderOf twoNulls firstRun) "data_sets.csv") =
        some "label\n\"\"\n\"\"\n" := by decide +kernel
  have h_keeps : Files.surroundings.Keeps Files.text? (folderOf twoNulls firstRun) :=
    Files.keeps siblings_firstRun
  cases h : upshot (perform Files.surroundings label {} twoNulls firstRun) noFiles with
  | mk answer w' =>
    rw [h] at h_run h_table
    cases answer with
    | error fault => cases h_run
    | ok done =>
      have h_roots : label.constraints ≠ [] := List.cons_ne_nil _ _
      exact ⟨done, w', h_keeps, rfl, h_roots, h_table, Option.some.inj h_run,
        perform_agrees h_keeps h h_roots⟩

end Run

end Specimen
