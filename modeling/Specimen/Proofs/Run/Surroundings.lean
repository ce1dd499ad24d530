import Mathlib.Control.Monad.Basic
import Specimen.Proofs.Storage
import Specimen.Run.Artifacts

/-!
# What runs rely on

A run writes files and looks at a clock, in whatever way its surroundings do that. What can be said
about the files that it leaves depends on what the surroundings do:

* `Surroundings.Keeps`: what was written to an artifact is there until it is written again.
* `Surroundings.StaysWritable`: from some point on, the artifacts can be written. This is an
  invariant, which reading, writing and looking at the clock keep.

Both hold of trees of files (`Files.keeps`, `Files.staysWritable`). The steps of a run are then
followed from one state of the files to the next (`Run.upshot_perform`).
-/

namespace Specimen

/-- The files that a run leaves in its folder. -/
def Run.artifacts : List String :=
  ["resolved_config.json", "data_sets.csv", "generation_report.json"]

namespace Surroundings

variable {W : Type} (s : Surroundings (StateM W))

/-- The surroundings keep files, as far as the artifacts in a folder are concerned: one that was
written holds the text, and it is left alone by the writing of another, by reading and by looking at
the clock. -/
structure Keeps (text? : W → String → Option String) (folder : String) : Prop where
  written : ∀ {name contents : String} {w w' : W}, name ∈ Run.artifacts →
    (s.storage.write (FilePath.join folder name) contents).run w = (.ok (), w') →
    text? w' (FilePath.join folder name) = some contents
  others : ∀ (name name' contents : String) (w : W), name ∈ Run.artifacts →
    name' ∈ Run.artifacts → name ≠ name' →
    text? ((s.storage.write (FilePath.join folder name) contents).run w).2
      (FilePath.join folder name') = text? w (FilePath.join folder name')
  read : ∀ (path : String) (w : W), text? ((s.storage.read path).run w).2 = text? w
  elapsed : ∀ w : W, text? (s.elapsed.run w).2 = text? w

/-- A condition under which the artifacts in a folder can be written, and which goes on holding. -/
structure Admits (folder : String) (admits : W → Prop) : Prop where
  write : ∀ {name : String} (contents : String) {w : W}, name ∈ Run.artifacts → admits w →
    ∃ w', (s.storage.write (FilePath.join folder name) contents).run w = (.ok (), w') ∧ admits w'
  read : ∀ (path : String) {w : W}, admits w → admits ((s.storage.read path).run w).2
  elapsed : ∀ {w : W}, admits w → admits (s.elapsed.run w).2

/-- The artifacts in a folder can be written from now on. -/
def StaysWritable (folder : String) (w : W) : Prop :=
  ∃ admits : W → Prop, s.Admits folder admits ∧ admits w

namespace StaysWritable

variable {s} {folder : String} {w : W}

theorem write (h : s.StaysWritable folder w) (name contents : String)
    (h_name : name ∈ Run.artifacts) : ∃ w',
      (s.storage.write (FilePath.join folder name) contents).run w = (.ok (), w') ∧
        s.StaysWritable folder w' := by
  obtain ⟨admits, h_admits, h_w⟩ := h
  obtain ⟨w', h_write, h_w'⟩ := h_admits.write contents h_name h_w
  exact ⟨w', h_write, admits, h_admits, h_w'⟩

theorem read (h : s.StaysWritable folder w) (path : String) :
    s.StaysWritable folder ((s.storage.read path).run w).2 := by
  obtain ⟨admits, h_admits, h_w⟩ := h
  exact ⟨admits, h_admits, h_admits.read path h_w⟩

theorem elapsed (h : s.StaysWritable folder w) : s.StaysWritable folder (s.elapsed.run w).2 := by
  obtain ⟨admits, h_admits, h_w⟩ := h
  exact ⟨admits, h_admits, h_admits.elapsed h_w⟩

end StaysWritable

end Surroundings

/-! ### Trees of files -/

namespace Files

/-- A tree of files as surroundings, with a clock that stands still. -/
def surroundings : Surroundings (StateM Files) := ⟨storage, return 0, return ""⟩

variable {folder : String}

theorem write_run (p contents : String) (f : Files) : (storage.write p contents).run f =
    match f.update p fun _ => contents with
    | .ok f' => (.ok (), f')
    | .error fault => (.error fault, f) := by
  show (put (f.update p fun _ => contents)).run f = _
  cases f.update p fun _ => contents <;> rfl

/-- **Trees keep their files.** -/
theorem keeps (h : Siblings Run.artifacts (FilePath.join folder)) :
    surroundings.Keeps text? folder where
  written {name contents f f'} h_name h_write := by
    have h_run : (storage.write (FilePath.join folder name) contents).run f = (.ok (), f') :=
      h_write
    rw [write_run] at h_run
    split at h_run
    · next f'' h_update =>
      obtain rfl : f'' = f' := (Prod.mk.inj h_run).2
      exact text?_update h_update
    · cases (Prod.mk.inj h_run).1
  others name name' contents f h_name h_name' h_ne := by
    show text? ((storage.write (FilePath.join folder name) contents).run f).2 _ = _
    rw [write_run]
    split
    · next h_update => exact h.text?_update_of_ne h_name h_name' h_ne h_update
    · rfl
  read _ _ := rfl
  elapsed _ := rfl

/-- **Trees stay writable.** -/
theorem staysWritable (h : Siblings Run.artifacts (FilePath.join folder)) {f : Files}
    (h_f : f.Admits Run.artifacts (FilePath.join folder)) :
    surroundings.StaysWritable folder f := by
  refine ⟨fun f => f.Admits Run.artifacts (FilePath.join folder), ⟨?_, fun _ _ h_f => h_f, id⟩, h_f⟩
  intro name contents f h_name h_f
  obtain ⟨f', h_update, h_f'⟩ := h_f.exists_update h h_name contents
  refine ⟨f', ?_, h_f'⟩
  show (storage.write (FilePath.join folder name) contents).run f = _
  rw [write_run, h_update]

end Files

/-! ### Steps of a run -/

namespace Run

variable {W : Type} (s : Surroundings (StateM W))

/-- Where a run has its folder. -/
def folderOf (o : RunOptions) (tag : RunTag) : String := FilePath.join o.folder tag.folder

/-- What comes of a run, its log apart: the result, and the state that it leaves. -/
def upshot (act : StateM W RunOutcome) (w : W) : Except RunFault RunResult × W :=
  ((act.run w).1.result, (act.run w).2)

/-- The result and the state after a report was to be written. -/
def reported (folder : String) (r : RunReport) (result : Except RunFault RunResult) (w : W) :
    Except RunFault RunResult × W :=
  match (s.storage.write (FilePath.join folder "generation_report.json") r.toJson.pretty).run w with
  | (.ok _, w') => (result, w')
  | (.error fault, w') => (.error (.file fault.message), w')

/-- The report of a completed run, given that of the attempt. -/
def completedReport (columns : List String) (ds : List DataSet) (r : RunReport) (tokens : Nat)
    (duration : UInt64) : RunReport :=
  { r with
    bytesWritten := UInt64.ofNat (saturated (Csv.table columns ds).utf8ByteSize)
    dataSets := UInt64.ofNat ds.length
    tokensIssued := Int64.ofNat tokens
    duration := duration }.completed

/-- What comes of a run that has failed. -/
def failing (folder : String) (r : RunReport) (text : String) (fault : RunFault) (w : W) :
    Except RunFault RunResult × W :=
  reported s folder ({ r with duration := (s.elapsed.run w).1 }.failed text) (.error fault)
    (s.elapsed.run w).2

/-- What comes of a run that has its data sets. -/
def completing (folder : String) (columns : List String) (ds : List DataSet) (r : RunReport)
    (tokens : Nat) (w : W) : Except RunFault RunResult × W :=
  match (s.storage.write (FilePath.join folder "data_sets.csv") (Csv.table columns ds)).run w with
  | (.error fault, w₁) =>
    failing s folder r (RunFault.table fault.message).message (.table fault.message) w₁
  | (.ok _, w₁) =>
    let r := completedReport columns ds r tokens (s.elapsed.run w₁).1
    reported s folder r (.ok ⟨folder, r, ds⟩) (s.elapsed.run w₁).2

theorem writeReport_run (folder : String) (r : RunReport) (result : Except RunFault RunResult)
    (w : W) : (writeReport s folder r result).run w = reported s folder r result w := by
  rw [writeReport, StateT.run_bind, reported]
  cases (s.storage.write (FilePath.join folder "generation_report.json") r.toJson.pretty).run w with
  | mk answer w' => cases answer <;> rfl

theorem upshot_bind {α : Type} (act : StateM W α) (next : α → StateM W RunOutcome) (w : W) :
    upshot (act >>= next) w = upshot (next (act.run w).1) (act.run w).2 := rfl

theorem upshot_pure (outcome : RunOutcome) (w : W) :
    upshot (pure outcome) w = (outcome.result, w) := rfl

theorem upshot_finishFailed (folder : String) (r : RunReport) (text : String) (fault : RunFault)
    (log : List LogEvent) (last : LogEvent) (w : W) :
    upshot (finishFailed s folder r text fault log last) w = failing s folder r text fault w := by
  rw [finishFailed, upshot_bind, failing]
  dsimp only
  rw [upshot_bind, writeReport_run]
  -- whether the last event is logged makes no difference to the result
  split
  · next h => rw [upshot_pure, ← h]
  · rw [upshot_pure]

theorem upshot_finish (tag : RunTag) (folder : String) (columns : List String) (ds : List DataSet)
    (r : RunReport) (tokens : Nat) (log : List LogEvent) (w : W) :
    upshot (finish s tag folder columns ds r tokens log) w =
      completing s folder columns ds r tokens w := by
  rw [finish, completing]
  dsimp only
  rw [upshot_bind]
  cases (s.storage.write (FilePath.join folder "data_sets.csv") (Csv.table columns ds)).run w with
  | mk answer w₁ =>
    cases answer with
    | error fault => exact upshot_finishFailed ..
    | ok _ =>
      dsimp only
      rw [upshot_bind, upshot_bind, writeReport_run]
      split
      · next h => rw [upshot_pure, ← h]; rfl
      · rw [upshot_pure]; rfl

/-- **Generating** in a folder that is there: the attempt says whether the run can be completed. -/
theorem upshot_generateIn (folder : String) (c : Config) (o : GeneratorOptions) (mode : RunMode)
    (tag : RunTag) (w : W) : upshot (generateIn s folder c o mode tag) w =
      let a := Attempt.run c o mode tag.random (.begun tag.id mode c.fingerprint)
      match a.outcome with
      | .ok (columns, ds) => completing s folder columns ds a.report a.tokens w
      | .error failure =>
        failing s folder a.report (faultOf failure).2 (faultOf failure).1 w := by
  rw [generateIn]
  dsimp only
  cases (Attempt.run c o mode tag.random (.begun tag.id mode c.fingerprint)).outcome with
  | ok answer => exact upshot_finish ..
  | error failure => exact upshot_finishFailed ..

theorem upshot_perform (c : Config) (settings : Settings) (o : RunOptions) (tag : RunTag) (w : W) :
    upshot (perform s c settings o tag) w =
      match (s.storage.makeFolder (folderOf o tag)).run w with
      | (.error fault, w₁) => (.error (.file fault.message), w₁)
      | (.ok _, w₁) =>
        match (s.storage.write (FilePath.join (folderOf o tag) "resolved_config.json")
            c.toJson.pretty).run w₁ with
        | (.error fault, w₂) => (.error (.file fault.message), w₂)
        | (.ok _, w₂) =>
          match (Settings.generatorOptions s.storage settings).run w₂ with
          | (.error fault, w₃) => (.error (.config fault), w₃)
          | (.ok options, w₃) =>
            upshot (generateIn s (folderOf o tag) c options o.mode tag) w₃ := by
  rw [perform]
  dsimp only
  rw [upshot_bind, folderOf]
  -- Each of the three calls either ends the run with its own fault or hands on its world.
  cases (s.storage.makeFolder (FilePath.join o.folder tag.folder)).run w with
  | mk answer w₁ =>
    cases answer with
    | error fault => rfl
    | ok _ =>
      dsimp only
      rw [upshot_bind]
      cases (s.storage.write (FilePath.join (FilePath.join o.folder tag.folder)
        "resolved_config.json") c.toJson.pretty).run w₁ with
      | mk answer w₂ =>
        cases answer with
        | error fault => rfl
        | ok _ =>
          dsimp only
          rw [upshot_bind]
          cases (Settings.generatorOptions s.storage settings).run w₂ with
          | mk answer w₃ => cases answer <;> rfl

/-! ### Reports that are written -/

variable {s} {text? : W → String → Option String} {folder : String} {w : W}

/-- Where its artifacts can be written, a run has the result that it is given, and its report is
there. -/
theorem reported_of_staysWritable (h_keeps : s.Keeps text? folder)
    (h_w : s.StaysWritable folder w) (r : RunReport) (result : Except RunFault RunResult) :
    ∃ w', reported s folder r result w = (result, w') ∧
      text? w' (FilePath.join folder "generation_report.json") = some r.toJson.pretty ∧
      text? w' (FilePath.join folder "data_sets.csv") =
        text? w (FilePath.join folder "data_sets.csv") := by
  obtain ⟨w', h_write, -⟩ := h_w.write "generation_report.json" r.toJson.pretty (by decide)
  have h_others := h_keeps.others "generation_report.json" "data_sets.csv" r.toJson.pretty w
    (by decide) (by decide) (by decide)
  rw [h_write] at h_others
  exact ⟨w', by rw [reported, h_write], h_keeps.written (by decide) h_write, h_others⟩

/-! ### A run in a tree of files -/

/-- A configuration with a single constant. -/
def label : Config :=
  ⟨Config.supportedVersion, none, .empty, [.mk (some "label") none (.constant "x")]⟩

/-- One data set, in the folder `out`. -/
def oneDataSet : RunOptions := ⟨"out", .random 1 .normal⟩

/-- The first run. -/
def firstRun : RunTag := ⟨"1", "run", 0⟩

/-- No file at all. -/
def noFiles : Files := ⟨.empty, .empty⟩

/-- The folder of the run. -/
def runFolder : Files := ⟨.empty, .ofList [("out", ()), ("out/run", ())]⟩

theorem makeFolder_firstRun :
    (Files.storage.makeFolder (folderOf oneDataSet firstRun)).run noFiles =
      (.ok (), runFolder) := by
  show (Files.put (noFiles.makeFolder (folderOf oneDataSet firstRun))).run noFiles = _
  have h_entries : (noFiles.makeFolder (folderOf oneDataSet firstRun)).toOption.map
      (fun f => (f.texts.entries, f.folders.entries)) =
        some (runFolder.texts.entries, runFolder.folders.entries) := by decide +kernel
  cases h_made : noFiles.makeFolder (folderOf oneDataSet firstRun) with
  | error fault => rw [h_made] at h_entries; cases h_entries
  | ok f =>
    rw [h_made] at h_entries
    obtain ⟨h_texts, h_folders⟩ := Prod.mk.inj (Option.some.inj h_entries)
    obtain rfl : f = runFolder := by
      cases f
      exact congrArg₂ Files.mk (Dict.ext h_texts) (Dict.ext h_folders)
    rfl

theorem siblings_firstRun :
    Files.Siblings artifacts (FilePath.join (folderOf oneDataSet firstRun)) where
  steps := ⟨["out", "run"], by decide +kernel⟩
  relative := by decide +kernel
  name := by decide +kernel

theorem staysWritable_firstRun :
    Files.surroundings.StaysWritable (folderOf oneDataSet firstRun) runFolder :=
  Files.staysWritable siblings_firstRun ⟨["out", "run"], by decide +kernel⟩

end Run

end Specimen
