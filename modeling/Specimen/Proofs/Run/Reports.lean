import Specimen.Proofs.Config.Written
import Specimen.Proofs.Run.Surroundings
import Specimen.Run.Report

/-!
# Runs leave truthful reports

A run reports how it ended, and whoever finds its report finds the truth there: the run was
completed, and then its table is there too, or it failed, and then the report says why. Wherever
the artifacts can be written this holds of every run that gets to generating, however that ends
(`perform_truthful`).

A run does not get there if it has no options to generate with: the list of indexed ids is loaded
after the run has its folder, but before anything is reported. Such a run leaves no report at all
(`perform_unreported`).

The text of a report is a document again, with the status of the run and the error, if there was one
(`RunReport.tells`): reports are three levels deep, and their numbers are integers of 64 bits, which
`Json.Within` says of a document, with one lemma for each way to put documents together.
-/

namespace Specimen

namespace Json

/-- All numbers are integers of 64 bits, and brackets nest at most so deep. -/
structure Within (n : Nat) (j : Json) : Prop where
  exact : j.Exact
  depth : j.depth ≤ n

variable {n : Nat} {j : Json} {items : List Json} {es : List (String × Json)}

theorem Within.mono {n' : Nat} (h : j.Within n) (h_le : n ≤ n') : j.Within n' :=
  ⟨h.exact, h.depth.trans h_le⟩

theorem within_string (s : String) : (string s).Within 0 := ⟨trivial, Nat.le_refl 0⟩

theorem within_word64 (k : UInt64) : (Config.word64ToJson k).Within 0 :=
  ⟨(Config.plain_of_isNumber (Config.isNumber_word64 k)).exact, Nat.le_refl 0⟩

theorem within_int64 (k : Int64) : (int k.toInt).Within 0 :=
  ⟨(Config.plain_of_isNumber (Config.isNumber_int64 k)).exact, Nat.le_refl 0⟩

theorem depthItems_le (h : ∀ x ∈ items, x.depth ≤ n) : depthItems items ≤ n := by
  induction items with
  | nil => exact Nat.zero_le n
  | cons x items ih =>
    obtain ⟨h_x, h_items⟩ := List.forall_mem_cons.1 h
    exact Nat.max_le.2 ⟨h_x, ih h_items⟩

theorem depthEntries_le (h : ∀ e ∈ es, e.2.depth ≤ n) : depthEntries es ≤ n := by
  induction es with
  | nil => exact Nat.zero_le n
  | cons e es ih =>
    obtain ⟨h_e, h_es⟩ := List.forall_mem_cons.1 h
    exact Nat.max_le.2 ⟨h_e, ih h_es⟩

theorem within_array (h : ∀ x ∈ items, x.Within n) : (array items).Within (n + 1) :=
  ⟨exactItems_iff.2 fun x h_x => (h x h_x).exact,
    Nat.succ_le_succ (depthItems_le fun x h_x => (h x h_x).depth)⟩

theorem within_object (h : ∀ e ∈ es, e.2.Within n) : (object es).Within (n + 1) :=
  ⟨exactEntries_iff.2 fun e h_e => (h e h_e).exact,
    Nat.succ_le_succ (depthEntries_le fun e h_e => (h e h_e).depth)⟩

end Json

open Json Config

theorem RunMode.toJson_within (mode : RunMode) : mode.toJson.Within 1 := by
  cases mode <;> refine within_object ?_ <;>
    simp only [List.forall_mem_cons, List.not_mem_nil, false_imp_iff, implies_true, and_true]
  · exact ⟨within_string _, within_word64 _, within_string _⟩
  · exact ⟨within_string _, within_word64 _⟩

theorem Notice.toJson_within (n : Notice) : n.toJson.Within 1 := by
  refine within_object ?_
  simp only [List.forall_mem_append, List.forall_mem_cons, forall_mem_optionalEntry,
    List.not_mem_nil, false_imp_iff, implies_true, and_true]
  exact ⟨⟨within_string _, within_string _, within_string _⟩, fun id _ => within_string id⟩

namespace RunReport

theorem toJson_within (r : RunReport) : r.toJson.Within 3 := by
  have h_nulls : (Json.object (r.nullValues.map word64ToJson).entries).Within 1 := by
    refine within_object fun e h_e => ?_
    obtain ⟨e', -, rfl⟩ := List.mem_map.1 h_e
    exact within_word64 e'.2
  have h_warnings : (Json.array (r.warnings.map Notice.toJson)).Within 2 :=
    within_array (List.forall_mem_map.2 fun n _ => n.toJson_within)
  have h_string (s : String) : (string s).Within 2 := (within_string s).mono (by omega)
  have h_word (k : UInt64) : (word64ToJson k).Within 2 := (within_word64 k).mono (by omega)
  refine within_object ?_
  simp only [List.forall_mem_append, List.forall_mem_cons, forall_mem_optionalEntry,
    List.not_mem_nil, false_imp_iff, implies_true, and_true]
  exact ⟨⟨⟨h_string _, r.mode.toJson_within.mono (by omega), h_string _⟩, fun e _ => h_string e⟩,
    h_string _, h_word _, h_word _, h_word _, h_word _, h_word _, h_nulls.mono (by omega),
    (within_int64 _).mono (by omega), h_word _, h_word _, h_warnings⟩

/-- A text is a document that gives a status, and the error if there is one. -/
def Tells (text status : String) (error : Option String) : Prop :=
  ∃ es, Json.parse text = .ok (.object es) ∧ es.lookup "status" = some (.string status) ∧
    es.lookup "error" = error.map .string

/-- **The text of a report** gives its status and its error. -/
theorem tells (r : RunReport) : Tells r.toJson.pretty r.status r.error := by
  refine ⟨_, parse_pretty r.toJson_within.exact (r.toJson_within.depth.trans (by omega)), rfl, ?_⟩
  show List.lookup "error" (optionalEntry "error" string r.error ++ _) = _
  exact lookup_optionalEntry_append rfl

end RunReport

end Specimen

namespace Specimen.Run

variable {W : Type} {s : Surroundings (StateM W)} {text? : W → String → Option String}
  {folder : String} {w : W}

/-! ### Attempts -/

/-- Warnings about ids leave the rest of a report as it is. -/
theorem withStray_error (g : Generator) (r : RunReport) :
    (Attempt.withStray r g).error = r.error := by
  rw [Attempt.withStray]
  exact List.foldlRecOn (motive := fun r' : RunReport => r'.error = r.error) g.strayIndexed _ rfl
    fun _ h_r' _ _ => h_r'

/-- An attempt does not say by itself what has gone wrong. -/
theorem attempt_error (c : Config) (o : GeneratorOptions) (mode : RunMode) (random : UInt64)
    (r : RunReport) : (Attempt.run c o mode random r).report.error = r.error := by
  rw [Attempt.run]
  split
  · rfl
  · next g _ =>
    split
    · rfl
    · split
      · exact withStray_error g _
      · next left _ _ =>
        cases left <;> exact withStray_error g _

/-! ### Reports -/

/-- What a report may say about a fault: its wording or, where the program has broken off, what made
it do so. -/
def Explains (fault : RunFault) (message : String) : Prop :=
  message = fault.message ∨ fault = .failed ∧ ∃ reason, message = "panic: " ++ reason

/-- A run that ended with a result has told so in its report, and its table is there if the report
says that it was completed. -/
structure Truthful (text? : W → String → Option String) (folder : String)
    (result : Except RunFault RunResult) (w : W) : Prop where
  completed : ∀ done, result = .ok done → ∃ report table,
    text? w (FilePath.join folder "generation_report.json") = some report ∧
      RunReport.Tells report "completed" none ∧
      text? w (FilePath.join folder "data_sets.csv") = some table
  failed : ∀ fault, result = .error fault → ∃ report message,
    text? w (FilePath.join folder "generation_report.json") = some report ∧
      RunReport.Tells report "failed" (some message) ∧ Explains fault message

theorem explains_faultOf (failure : Failure) :
    Explains (faultOf failure).1 (faultOf failure).2 := by
  cases failure with
  | fault fault => exact .inl rfl
  | crash crash => exact .inr ⟨rfl, crash.message, rfl⟩
  | tooDeep => exact .inr ⟨rfl, "requests nest too deep", rfl⟩

theorem failing_truthful (h_keeps : s.Keeps text? folder) (h_w : s.StaysWritable folder w)
    (r : RunReport) {text : String} {fault : RunFault} (h : Explains fault text) :
    Truthful text? folder (failing s folder r text fault w).1
      (failing s folder r text fault w).2 := by
  obtain ⟨w', h_reported, h_report, -⟩ := reported_of_staysWritable h_keeps h_w.elapsed
    ({ r with duration := (s.elapsed.run w).1 }.failed text) (.error fault)
  rw [failing, h_reported]
  refine ⟨fun done h_done => (by cases h_done), fun fault' h_fault => ?_⟩
  obtain rfl := Except.error.inj h_fault
  exact ⟨_, text, h_report, RunReport.tells _, h⟩

theorem completing_truthful (h_keeps : s.Keeps text? folder) (h_w : s.StaysWritable folder w)
    (columns : List String) (ds : List DataSet) {r : RunReport} (h_error : r.error = none)
    (tokens : Nat) : Truthful text? folder (completing s folder columns ds r tokens w).1
      (completing s folder columns ds r tokens w).2 := by
  obtain ⟨w₁, h_write, h_w₁⟩ := h_w.write "data_sets.csv" (Csv.table columns ds) (by decide)
  -- the table is there, and stays there when the report is written
  have h_table := h_keeps.written (by decide) h_write
  rw [← h_keeps.elapsed] at h_table
  obtain ⟨w', h_reported, h_report, h_others⟩ := reported_of_staysWritable h_keeps h_w₁.elapsed
    (completedReport columns ds r tokens (s.elapsed.run w₁).1)
    (.ok ⟨folder, completedReport columns ds r tokens (s.elapsed.run w₁).1, ds⟩)
  rw [completing, h_write]
  dsimp only
  rw [h_reported]
  refine ⟨fun done _ => ⟨_, _, h_report, ?_, h_others.trans h_table⟩, fun fault h => by cases h⟩
  rw [← h_error]
  exact RunReport.tells _

/-- **Generating** is reported on truthfully, however it ends. -/
theorem generateIn_truthful (h_keeps : s.Keeps text? folder) (h_w : s.StaysWritable folder w)
    (c : Config) (o : GeneratorOptions) (mode : RunMode) (tag : RunTag) :
    Truthful text? folder (upshot (generateIn s folder c o mode tag) w).1
      (upshot (generateIn s folder c o mode tag) w).2 := by
  rw [upshot_generateIn]
  dsimp only
  split
  · exact completing_truthful h_keeps h_w _ _ (attempt_error ..) _
  · exact failing_truthful h_keeps h_w _ (explains_faultOf _)

/-! ### Runs -/

/-- What the options of a run are found to be, once it has its folder and has written its
configuration. -/
def optionsOf (s : Surroundings (StateM W)) (folder : String) (c : Config) (settings : Settings)
    (w : W) : Except Config.LoadFault GeneratorOptions × W :=
  (Settings.generatorOptions s.storage settings).run
    ((s.storage.write (FilePath.join folder "resolved_config.json") c.toJson.pretty).run w).2

/-- Loading options reads a file at most. -/
theorem generatorOptions_run (settings : Settings) (w : W) :
    ((Settings.generatorOptions s.storage settings).run w).2 = w ∨
      ∃ path, ((Settings.generatorOptions s.storage settings).run w).2 =
        ((s.storage.read path).run w).2 := by
  rw [Settings.generatorOptions]
  cases settings.indexedFile with
  | none => exact .inl rfl
  | some path =>
    refine .inr ⟨path, ?_⟩
    simp only [Config.loadIndexedIds, StateT.run_bind]
    cases (s.storage.read path).run w with
    | mk answer w' => cases answer <;> rfl

section Loading

variable (settings : Settings)

theorem generatorOptions_keeps (h_keeps : s.Keeps text? folder) (w : W) :
    text? ((Settings.generatorOptions s.storage settings).run w).2 = text? w := by
  rcases generatorOptions_run settings w with h_w | ⟨path, h_w⟩
  · rw [h_w]
  · rw [h_w, h_keeps.read]

theorem generatorOptions_staysWritable (h_w : s.StaysWritable folder w) :
    s.StaysWritable folder ((Settings.generatorOptions s.storage settings).run w).2 := by
  rcases generatorOptions_run settings w with h_eq | ⟨path, h_eq⟩
  · rwa [h_eq]
  · rw [h_eq]
    exact h_w.read path

end Loading

/-- **Runs report truthfully, once they have options.** Take a run that gets its folder, whose
artifacts can be written from then on. If the options that its settings ask for can be loaded, then
it leaves a report, which says that it was completed exactly if it has a result, and what was wrong
otherwise; and the table is there if it was completed. If they cannot be loaded, then the run ends
with this fault, and there is no other report than there was before. -/
theorem perform_truthful (c : Config) (settings : Settings) (o : RunOptions) (tag : RunTag)
    {w w₁ : W} (h_keeps : s.Keeps text? (folderOf o tag))
    (h_made : (s.storage.makeFolder (folderOf o tag)).run w = (.ok (), w₁))
    (h_writable : s.StaysWritable (folderOf o tag) w₁) :
    (∀ options, (optionsOf s (folderOf o tag) c settings w₁).1 = .ok options →
      Truthful text? (folderOf o tag) (upshot (perform s c settings o tag) w).1
        (upshot (perform s c settings o tag) w).2) ∧
    ∀ fault, (optionsOf s (folderOf o tag) c settings w₁).1 = .error fault →
      (upshot (perform s c settings o tag) w).1 = .error (.config fault) ∧
      text? (upshot (perform s c settings o tag) w).2
          (FilePath.join (folderOf o tag) "generation_report.json") =
        text? w₁ (FilePath.join (folderOf o tag) "generation_report.json") := by
  obtain ⟨w₂, h_write, h_w₂⟩ :=
    h_writable.write "resolved_config.json" c.toJson.pretty (by decide)
  have h_options : optionsOf s (folderOf o tag) c settings w₁ =
      (Settings.generatorOptions s.storage settings).run w₂ := by rw [optionsOf, h_write]
  have h_keeps₃ := generatorOptions_keeps settings h_keeps w₂
  have h_w₃ := generatorOptions_staysWritable settings h_w₂
  rw [upshot_perform, h_made]
  dsimp only
  rw [h_write, h_options]
  dsimp only
  cases h_run : (Settings.generatorOptions s.storage settings).run w₂ with
  | mk answer w₃ =>
    rw [h_run] at h_keeps₃ h_w₃
    cases answer with
    | ok options =>
      exact ⟨fun _ _ => generateIn_truthful h_keeps h_w₃ c options o.mode tag,
        fun _ h => by cases h⟩
    | error fault =>
      refine ⟨fun _ h => (by cases h), fun fault' h_fault => ?_⟩
      obtain rfl := Except.error.inj h_fault
      -- the configuration is another file, and loading has only read
      have h_others := h_keeps.others "resolved_config.json" "generation_report.json"
        c.toJson.pretty w₁ (by decide) (by decide) (by decide)
      rw [h_write] at h_others
      exact ⟨rfl, (congrFun h_keeps₃ _).trans h_others⟩

/-- Settings that name a list of ids which is not there. -/
def missingIds : Settings := { indexedFile := some "ids.txt" }

/-- This run has a result, so that its report says that it was completed. -/
theorem perform_truthful_firstRun :
    Files.surroundings.Keeps Files.text? (folderOf oneDataSet firstRun) ∧
    (Files.storage.makeFolder (folderOf oneDataSet firstRun)).run noFiles = (.ok (), runFolder) ∧
    Files.surroundings.StaysWritable (folderOf oneDataSet firstRun) runFolder ∧
    (∃ options, (optionsOf Files.surroundings (folderOf oneDataSet firstRun) label {}
      runFolder).1 = .ok options) ∧
    (upshot (perform Files.surroundings label {} oneDataSet firstRun) noFiles).1.toOption.isSome ∧
    Truthful Files.text? (folderOf oneDataSet firstRun)
      (upshot (perform Files.surroundings label {} oneDataSet firstRun) noFiles).1
      (upshot (perform Files.surroundings label {} oneDataSet firstRun) noFiles).2 := by
  have h_options : ∃ options, (optionsOf Files.surroundings (folderOf oneDataSet firstRun) label {}
      runFolder).1 = .ok options := ⟨_, rfl⟩
  obtain ⟨options, h_loaded⟩ := h_options
  have h_keeps := Files.keeps siblings_firstRun
  exact ⟨h_keeps, makeFolder_firstRun, staysWritable_firstRun, ⟨options, h_loaded⟩,
    by decide +kernel, (perform_truthful label {} oneDataSet firstRun h_keeps makeFolder_firstRun
      staysWritable_firstRun).1 options h_loaded⟩

/-- A run that has its folder, where all artifacts can be written, ends with a fault and leaves no
report. -/
theorem perform_unreported :
    (Files.storage.makeFolder (folderOf oneDataSet firstRun)).run noFiles = (.ok (), runFolder) ∧
    Files.surroundings.StaysWritable (folderOf oneDataSet firstRun) runFolder ∧
    (∃ fault,
      (upshot (perform Files.surroundings label missingIds oneDataSet firstRun) noFiles).1 =
        .error fault) ∧
    Files.text? (upshot (perform Files.surroundings label missingIds oneDataSet firstRun) noFiles).2
      (FilePath.join (folderOf oneDataSet firstRun) "generation_report.json") = none := by
  refine ⟨makeFolder_firstRun, staysWritable_firstRun, ?_, by decide +kernel⟩
  have h_none : (upshot (perform Files.surroundings label missingIds oneDataSet firstRun)
      noFiles).1.toOption.isNone = true := by decide +kernel
  cases h :
    (upshot (perform Files.surroundings label missingIds oneDataSet firstRun) noFiles).1 with
  | error fault => exact ⟨fault, rfl⟩
  | ok done => rw [h] at h_none; cases h_none

end Specimen.Run
