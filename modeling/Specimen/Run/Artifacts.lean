import Specimen.Csv
import Specimen.Run.Attempt
import Specimen.Run.Load

/-!
# Artifacts of runs

A run makes a folder of its own and leaves in it the configuration that it used, the table of
its data sets, and its report. The report is written last, whether the run was completed or
not, and says which of the two it was. Only when the list of indexed ids cannot be loaded
does the run end before it has anything to report.
-/

namespace Specimen

/-- What a run is known by. -/
structure RunTag where
  id : String
  /-- The name of its folder. -/
  folder : String
  /-- The seed to take when there is no other. -/
  random : UInt64
  deriving Inhabited

/-- What a run takes from its surroundings. -/
structure Surroundings (m : Type → Type) where
  storage : Storage m
  /-- The milliseconds since the program was started. -/
  elapsed : m UInt64
  /-- The time, as it is logged. -/
  now : m String

/-- What a completed run hands over. -/
structure RunResult where
  folder : String
  report : RunReport
  dataSets : List DataSet

/-- What came of a run, and what happened meanwhile. -/
structure RunOutcome where
  result : Except RunFault RunResult
  log : List LogEvent

namespace Run

/-- An event of a run. -/
def event (level : LogLevel) (tag : RunTag) (message : String) (fields : List (String × Json)) :
    LogEvent :=
  .said level "casegen_engine::engine" message (("run_id", .string tag.id) :: fields)

/-- The fault of a failure, and how the report words it. -/
def faultOf : Failure → RunFault × String
  | .fault fault => (.generation fault, fault.message)
  | .crash crash => (.failed, "panic: " ++ crash.message)
  | .tooDeep => (.failed, "panic: requests nest too deep")

/-- The event that a run failed. -/
def failureEvent (tag : RunTag) : Failure → LogEvent
  | .fault fault => event .warn tag "generation failed" [("error", .string fault.message)]
  | _ => event .warn tag "generation panicked" []

variable {m : Type → Type} [Monad m] (s : Surroundings m)

/-- Writes a report. Answers the given result if that worked. -/
def writeReport (folder : String) (r : RunReport) (result : Except RunFault RunResult) :
    m (Except RunFault RunResult) := do
  match ← s.storage.write (FilePath.join folder "generation_report.json") r.toJson.pretty with
  | .ok _ => return result
  | .error fault => return .error (.file fault.message)

/-- Ends a run that failed. -/
def finishFailed (folder : String) (r : RunReport) (text : String) (fault : RunFault)
    (log : List LogEvent) (last : LogEvent) : m RunOutcome := do
  let r := { r with duration := ← s.elapsed }
  match ← writeReport s folder (r.failed text) (.error fault) with
  | .error (.file text) => return ⟨.error (.file text), log⟩
  | result => return ⟨result, log ++ [last]⟩

/-- Ends a run that has its data sets: writes the table, then the report. -/
def finish (tag : RunTag) (folder : String) (columns : List String) (ds : List DataSet)
    (r : RunReport) (tokens : Nat) (log : List LogEvent) : m RunOutcome := do
  let table := Csv.table columns ds
  match ← s.storage.write (FilePath.join folder "data_sets.csv") table with
  | .error fault =>
    let fault := RunFault.table fault.message
    finishFailed s folder r fault.message fault log
      (event .warn tag "generation failed" [("error", .string fault.message)])
  | .ok _ =>
    let r := { r with
      bytesWritten := UInt64.ofNat (saturated table.utf8ByteSize)
      dataSets := UInt64.ofNat ds.length
      tokensIssued := Int64.ofNat tokens
      duration := ← s.elapsed }.completed
    match ← writeReport s folder r (.ok ⟨folder, r, ds⟩) with
    | .error fault => return ⟨.error fault, log⟩
    | result => return ⟨result, log ++ [event .info tag "generation completed" [
        ("data_sets", .nat ds.length), ("duration_ms", Config.word64ToJson r.duration),
        ("bytes_written", Config.word64ToJson r.bytesWritten)]]⟩

/-- Generates in a folder that has been made. -/
def generateIn (folder : String) (c : Config) (o : GeneratorOptions) (mode : RunMode)
    (tag : RunTag) : m RunOutcome := do
  let started := event .info tag "generation started" [
    ("constraints", .nat c.constraints.length), ("mode", .string mode.text)]
  let a := Attempt.run c o mode tag.random (.begun tag.id mode c.fingerprint)
  let log := started :: a.log
  match a.outcome with
  | .ok (columns, ds) => finish s tag folder columns ds a.report a.tokens log
  | .error failure =>
    let (fault, text) := faultOf failure
    finishFailed s folder a.report text fault log (failureEvent tag failure)

/-- Runs a configuration and leaves the artifacts in a folder of the run's own. -/
def perform (c : Config) (settings : Settings) (o : RunOptions) (tag : RunTag) :
    m RunOutcome := do
  let folder := FilePath.join o.folder tag.folder
  match ← s.storage.makeFolder folder with
  | .error fault => return ⟨.error (.file fault.message), []⟩
  | .ok _ =>
    let path := FilePath.join folder "resolved_config.json"
    match ← s.storage.write path c.toJson.pretty with
    | .error fault => return ⟨.error (.file fault.message), []⟩
    | .ok _ =>
      match ← Settings.generatorOptions s.storage settings with
      | .error fault => return ⟨.error (.config fault), []⟩
      | .ok options => generateIn s folder c options o.mode tag

end Run

end Specimen
