import Specimen.Command.Arguments
import Specimen.LogFilter
import Specimen.Run.Artifacts

/-!
# Running commands

A command reads and writes files through its surroundings and answers what it prints, what
it logs and whether it succeeded. Events of the log go to the log file if there is one, which
is opened before anything else, and are handed back otherwise.
-/

namespace Specimen.Command

/-- What came of a command. -/
structure Outcome where
  output : List String
  /-- What is printed as diagnostics. -/
  errors : List String
  /-- The events that are shown and do not go to a file. -/
  log : List LogEvent
  /-- Why the command failed, if it did. -/
  failure : Option String
  deriving Inhabited

namespace Outcome

/-- The outcome of a command that prints some lines. -/
def printed (lines : List String) : Outcome := ⟨lines, [], [], none⟩

/-- The outcome of a command that failed. -/
def failed (message : String) : Outcome := ⟨[], [], [], some message⟩

/-- What the program answers to its caller. -/
def exitCode (o : Outcome) : Nat := if o.failure.isSome then 1 else 0

end Outcome

/-- The code for arguments that do not fit. -/
def usageCode : Nat := 2

/-! ### Settings -/

/-- Settings with the options of a command in their place. -/
def RunArguments.override (a : RunArguments) (s : Settings) : Settings where
  configFile := a.config.getD s.configFile
  indexedFile := s.indexedFile
  ignoreOptional := s.ignoreOptional || a.ignoreOptional
  testMode := s.testMode || a.testMode
  seed := a.seed.or s.seed

/-! ### Events -/

/-- An event of the command itself. -/
def event (level : LogLevel) (fields : List (String × Json)) : LogEvent :=
  ⟨level, "casegen", fields⟩

/-- The event of a warning about a configuration. -/
def warningEvent (i : Config.Issue) : LogEvent :=
  event .warn [("message", .string i.message), ("code", .string i.code), ("path", .string i.path)]

/-- The event that a configuration was loaded. -/
def loadedEvent (path : String) (c : Config) : LogEvent :=
  event .info [("event", .string "config_loaded"), ("path", .string path),
    ("constraints", .nat c.constraints.length)]

/-- The event that a run was completed. -/
def finishedEvent (duration : UInt64) : LogEvent :=
  event .info [("event", .string "run_finished"), ("status", .string "success"),
    ("duration_ms", Config.word64ToJson duration)]

/-- An event as a line of a log file. -/
def logLine (now : String) (e : LogEvent) : String :=
  match e.toJson with
  | .object es => (Json.object (("timestamp", .string now) :: es)).compact ++ "\n"
  | j => j.compact ++ "\n"

variable {m : Type → Type} [Monad m] (s : Surroundings m)

/-- Adds events to the log file, or hands them back if there is none. -/
def writeLog (file : Option String) (events : List LogEvent) : m (List LogEvent) := do
  match file with
  | none => return events
  | some path =>
    let now ← s.now
    let _ ← s.storage.append path (String.join (events.map (logLine now)))
    return []

/-! ### Commands -/

/-- Generates with settings that have been resolved. Answers what is printed, or why it
failed, and what happened. -/
def generateWith (settings : Settings) (o : RunOptions) (tag : RunTag) :
    m (Outcome × List LogEvent) := do
  match ← Config.load s.storage settings.configFile with
  | .error fault => return (.failed ("config error: " ++ fault.message), [])
  | .ok v =>
    let before := v.warnings.map warningEvent ++ [loadedEvent settings.configFile v.config]
    let run ← Run.perform s v.config settings o tag
    let events := before ++ run.log
    match run.result with
    | .error fault => return (.failed ("generation error: " ++ fault.message), events)
    | .ok result =>
      return (.printed ["run_dir=" ++ result.folder,
          "data_sets=" ++ toString result.report.dataSets.toNat],
        events ++ [finishedEvent (← s.elapsed)])

/-- Generates: resolves the settings and opens the log. -/
def runGenerate (a : RunArguments) (mode : RunMode) (filter : LogFilter) (tag : RunTag) :
    m Outcome := do
  let opened ← match a.logFile with
    | some path => s.storage.append path ""
    | none => pure (.ok ())
  match opened with
  | .error fault => return .failed ("io error: " ++ fault.message)
  | .ok _ =>
    let loaded ← match a.settings with
      | some path => Config.loadSettings s.storage path
      | none => pure (.ok {})
    match loaded with
    | .error fault => return .failed ("config error: " ++ fault.message)
    | .ok settings =>
      let settings := RunArguments.override a settings
      let (outcome, events) ← generateWith s settings ⟨a.folder, mode⟩ tag
      return { outcome with log := ← writeLog s a.logFile (events.filter filter.shows) }

/-- An error of a configuration as it is printed, with its hint. -/
def issueLines (i : Config.Issue) : List String :=
  ("error: " ++ i.text) :: (i.hint.map ("  hint: " ++ ·)).toList

/-- Validates a configuration. -/
def runValidate (path : String) : m Outcome := do
  match ← Config.load s.storage path with
  | .ok v =>
    let count := toString v.config.constraints.length
    return { Outcome.printed ["ok: " ++ count ++ " constraints (" ++ path ++ ")"] with
      errors := v.warnings.map fun i => "warning: " ++ i.text }
  | .error fault =>
    let errors := match fault with
      | .invalid report => report.errors.flatMap issueLines
      | _ => []
    return { Outcome.failed ("config error: " ++ fault.message) with errors := errors }

/-- Prints the schema of configurations, or writes it to a file. -/
def runSchema : Option String → m Outcome
  | none => return .printed [Config.schema.pretty]
  | some path => do
    match ← s.storage.write path Config.schema.pretty with
    | .ok _ => return .printed []
    | .error fault => return .failed ("io error: " ++ fault.message)

/-- The name and version of the program. -/
def versionText : String := "casegen 0.1.0"

/-- Runs a command. -/
def run (filter : LogFilter) (tag : RunTag) : Command → m Outcome
  | generate arguments mode => runGenerate s arguments mode filter tag
  | validate config => runValidate s config
  | schema file => runSchema s file
  | version => return .printed [versionText]

end Specimen.Command
