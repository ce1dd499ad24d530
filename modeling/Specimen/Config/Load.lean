import Specimen.Config.Validation
import Specimen.Settings
import Specimen.Storage

/-!
# Loading files

Configurations, settings and lists of ids are loaded from files through a `Storage`. What
can go wrong on the way is a `LoadFault`.
-/

namespace Specimen.Config

/-- Why something could not be loaded. -/
inductive LoadFault where
  /-- The text is not a document. -/
  | document (text : String) (fault : ReadFault)
  /-- The text is not a settings file. -/
  | settings
  | file (message : String)
  /-- The document is not a valid configuration. -/
  | invalid (report : Report)

namespace LoadFault

/-- The wording of a fault. -/
def message : LoadFault → String
  | document text fault => "json error: " ++ fault.message text
  | settings => "toml error: invalid settings"
  | file message => "io error: " ++ message
  | invalid report => "invalid configuration: " ++ report.summary

end LoadFault

/-- The configuration of a text. -/
def parse (text : String) : Except LoadFault Validated := do
  match Json.parse text with
  | .error fault => throw (.document text fault)
  | .ok j => (validate schema.canonical j.canonical).mapError .invalid

variable {m : Type → Type} [Monad m] (storage : Storage m)

/-- Loads a configuration. -/
def load (path : String) : m (Except LoadFault Validated) := do
  match ← storage.read path with
  | .error fault => return .error (.file fault.message)
  | .ok text => return parse text

/-- Loads settings. The paths in them are meant from where their file stands. -/
def loadSettings (path : String) : m (Except LoadFault Settings) := do
  match ← storage.read path with
  | .error fault => return .error (.file fault.message)
  | .ok text =>
    match Settings.parse text with
    | some s => return .ok (s.placedAt path)
    | none => return .error .settings

/-- Loads a list of ids. -/
def loadIndexedIds (path : String) : m (Except LoadFault NameSet) := do
  match ← storage.read path with
  | .error fault =>
    return .error (.file ("failed to read indexed fields " ++ path ++ ": " ++ fault.message))
  | .ok text => return .ok (Settings.indexedIds text)

end Specimen.Config
