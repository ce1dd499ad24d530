import Specimen.Config.Load
import Specimen.Generator

/-!
# Loading generators

Settings say which configuration a generator is built from and which ids are indexed. Both are
loaded from files; what goes wrong there is told apart from what goes wrong with nodes.
-/

namespace Specimen

/-- Why a run has no result. -/
inductive RunFault where
  | generation (fault : Fault)
  | config (fault : Config.LoadFault)
  | file (message : String)
  | table (message : String)
  /-- The program broke off while it generated. -/
  | failed

namespace RunFault

/-- The wording of a fault. -/
def message : RunFault → String
  | generation fault => fault.message
  | config fault => "config error: " ++ fault.message
  | file text => "io error: " ++ text
  | table text => "csv error: " ++ text
  | failed => "generation failed"

end RunFault

variable {m : Type → Type} [Monad m] (storage : Storage m)

/-- Loads how a generator generates from settings. -/
def Settings.generatorOptions (s : Settings) : m (Except Config.LoadFault GeneratorOptions) := do
  let options (indexed : NameSet) : GeneratorOptions := {
    seed := s.seed
    ignoreOptional := s.ignoreOptional
    testMode := s.testMode
    indexed := indexed }
  match s.indexedFile with
  | none => return .ok (options .empty)
  | some path => return (← Config.loadIndexedIds storage path).map options

/-- Loads the generator that settings ask for. -/
def Generator.load (s : Settings) (random : UInt64) : m (Except RunFault Generator) := do
  match ← Config.load storage s.configFile with
  | .error fault => return .error (.config fault)
  | .ok v =>
    match ← Settings.generatorOptions storage s with
    | .error fault => return .error (.config fault)
    | .ok options => return (Generator.ofConfig v.config options random).mapError .generation

end Specimen
