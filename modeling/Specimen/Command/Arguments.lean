import Specimen.Run.Mode

/-!
# Arguments

The first argument names a command and the others are options of it. An option has two
hyphens and a name; if it takes a value, that follows in the next argument or behind an
equals sign. No option may be given twice. `Command.parse` answers the command, or nothing if
the arguments do not fit.
-/

namespace Specimen

/-- The options of commands that generate. -/
structure RunArguments where
  config : Option String := none
  settings : Option String := none
  seed : Option UInt64 := none
  ignoreOptional : Bool := false
  testMode : Bool := false
  folder : String := "runs"
  logFile : Option String := none
  deriving DecidableEq, Repr, Inhabited

/-- What the program is asked to do. -/
inductive Command where
  | generate (arguments : RunArguments) (mode : RunMode)
  | validate (config : String)
  | schema (file : Option String)
  | version
  deriving DecidableEq, Repr, Inhabited

namespace Command

/-! ### Options -/

/-- Options as they were given: names with their values; options without a value have an
empty one. -/
abbrev Given := List (String × String)

/-- True for arguments that may be the value of the option before them. -/
def isValue (s : String) : Bool := !(s.startsWith "-" && s != "-")

/-- An argument split at the first equals sign, if it has one. -/
def splitArgument (s : String) : String × Option String :=
  match s.splitOn "=" with
  | name :: value@(_ :: _) => (name, some ("=".intercalate value))
  | _ => (s, none)

/-- The options among arguments, given which names take a value and which do not. -/
def options (valued flags : List String) : List String → Given → Option Given
  | [], done => some done
  | ["--"], done => some done
  | argument :: rest, done =>
    let (name, value) := splitArgument argument
    if (done.lookup name).isSome then none
    else if valued.contains name then
      match value with
      | some value => options valued flags rest ((name, value) :: done)
      | none =>
        match rest with
        | value :: rest =>
          if isValue value then options valued flags rest ((name, value) :: done) else none
        | [] => none
    else if flags.contains name then
      match value with
      | some _ => none
      | none => options valued flags rest ((name, "") :: done)
    else none

/-! ### Values -/

/-- The value of an option, read in some way; no value if the option was not given. -/
def read {α : Type} (given : Given) (name : String) (reader : String → Option α) :
    Option (Option α) :=
  match given.lookup name with
  | none => some none
  | some value => (reader value).map some

/-- A path, which must not be empty. -/
def path (s : String) : Option String := if s.isEmpty then none else some s

/-- An unsigned integer of 64 bits, in decimal digits and perhaps behind a plus sign. -/
def word64 (s : String) : Option UInt64 :=
  let digits := match s.toList with
    | '+' :: cs => cs
    | cs => cs
  if digits.isEmpty || !digits.all Char.isDigit then none
  else
    let n := digits.foldl (fun n c => 10 * n + (c.toNat - 48)) 0
    if n < 0x1_0000_0000_0000_0000 then some (UInt64.ofNat n) else none

/-- A case by its name. -/
def fieldCase (s : String) : Option FieldCase := (FieldCase.parse s).toOption

/-! ### Commands -/

/-- Options with a value of all commands that generate. -/
def runValued : List String := ["--config", "--settings", "--seed", "--out-dir", "--log-file"]

/-- Options without a value of all commands that generate. -/
def runFlags : List String := ["--ignore-optional", "--test-mode"]

/-- The options that all commands that generate have. -/
def runArguments (given : Given) : Option RunArguments := do
  return {
    config := ← read given "--config" path
    settings := ← read given "--settings" path
    seed := ← read given "--seed" word64
    ignoreOptional := (given.lookup "--ignore-optional").isSome
    testMode := (given.lookup "--test-mode").isSome
    folder := (← read given "--out-dir" path).getD ({} : RunArguments).folder
    logFile := ← read given "--log-file" path }

/-- The command that arguments ask for. -/
def parse : List String → Option Command
  | "generate" :: rest => do
    let given ← options ("--data-sets" :: "--case" :: runValued) runFlags rest []
    let arguments ← runArguments given
    let dataSets := (← read given "--data-sets" word64).getD 10
    let fieldCase := (← read given "--case" fieldCase).getD .normal
    return generate arguments (.random dataSets fieldCase)
  | "cases" :: rest => do
    let given ← options ("--limit" :: runValued) runFlags rest []
    let arguments ← runArguments given
    return generate arguments (.cases ((← read given "--limit" word64).getD 1000))
  | "validate" :: rest => do
    let given ← options ["--config"] [] rest []
    return validate (← (← read given "--config" path))
  | "schema" :: rest => do
    let given ← options ["--out"] [] rest []
    return schema (← read given "--out" path)
  | "--version" :: _ | "-V" :: _ => some version
  | _ => none

end Command

end Specimen
