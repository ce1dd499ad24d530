import Specimen.Calendar.Date
import Specimen.Command.Run

/-!
# The program

The outermost layer: files, time, random bytes and the three streams. Everything that is
decided is decided in `Specimen.Command`.
-/

namespace Specimen.Main

/-- Why a file could not be used. -/
def fileFault : IO.Error → FileFault
  | .noFileOrDirectory .. => .missing
  | .alreadyExists .. => .taken
  | .inappropriateType _ code _ => if code = 21 then .folder else .noFolder
  | e => .other (toString e)

/-- The answer of an action on files, or why there is none. -/
def guardFile {α : Type} (act : IO α) : IO (Except FileFault α) := do
  match ← act.toBaseIO with
  | .ok a => return .ok a
  | .error e => return .error (fileFault e)

/-- Adds a text to the end of a file. -/
def appendFile (path text : String) : IO Unit := do
  let h ← IO.FS.Handle.mk path .append
  h.putStr text

/-- The files of the machine. -/
def storage : Storage IO where
  read path := guardFile (IO.FS.readFile path)
  write path text := guardFile (IO.FS.writeFile path text)
  append path text := guardFile (appendFile path text)
  makeFolder path := guardFile (IO.FS.createDirAll path)

/-- The seconds since the beginning of 1970, by the time of a file that was just made. -/
def seconds : IO Int := do
  let (_, path) ← IO.FS.createTempFile
  let made := (← path.metadata).modified.sec
  IO.FS.removeFile path
  return made

/-- The day number of the first day of 1970. -/
def epoch : Int := Civil.number ⟨1970, 1, 1⟩

/-- A time as text, with a separator between its parts. -/
def timeText (separator : String) (seconds : Int) : String :=
  let day := Civil.ofNumber (epoch + seconds / 86400)
  let rest := (seconds % 86400).toNat
  let two (n : Nat) : String := Date.padded 2 n
  toString day.year ++ "-" ++ two day.month.toNat ++ "-" ++ two day.day.toNat ++ "T" ++
    separator.intercalate [two (rest / 3600), two (rest / 60 % 60), two (rest % 60)] ++ "Z"

/-- A random identifier: 32 hexadecimal digits in five groups, with the marks of its kind. -/
def freshId : IO String := do
  let bytes := (← IO.getRandomBytes 16).toList.map UInt8.toNat
  let digits := bytes.zipIdx.flatMap fun (b, i) =>
    let b := if i = 6 then b % 16 + 64 else if i = 8 then b % 64 + 128 else b
    [Nat.digitChar (b / 16), Nat.digitChar (b % 16)]
  let group (start length : Nat) : String := String.ofList ((digits.drop start).take length)
  return "-".intercalate [group 0 8, group 8 4, group 12 4, group 16 4, group 20 12]

/-- A random number. -/
def freshSeed : IO UInt64 := do
  return (← IO.getRandomBytes 8).toList.foldl (fun n b => 256 * n + b.toUInt64) 0

/-- What a run takes from the machine. -/
def surroundings (started : Nat) : Surroundings IO where
  storage := storage
  elapsed := return UInt64.ofNat ((← IO.monoMsNow) - started)
  now := return timeText ":" (← seconds)

/-- The name and seed of a new run. -/
def freshTag : IO RunTag := do
  let id ← freshId
  let folder := timeText "-" (← seconds) ++ "__run_" ++ id
  return ⟨id, folder, ← freshSeed⟩

/-- An event as a line of diagnostics. -/
def eventLine (e : LogEvent) : String :=
  e.level.name ++ " " ++ e.target ++ ": " ++
    " ".intercalate (e.fields.map fun (name, value) => name ++ "=" ++ value.compact)

/-- How the program is called. -/
def usage : String := "usage: (generate | cases | validate | schema) [options]"

/-- Runs the command that the arguments ask for. -/
def run (arguments : List String) : IO UInt32 := do
  let started ← IO.monoMsNow
  match Command.parse arguments with
  | none =>
    IO.eprintln usage
    return UInt32.ofNat Command.usageCode
  | some command =>
    let filter := ((← IO.getEnv "LOG").bind LogFilter.parse).getD .standard
    let o ← Command.run (surroundings started) filter (← freshTag) command
    for e in o.log do IO.eprintln (eventLine e)
    for line in o.errors do IO.eprintln line
    for line in o.output do IO.println line
    if let some message := o.failure then IO.eprintln ("Error: " ++ message)
    return UInt32.ofNat o.exitCode

end Specimen.Main

/-- The program. -/
def main (arguments : List String) : IO UInt32 := Specimen.Main.run arguments
