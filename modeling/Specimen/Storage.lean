import Specimen.Dict
import Specimen.FilePath

/-!
# Files

The program reads and writes text files through a `Storage`, which says how this is done in
some monad. `Files` is a tree of text files kept as a value; `Files.storage` reads and writes
in it, so that a run can be followed without any real file.

A path is walked from the root of the tree. Each step has to start in a folder, and what
is missing, no folder, or a folder where a file is expected is told apart.
-/

namespace Specimen

/-- Why a file cannot be used. -/
inductive FileFault where
  | missing
  | taken
  | noFolder
  | folder
  | other (message : String)
  deriving DecidableEq, Repr

/-- The wording of a fault. -/
def FileFault.message : FileFault → String
  | missing => "No such file or directory (os error 2)"
  | taken => "File exists (os error 17)"
  | noFolder => "Not a directory (os error 20)"
  | folder => "Is a directory (os error 21)"
  | other message => message

/-- How files are read and written. -/
structure Storage (m : Type → Type) where
  /-- The text of a file. -/
  read : String → m (Except FileFault String)
  /-- Makes a text the contents of a file. -/
  write : String → String → m (Except FileFault Unit)
  /-- Adds a text to the end of a file, which need not exist. -/
  append : String → String → m (Except FileFault Unit)
  /-- Makes a folder and those above it. -/
  makeFolder : String → m (Except FileFault Unit)

/-- A tree of files: texts and folders by their steps from the root, joined by slashes. -/
structure Files where
  texts : Dict String
  folders : NameSet
  deriving Inhabited

namespace Files

/-- What stands at a place of the tree. -/
inductive Entry where
  | text (contents : String)
  | folder
  | nothing
  deriving DecidableEq, Repr

/-- The name of a place. -/
def name (place : List String) : String := "/".intercalate place

/-- What stands at a place. A folder is there when it was made or something is in it. -/
def entry (f : Files) (place : List String) : Entry :=
  let key := name place
  match f.texts.get? key with
  | some contents => .text contents
  | none =>
    let below := key ++ "/"
    if key.isEmpty || f.folders.contains key || f.texts.keys.any (·.startsWith below) ||
        f.folders.keys.any (·.startsWith below) then .folder
    else .nothing

/-- The place that steps lead to. -/
def walk (f : Files) : List String → List String → Except FileFault (List String)
  | place, [] => .ok place
  | place, step :: steps =>
    match f.entry place with
    | .nothing => .error .missing
    | .text _ => .error .noFolder
    | .folder =>
      if FilePath.isIdle step then f.walk place steps
      else if step = ".." then
        if place.isEmpty then .error .missing else f.walk place.dropLast steps
      else f.walk (place ++ [step]) steps

/-- The place that a path leads to. What lies outside the tree is missing. -/
def locate (f : Files) (p : String) : Except FileFault (List String) :=
  if p.isEmpty || FilePath.isAbsolute p then .error .missing else f.walk [] (FilePath.steps p)

/-- The text of a file. -/
def read (f : Files) (p : String) : Except FileFault String := do
  match f.entry (← f.locate p) with
  | .text contents => return contents
  | .folder => throw .folder
  | .nothing => throw .missing

/-- The tree with a file changed, given what becomes of its text; a file that is missing
has none. -/
def update (f : Files) (p : String) (change : Option String → String) : Except FileFault Files := do
  let place ← f.locate p
  let put (old : Option String) : Files :=
    { f with texts := f.texts.insert (name place) (change old) }
  match f.entry place with
  | .text contents => return put (some contents)
  | .folder => throw .folder
  | .nothing => return put none

/-- The tree with the folders that steps lead through. -/
def addFolders (f : Files) : List String → List String → Except FileFault Files
  | _, [] => .ok f
  | place, step :: steps =>
    if FilePath.isIdle step then f.addFolders place steps
    else if step = ".." then f.addFolders place.dropLast steps
    else
      let next := place ++ [step]
      match f.entry next with
      | .text _ => .error (if steps.all FilePath.isIdle then .taken else .noFolder)
      | .folder => f.addFolders next steps
      | .nothing => addFolders { f with folders := f.folders.insert (name next) () } next steps

/-- The tree with a folder and those above it. -/
def makeFolder (f : Files) (p : String) : Except FileFault Files :=
  if FilePath.isAbsolute p then .error .missing else f.addFolders [] (FilePath.steps p)

/-- Replaces the tree if the new one could be made. -/
def put (made : Except FileFault Files) : StateM Files (Except FileFault Unit) := do
  match made with
  | .ok f =>
    set f
    return .ok ()
  | .error fault => return .error fault

/-- Reading and writing in a tree of files. -/
def storage : Storage (StateM Files) where
  read p := return (← get).read p
  write p text := do put ((← get).update p fun _ => text)
  append p text := do put ((← get).update p fun old => old.getD "" ++ text)
  makeFolder p := do put ((← get).makeFolder p)

/-- The tree of files with paths that lead down only. -/
def ofTexts (texts : List (String × String)) : Files :=
  ⟨Dict.ofList (texts.map fun (p, text) =>
    (name ((FilePath.steps p).filter fun step => !FilePath.isIdle step), text)), .empty⟩

end Files

end Specimen
