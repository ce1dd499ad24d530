import Specimen.Calendar.Format
import Specimen.CharacterSet
import Specimen.Config.Survey
import Specimen.Json.Basic
import Specimen.Regex.Meaning

/-!
# Checking configurations

A configuration is fit for use when its version is supported, its character sets have
characters, every id is well formed and declared once, every id and character set that is
mentioned exists, every field has a range, and no constraint depends on itself. `Config.check`
reports each violation at its path: first those of the configuration as a whole, then those
of the constraints in the order in which they are written, then ids that are mentioned but
not declared, and last a cycle.

An issue says what is wrong, or at least suspicious, at a path of a configuration. A report
holds the issues that make a configuration unusable and those that do not, each in the
order in which they were found.
-/

namespace Specimen.Config

/-! ### Issues -/

/-- Something about a configuration that its author should know. -/
structure Issue where
  code : String
  path : String
  message : String
  hint : Option String
  deriving DecidableEq, Repr, Inhabited

namespace Issue

/-- An issue without a hint. -/
def plain (code path message : String) : Issue := ⟨code, path, message, none⟩

/-- The issue on one line. -/
def text (i : Issue) : String := "[" ++ i.code ++ "] " ++ i.path ++ ": " ++ i.message

end Issue

/-- Errors and warnings, in the order of discovery. -/
structure Report where
  errors : List Issue
  warnings : List Issue
  deriving DecidableEq, Repr, Inhabited

namespace Report

/-- The report without issues. -/
def empty : Report := ⟨[], []⟩

/-- A report of one error. -/
def ofError (i : Issue) : Report := ⟨[i], []⟩

/-- True when there is no error. -/
def isOk (r : Report) : Bool := r.errors.isEmpty

/-- The report with one more error. -/
def addError (r : Report) (i : Issue) : Report := { r with errors := r.errors ++ [i] }

/-- The report with one more warning. -/
def addWarning (r : Report) (i : Issue) : Report := { r with warnings := r.warnings ++ [i] }

/-- The issues of two reports. -/
def append (r s : Report) : Report := ⟨r.errors ++ s.errors, r.warnings ++ s.warnings⟩

/-- True when an issue has a code. -/
def hasCode (r : Report) (code : String) : Bool :=
  (r.errors ++ r.warnings).any fun i => i.code = code

/-- All errors on one line. -/
def summary (r : Report) : String := "; ".intercalate (r.errors.map Issue.text)

end Report

/-! ### Ids -/

/-- True for characters that an id may have. -/
def isIdCharacter (first : Bool) (c : Char) : Bool :=
  c.isAlphanum || c = '_' || (!first && (c = '.' || c = '-'))

/-- True for well-formed ids: letters, digits and underscores, and points and hyphens but
not at the front. -/
def isValidId (id : String) : Bool :=
  match id.toList with
  | [] => false
  | c :: cs => isIdCharacter true c && cs.all (isIdCharacter false)

/-- The issues of the declaration of an id, given the path at which it was declared
before. -/
def idIssues (path id : String) (earlier : Option String) : List Issue :=
  (if isValidId id then []
    else [.plain "invalid_id" (path ++ "/id")
      ("id '" ++ id ++ "' contains unsupported characters")]) ++
  match earlier with
  | some first => [.plain "duplicate_id" (path ++ "/id")
      ("id '" ++ id ++ "' is already declared at " ++ first)]
  | none => []

/-! ### Character sets -/

/-- The issue of a character set that is neither built in nor declared. -/
def charsetIssues (declared : Dict String) (path : String) : Option String → List Issue
  | none => []
  | some charset =>
    if CharacterSets.isBuiltin charset || declared.contains charset then []
    else [⟨"unknown_charset", path ++ "/charset",
      "character set '" ++ charset ++ "' is not defined",
      some "declare it under charsets or use a built-in set"⟩]

/-- The issues of declared character sets. -/
def declarationIssues (declared : Dict String) : List Issue :=
  declared.entries.filterMap fun e =>
    match CharacterSet.ofString? e.1 e.2 with
    | .ok _ => none
    | .error fault => some (.plain "invalid_charset" ("/charsets/" ++ e.1) fault.message)

/-! ### Fields -/

/-- An issue of a field. -/
def fieldIssue (path message : String) : Issue := .plain "invalid_field" path message

/-- A date of a field, or the issue that it is none. -/
def checkedDate (path text : String) : Option Date × List Issue :=
  match Date.parse text with
  | .ok d => (some d, [])
  | .error fault =>
    (none, [fieldIssue path ("invalid date '" ++ text ++ "': " ++ fault.message)])

/-- The issue of a format of dates that cannot be read. -/
def formatIssues (path : String) : Option String → List Issue
  | none => []
  | some format =>
    match DateFormat.parse format with
    | some _ => []
    | none => [fieldIssue (path ++ "/format") ("invalid date format '" ++ format ++ "'")]

/-- The issues of a field. -/
def fieldIssues (path : String) : FieldSpec → List Issue
  | .text low high =>
    if low.toNat ≤ high.toNat then []
    else [fieldIssue path ("text min_len " ++ toString low.toNat ++ " must be <= max_len " ++
      toString high.toNat)]
  | .number low high =>
    if low.toInt ≤ high.toInt then []
    else [fieldIssue path ("number min " ++ toString low.toInt ++ " must be <= max " ++
      toString high.toInt)]
  | .date low high format =>
    let (first, lowIssues) := checkedDate (path ++ "/min") low
    let (last, highIssues) := checkedDate (path ++ "/max") high
    let order := match first, last with
      | some first, some last =>
        if first.number ≤ last.number then []
        else [fieldIssue path ("date min " ++ low ++ " must be <= max " ++ high)]
      | _, _ => []
    lowIssues ++ highIssues ++ order ++ formatIssues path format
  | .choice values =>
    if values.isEmpty then
      [fieldIssue (path ++ "/values") "choice requires at least one value"]
    else []
  | .pattern expression _ =>
    match Regex.Form.parse expression with
    | .ok _ => []
    | .error fault =>
      [fieldIssue (path ++ "/pattern") ("invalid pattern: " ++ fault.message expression)]

/-- The issues of what generates the values of a constraint, its parts apart. -/
def Kind.issues (path : String) : Kind → List Issue
  | .field spec => fieldIssues (path ++ "/field") spec
  | .combined [] _ =>
    [.plain "parts_empty" (path ++ "/parts") "combined constraint requires at least one part"]
  | _ => []

/-! ### Constraints -/

/-- The issues of mentions, given the ids declared before them. -/
def mentionIssues (charsets : Dict String) : Dict String → List Mention → List Issue
  | _, [] => []
  | seen, .unnamed path kindName :: ms =>
    ⟨"missing_id", path, "top-level " ++ kindName ++ " constraint has no id",
      some "every top-level constraint needs an id"⟩ :: mentionIssues charsets seen ms
  | seen, .constraint path _ id charset kind :: ms =>
    let own := charsetIssues charsets path charset ++ kind.issues path
    match id with
    | some id =>
      let earlier := seen.get? id
      let seen := if earlier.isSome then seen else seen.insert id path
      idIssues path id earlier ++ own ++ mentionIssues charsets seen ms
    | none => own ++ mentionIssues charsets seen ms
  | seen, .reference .. :: ms => mentionIssues charsets seen ms

/-- The issues of ids that are mentioned but not declared. -/
def referenceIssues (declared : Dict String) (ms : List Mention) : List Issue :=
  (ms.filterMap Mention.referred?).filterMap fun (id, path) =>
    if declared.contains id then none
    else some ⟨"unknown_reference", path, "reference to undeclared id '" ++ id ++ "'",
      some "declare the referenced constraint with that id"⟩

/-- The issue of ids that depend on themselves. -/
def cycleIssues (d : Dependencies) : List Issue :=
  match d.outcome with
  | .order _ => []
  | .cycle ids => [⟨"reference_cycle", "/constraints",
      "constraints reference each other in a cycle: " ++ ", ".intercalate ids,
      some "break the cycle by embedding or removing one of the references"⟩]

/-- The issue of a version that is not supported. -/
def versionIssues (version : String) : List Issue :=
  if version = supportedVersion then []
  else [⟨"config_version_mismatch", "/config_version",
    "config_version '" ++ version ++ "' is not supported (expected '" ++ supportedVersion ++ "')",
    some ("set config_version to \"" ++ supportedVersion ++ "\"")⟩]

/-- The issues of a configuration. -/
def check (c : Config) : Report where
  errors :=
    versionIssues c.version ++ declarationIssues c.charsets ++
      mentionIssues c.charsets .empty c.mentions ++
      referenceIssues c.declarations c.mentions ++ cycleIssues c.dependencies
  warnings :=
    if c.constraints.isEmpty then
      [.plain "constraints_empty" "/constraints" "configuration declares no constraints"]
    else []

end Specimen.Config
