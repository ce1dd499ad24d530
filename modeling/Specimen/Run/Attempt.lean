import Specimen.Generator
import Specimen.Run.Report

/-!
# Attempts

An attempt is a run without its files: it builds the generator of a configuration, counts
its cases and generates data sets, and fills in the report as far as it gets. What it has
found out stays in the report when it fails later on.
-/

namespace Specimen

/-- What came of a run before its results are written. -/
structure Attempt where
  /-- The columns of the table and the data sets. -/
  outcome : Except Failure (List String × List DataSet)
  report : RunReport
  /-- How many tokens were handed out. -/
  tokens : Nat
  log : List LogEvent

namespace Attempt

/-- The size of a data set in memory, as far as room for many of them is concerned. -/
def dataSetSize : Nat := 48

/-- The most room that can be asked for. -/
def roomLimit : Nat := 0x7fff_ffff_ffff_ffff

/-- Generates the data sets of a run, and finds out whether cases are left that the limit
did not admit. -/
def dataSets (g : Generator) : RunMode → Eval (List DataSet × Bool)
  | .random n c => do
    if roomLimit < n.toNat * dataSetSize then throw (.crash .capacity)
    return (← g.generateMany c n.toNat [], false)
  | .cases limit => do
    let ds ← g.enumerate limit.toNat
    return (ds, ← g.hasNextCase)

/-- The report of a generator that was built. -/
def withGenerator (r : RunReport) (g : Generator) : RunReport :=
  { r with
    seed := g.seed
    constraints := UInt64.ofNat g.graph.nodes.size
    roots := UInt64.ofNat g.roots.length }

/-- The report with a warning for every id that is indexed but is no root. -/
def withStray (r : RunReport) (g : Generator) : RunReport :=
  g.strayIndexed.foldl (fun r id =>
    r.warn (.warning "indexed_field_not_root" "indexed field is not a top-level constraint"
      (some id))) r

/-- The warning that cases are left. -/
def limitWarning (mode : RunMode) : Notice :=
  let limit := match mode with
    | .random n _ => n
    | .cases limit => limit
  .warning "case_limit_reached"
    ("case enumeration stopped after " ++ toString limit.toNat ++ " data sets") none

/-- How often each column is null, the columns without any left out. -/
def countNulls (columns : List String) (ds : List DataSet) : Dict UInt64 :=
  ds.foldl (fun counts d => columns.foldl (fun counts id =>
    if (d.value id).isNone then counts.insert id ((counts.get? id).getD 0 + 1) else counts)
    counts) .empty

/-- Attempts a run that has just begun. -/
def run (c : Config) (o : GeneratorOptions) (mode : RunMode) (random : UInt64) (r : RunReport) :
    Attempt :=
  match Generator.ofConfig c o random with
  | .error fault => ⟨.error (.fault fault), r, 0, []⟩
  | .ok g =>
    let r := withGenerator r g
    match g.countCases.run g.freshMemory with
    | (.error failure, m) => ⟨.error failure, r, m.tokens, g.builtEvents ++ m.log.reverse⟩
    | (.ok cases, m) =>
      let r := withStray { r with casesCounted := UInt64.ofNat cases } g
      match (dataSets g mode).run m with
      | (.error failure, m) => ⟨.error failure, r, m.tokens, g.builtEvents ++ m.log.reverse⟩
      | (.ok (ds, left), m) =>
        let r := if left then r.warn (limitWarning mode) else r
        let r := { r with nullValues := countNulls g.roots ds }
        ⟨.ok (g.roots, ds), r, m.tokens, g.builtEvents ++ m.log.reverse⟩

end Attempt

end Specimen
