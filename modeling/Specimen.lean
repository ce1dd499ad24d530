import Specimen.Main
import Specimen.Proofs.Dependencies.Report
import Specimen.Proofs.Generator.Boundary
import Specimen.Proofs.Generator.Starvation
import Specimen.Proofs.Generator.Stability
import Specimen.Proofs.Generator.Coverage
import Specimen.Proofs.Generator.Resets
import Specimen.Proofs.Generator.Indexing
import Specimen.Proofs.Generator.Presence
import Specimen.Proofs.Generator.Nulling
import Specimen.Proofs.Graph.Validated
import Specimen.Proofs.Node.Depth
import Specimen.Proofs.Generator.Depth
import Specimen.Proofs.Config.Agreement
import Specimen.Proofs.Json.Arrangement
import Specimen.Proofs.Config.Written
import Specimen.Proofs.Config.Restored
import Specimen.Proofs.Config.RoundTrip
import Specimen.Proofs.Generator.Consistency
import Specimen.Proofs.Generator.Circles
import Specimen.Proofs.Generator.Blanking
import Specimen.Proofs.Generator.Limit
import Specimen.Proofs.Generator.Overrides
import Specimen.Proofs.Generator.Lasting
import Specimen.Proofs.Generator.Heeding
import Specimen.Proofs.Generator.Bound
import Specimen.Proofs.Generator.Pinned
import Specimen.Proofs.Config.Fields
import Specimen.Proofs.Field.Domain
import Specimen.Proofs.Run.Reports
import Specimen.Proofs.Run.Artifacts
import Specimen.Proofs.Generator.Failing
import Specimen.Proofs.Generator.Containing
import Specimen.Proofs.Node.Producing
import Specimen.Proofs.Generator.Fairness
import Specimen.Proofs.Settings
import Specimen.Proofs.Config.Locating
import Specimen.Proofs.Generator.Saturation
import Specimen.Proofs.Generator.Charsets
import Specimen.Proofs.Field.Boundaries
