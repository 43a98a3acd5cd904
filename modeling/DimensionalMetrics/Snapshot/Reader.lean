import DimensionalMetrics.Json.Reader
import DimensionalMetrics.Snapshot

/-!
# Reading snapshots

The snapshot that a JSON text writes, for those who fetched it.  Every member of every object has to
be there, in order, and every value has to be a number.
-/

namespace DimensionalMetrics

namespace Snapshot

def kindOfName? (name : String) : Option Kind :=
  [Kind.counter, .gauge, .timer, .distributionSummary].find? (·.name = name)

def readTag? : Json → Option Tag
  | .obj [("key", .str key), ("value", .str value)] => some (key, value)
  | _ => none

def readValue? : Json → Option TaggedValue
  | .obj [("tags", .arr tags), ("values", .arr [.obj [("v", .real value), ("t", .nat millis)]])] =>
    (tags.mapM readTag?).map fun ts => ⟨.ofList ts, value, millis⟩
  | _ => none

def readMetric? : Json → Option MetricSnapshot
  | .obj [("kind", .str kind), ("values", .arr values)] => do
    return ⟨← kindOfName? kind, ← values.mapM readValue?⟩
  | _ => none

def ofJson? : Json → Option Snapshot
  | .obj members => members.mapM fun (name, j) => (readMetric? j).map fun m => (name, m)
  | _ => none

def read? (s : String) : Option Snapshot := (Json.read? s).bind ofJson?

end Snapshot

end DimensionalMetrics
