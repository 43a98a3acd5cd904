import DimensionalMetrics.Json.Value
import DimensionalMetrics.Registry
import DimensionalMetrics.Wire.Record

/-!
# Snapshots

What a sweep finds, arranged by the names of the meters, for those who come to fetch it.  Every
value has the tags of its record, but for the name, and the time in milliseconds at which its meter
was measured.
-/

namespace DimensionalMetrics

/-- A value with its tags and time. -/
structure TaggedValue where
  tags : Tags
  value : Binary64
  millis : Nat
deriving DecidableEq

/-- What all meters of one name report.  If they are of several kinds, the first one decides. -/
structure MetricSnapshot where
  kind : Kind
  values : List TaggedValue
deriving DecidableEq

/-- Metrics by name, in increasing order of names. -/
abbrev Snapshot := List (String × MetricSnapshot)

namespace Snapshot

def add (name : String) (kind : Kind) (values : List TaggedValue) : Snapshot → Snapshot
  | [] => [(name, ⟨kind, values⟩)]
  | (n, s) :: rest =>
    if name < n then (name, ⟨kind, values⟩) :: (n, s) :: rest
    else if n < name then (n, s) :: add name kind values rest
    else (n, { s with values := s.values ++ values }) :: rest

/-- The snapshot with what one meter reports.  A meter without values leaves no trace. -/
def addMeter (common : Tags) (millis : Nat) (s : Snapshot) (m : Meter) : Snapshot :=
  let values := m.measurements.map fun x => ⟨x.statisticTags common, x.value, millis⟩
  if values = [] then s else s.add m.id.name m.kind values

/-! ### JSON -/

def tagJson (t : Tag) : Json := .obj [("key", .str t.1), ("value", .str t.2)]

def valueJson (v : TaggedValue) : Json :=
  .obj [("tags", .arr (v.tags.toList.map tagJson)),
    ("values", .arr [.obj [("v", .real v.value), ("t", .nat v.millis)]])]

def metricJson (m : MetricSnapshot) : Json :=
  .obj [("kind", .str m.kind.name), ("values", .arr (m.values.map valueJson))]

def toJson (s : Snapshot) : Json := .obj (s.map fun (name, m) => (name, metricJson m))

end Snapshot

namespace Registry

/-- A sweep for a snapshot.  The time is read anew for each meter; `clock` tells what it is then. -/
def exportAlong (r : Registry) (o : r.Order) (clock : Id → Nat) : Registry × Snapshot :=
  visit (fun s m => s.addMeter r.config.commonTags (clock m.id) m) o.positions (r, [])

def snapshot (r : Registry) (clock : Id → Nat) : Registry × Snapshot :=
  r.exportAlong r.ownOrder clock

end Registry

end DimensionalMetrics
