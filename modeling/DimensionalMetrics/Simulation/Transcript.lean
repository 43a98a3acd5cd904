import DimensionalMetrics.Number.Text
import DimensionalMetrics.Publisher.Delivery
import DimensionalMetrics.Snapshot

/-!
# Transcripts

What one step of a session shows of the events that it caused.  A registry may visit its meters in
any order, and what depends on that order is not shown: as soon as there is more than one meter,
records stand in an order of their own, and so do payloads of one record each; of other payloads
only the records of all of them together are shown.  The requests that are taken together are those
between two sweeps.
-/

namespace DimensionalMetrics

namespace Simulation

/-- A record as a transcript shows it: tags, code of the combination, text of the value. -/
structure ShownRecord where
  tags : List Tag
  code : Nat
  value : String
deriving DecidableEq

/-- What a transcript shows of what a request carries. -/
inductive Content where
  /-- The text of its payload. -/
  | body (text : String)
  /-- The records of all payloads of the sweep. -/
  | merged (records : List ShownRecord)
  | hidden
deriving DecidableEq

/-- One line of a transcript. -/
inductive Line where
  | log (level text : String)
  | request (uri : String) (timeout : Nat) (count : Nat) (content : Content)
deriving DecidableEq

namespace Transcript

/-! ### Order of records -/

/-- The tags of an indexed record, with their strings. -/
def shownTags (strings : Array String) (r : IndexedRecord) : List Tag :=
  r.tags.map fun (k, v) => (strings.getD k.toNat "", strings.getD v.toNat "")

def shown (strings : Array String) (r : IndexedRecord) : ShownRecord :=
  ⟨shownTags strings r, r.combination.code, String.ofList (Json.realChars r.value)⟩

/-- Records in order of tags, then of combinations, then of texts. -/
def compareShown (a b : ShownRecord) : Ordering :=
  (compareTags a.tags b.tags).then ((compare a.code b.code).then (compare a.value b.value))

def sortPayload (p : Payload) : Payload :=
  { p with records := p.records.mergeSort fun a b =>
      (compareShown (shown p.strings a) (shown p.strings b)).isLE }

def mergePayloads (ps : List Payload) : List ShownRecord :=
  (ps.flatMap fun p => p.records.map (shown p.strings)).mergeSort fun a b =>
    (compareShown a b).isLE

/-! ### Contents -/

/-- What is shown of the payloads between two sweeps, one content for each. -/
def contents (manyMeters : Bool) (batchSize : Nat) (ps : List Payload) : List Content :=
  if !manyMeters then ps.map fun p => .body p.text
  else
    match ps with
    | [] => []
    | [p] => [.body (sortPayload p).text]
    | ps =>
      if batchSize = 1 then ((ps.map Payload.text).mergeSort stringLe).map .body
      else List.replicate (ps.length - 1) .hidden ++ [.merged (mergePayloads ps)]

/-- The payloads of a list of events, in groups that sweeps divide.  The first group is that of the
requests before the first sweep. -/
def groups : List Event → List (List Payload)
  | [] => [[]]
  | .notice (.swept _ _) :: rest => [] :: groups rest
  | .notice _ :: rest => groups rest
  | .call c :: rest =>
    match groups rest with
    | [] => [[c.payload]]
    | first :: more => (c.payload :: first) :: more

/-- The lines of events whose requests carry the given contents, in turn. -/
def lines : List Event → List Content → List Line
  | [], _ => []
  | .notice n :: rest, contents => .log n.level.name n.text :: lines rest contents
  | .call c :: rest, [] => .request c.uri c.timeout.nanos c.payload.size .hidden :: lines rest []
  | .call c :: rest, content :: contents =>
    .request c.uri c.timeout.nanos c.payload.size content :: lines rest contents

/-- The transcript of the events of one step.  A session without a log shows requests only. -/
def ofEvents (logged manyMeters : Bool) (batchSize : Nat) (events : List Event) : List Line :=
  let events := if logged then events else events.filter fun
    | .call _ => true
    | .notice _ => false
  lines events ((groups events).flatMap (contents manyMeters batchSize))

end Transcript

/-! ### Snapshots -/

/-- The kinds in the order in which they are preferred. -/
def kindOrder : List Kind := [.counter, .gauge, .timer, .distributionSummary]

/-- Values in order of tags, then of numbers. -/
def valueLe (a b : TaggedValue) : Bool :=
  ((compareTags a.tags.toList b.tags.toList).then
    (compare a.value.orderKey b.value.orderKey)).isLE

/-- A snapshot as a session shows it.  Where several meters share a name, the order in which they
were visited does not show: their values stand in order, and the first kind of all of them is
taken. -/
def showSnapshot (meters : List Meter) (s : Snapshot) : Snapshot :=
  s.map fun (name, metric) =>
    let sharing := meters.filter (·.id.name = name)
    if sharing.length ≤ 1 then (name, metric)
    else
      let kind := (kindOrder.find? fun k => sharing.any (·.kind = k)).getD metric.kind
      (name, ⟨kind, metric.values.mergeSort valueLe⟩)

end Simulation

end DimensionalMetrics
