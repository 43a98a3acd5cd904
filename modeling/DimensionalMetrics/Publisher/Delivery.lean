import DimensionalMetrics.Notice
import DimensionalMetrics.Registry
import DimensionalMetrics.Wire.Payload

/-!
# Deliveries

To publish is to measure all meters and to send what is worth it, in payloads of limited size, one
after the other.  A payload that does not reach the backend is reported and not sent again, and the
ones after it are sent all the same.

A registry may ask a predicate before it publishes; a tick at which the predicate says no leaves the
meters alone.
-/

namespace DimensionalMetrics

/-- What the predicate of a registry says. -/
inductive Permission where
  | granted
  | refused
  /-- The predicate itself fails. -/
  | broken (reason : String)
deriving DecidableEq

/-- What came of a request. -/
inductive Outcome where
  | accepted
  | failed (cause : Error)
deriving DecidableEq

/-- One request to the backend. -/
structure Call where
  uri : String
  timeout : Duration
  payload : Payload
deriving DecidableEq

/-- What can be seen of a publisher from outside. -/
inductive Event where
  | notice (n : Notice)
  | call (c : Call)
deriving DecidableEq

/-- A sweep on its way to the backend: the payloads that are still to be answered, and how many
records have arrived, of how many. -/
structure Delivery where
  uri : String
  timeout : Duration
  waiting : List Payload
  sent : Nat
  total : Nat
deriving DecidableEq

namespace Delivery

def records (config : Config) (ms : List Measurement) : List Record :=
  (ms.filter Measurement.isWorthSending).map (Record.ofMeasurement config.commonTags)

/-- The delivery of a sweep, of which nothing is sent yet. -/
def ofMeasurements (config : Config) (ms : List Measurement) : Delivery where
  uri := config.uri
  timeout := config.timeout
  waiting := batches config.batchSize (records config ms)
  sent := 0
  total := (records config ms).length

def call (d : Delivery) (payload : Payload) : Call := ⟨d.uri, d.timeout, payload⟩

/-- The delivery after the first waiting payload was answered. -/
def settle (d : Delivery) (payload : Payload) (rest : List Payload) : Outcome → Delivery
  | .accepted => { d with waiting := rest, sent := d.sent + payload.size }
  | .failed _ => { d with waiting := rest }

/-- What is said when a payload was answered. -/
def remarks (d : Delivery) (payload : Payload) : Outcome → List Notice
  | .accepted => []
  | .failed cause => [.failed payload.size d.uri cause]

def summary (d : Delivery) : Notice := .published d.sent d.total

/-- A whole delivery, under the answers that the backend will give to one payload after the other.
If the answers run out it is abandoned while it waits for the next one. -/
def run (d : Delivery) : List Outcome → List Event
  | [] =>
    match d.waiting with
    | [] => [.notice d.summary]
    | payload :: _ => [.call (d.call payload)]
  | outcome :: outcomes =>
    match d.waiting with
    | [] => [.notice d.summary]
    | payload :: rest =>
      .call (d.call payload) :: ((d.remarks payload outcome).map .notice ++
        (d.settle payload rest outcome).run outcomes)

end Delivery

/-- What a registry does when it is asked to publish, up to the first request. -/
inductive Beginning where
  /-- Nothing is to be sent. -/
  | idle
  /-- The predicate failed. -/
  | crashed (reason : String)
  /-- Payloads are to be sent. -/
  | sending (d : Delivery)
deriving DecidableEq

namespace Registry

/-- Measures all meters, and reports it. -/
def measureAll (r : Registry) (o : r.Order) : Registry × List Notice × List Measurement :=
  let swept := r.sweepAlong o
  (swept.1, [.swept r.meters.length swept.2.length], swept.2)

/-- The part of publishing that a permission leads to. -/
def publishFreely (r : Registry) (o : r.Order) : Registry × List Notice × Beginning :=
  let (r', notices, ms) := r.measureAll o
  if r.config.uri = "" then (r', notices ++ [.dropped ms.length], .idle)
  else (r', notices, .sending (.ofMeasurements r.config ms))

/-- Begins to publish.  Without a predicate there is always permission. -/
def beginPublish (r : Registry) (o : r.Order) (permission : Option Permission) :
    Registry × List Notice × Beginning :=
  match permission.getD .granted with
  | .granted => r.publishFreely o
  | .refused => (r, [.disabled], .idle)
  | .broken reason => (r, [], .crashed reason)

/-- Publishes, under the answers that the backend will give. -/
def publishAlong (r : Registry) (o : r.Order) (permission : Option Permission)
    (outcomes : List Outcome) : Registry × List Event :=
  let (r, notices, beginning) := r.beginPublish o permission
  (r, notices.map .notice ++
    match beginning with
    | .sending d => d.run outcomes
    | .idle | .crashed _ => [])

def publish (r : Registry) (permission : Option Permission) (outcomes : List Outcome) :
    Registry × List Event :=
  r.publishAlong r.ownOrder permission outcomes

end Registry

end DimensionalMetrics
