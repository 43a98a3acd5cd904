import DimensionalMetrics.Simulation.Transcript
import DimensionalMetrics.Simulation.World

/-!
# Sessions

A session is a run of steps in a world of its own.  Each step has a reply and a transcript of what
it caused.
-/

namespace DimensionalMetrics

namespace Simulation

/-- What a session is set up with. -/
structure Setup where
  config : Config
  /-- The answer of the predicate; `none` if the registry has no predicate. -/
  permission : Option Permission
  /-- The initial time of the clock that is set by hand. -/
  nanos : UInt64
  /-- Whether the registry goes by that clock. -/
  followsManual : Bool
  /-- Whether there is a log. -/
  logged : Bool
  backend : Backend

/-- How a meter is asked for: with an error, or with a failure, if it is of another kind. -/
inductive Access where
  | tried
  | demanded
deriving DecidableEq

/-- One step of a session. -/
inductive Step where
  /-- Get a meter, and tell its identity. -/
  | get (id : Id) (access : Access) (kind : Kind)
  /-- Get a meter, update it, and look at it. -/
  | update (id : Id) (access : Access) (u : Update)
  /-- Time a procedure that moves the clock, and returns a text. -/
  | time (id : Id) (access : Access) (advance : Option Duration) (set : Option UInt64)
      (returns : String) (withTotal : Bool)
  | measure (id : Id)
  | measurements
  | meters
  | describe
  | export
  | publish
  | start (canSpawn : Bool)
  | stop
  | abandonStop
  | stopTwice
  | running
  | sleep (millis : Nat)
  | permit (permission : Permission)
  | script (answers : List Answer)
  | setClock (nanos : UInt64)
  | advanceClock (span : Duration)
  | watchClock
  /-- Several threads get and update one meter many times, and the meter is measured if there is
  one. -/
  | contend (id : Id) (u : Update) (threads rounds : Nat)

/-- The reply to a step. -/
inductive Reply where
  | nothing
  | text (s : String)
  | view (v : Cell.View)
  | timed (returned : String) (count : UInt64) (total : Option UInt64)
  | measured (ms : Option (List Measurement))
  | swept (ms : List Measurement)
  | meters (ms : List Meter)
  | described (registry : String) (meters : List String)
  | running (b : Bool)
  | waits (b : Bool)
  | met (m : World.Meeting)
  | clock (nanos : UInt64)
  | monotonic
  | contended (meters : Nat) (sums : List Nat)
  | refused (e : Error)
  | crashed (reason : String)

/-- A session under way. -/
structure Session where
  world : World
  nanos : UInt64
  followsManual : Bool
  logged : Bool

namespace Session

/-- The instant at which sessions begin; clocks run since long before. -/
def epoch : Nat := 1000000 * 1000000000

/-- The session of a set-up, if its configuration can be used. -/
def make (s : Setup) : Except Error Session := do
  let registry ← Registry.make s.config
  return {
    world := {
      registry
      permission := s.permission
      backend := s.backend
      now := epoch
      publisher := .new
      events := #[] }
    nanos := s.nanos
    followsManual := s.followsManual
    logged := s.logged }

/-- The time by which the registry goes. -/
def time (s : Session) : UInt64 := if s.followsManual then s.nanos else 0

def refuse (access : Access) (e : Error) : Reply :=
  match access with
  | .tried => .refused e
  | .demanded => .crashed e.message

def withRegistry (s : Session) (registry : Registry) : Session :=
  { s with world := { s.world with registry } }

def sortedMeters (ms : List Meter) : List Meter :=
  ms.mergeSort fun a b => (a.id.compare b.id).isLE

def sortedMeasurements (ms : List Measurement) : List Measurement :=
  ms.mergeSort fun a b => (a.id.compare b.id).isLE

/-- The time that passed between two readings of a clock; none if it went back. -/
def elapsed (start stop : UInt64) : Duration :=
  let nanos := stop.toNat - start.toNat
  ⟨UInt64.ofNat (nanos / 1000000000), ⟨nanos % 1000000000, Nat.mod_lt _ (by decide)⟩⟩

/-- Gets a meter, updates it, and makes a reply of what it shows then. -/
def touch (s : Session) (id : Id) (access : Access) (u : Update) (reply : Cell.View → Reply) :
    Session × Reply :=
  match s.world.registry.apply id u with
  | (r, .error e) => (s.withRegistry r, refuse access e)
  | (r, .ok v) => (s.withRegistry r, reply v)

/-- Times a procedure that moves the clock. -/
def timeProcedure (s : Session) (id : Id) (access : Access) (advance : Option Duration)
    (set : Option UInt64) (returns : String) (withTotal : Bool) : Session × Reply :=
  match s.world.registry.register id .timer with
  | (r, .error e) => (s.withRegistry r, refuse access e)
  | (r, .ok _) =>
    let start := s.time
    let nanos := s.nanos + (advance.map fun d => UInt64.ofNat d.nanos).getD 0
    let s := { s.withRegistry r with nanos := set.getD nanos }
    s.touch id access (.recordTime (elapsed start s.time)) fun
      | .totals count total => .timed returns count (if withTotal then some total else none)
      | v => .view v

/-- The registry after an update was made again and again, or the error at the first time. -/
def repeatUpdate (id : Id) (u : Update) : Nat → Registry → Registry × Option Error
  | 0, r => (r, none)
  | rounds + 1, r =>
    match r.apply id u with
    | (r, .error e) => (r, some e)
    | (r, .ok _) => repeatUpdate id u rounds r

/-- Lets threads get and update a meter again and again, and measures it. -/
def contend (s : Session) (id : Id) (u : Update) (threads rounds : Nat) : Session × Reply :=
  match repeatUpdate id u (threads * rounds) s.world.registry with
  | (r, some e) => (s.withRegistry r, .refused e)
  | (r, none) =>
    let (r, ms) := r.measure id
    let values := (ms.getD []).map fun (m : Measurement) => m.value.truncated
    let sums := (values ++ [0, 0, 0]).take 3
    (s.withRegistry r, .contended r.meters.length sums)

def perform (s : Session) : Step → Session × Reply
  | .get id access kind => s.touch id access (.touch kind) fun _ => .text id.text
  | .update id access u => s.touch id access u .view
  | .time id access advance set returns withTotal =>
    s.timeProcedure id access advance set returns withTotal
  | .measure id =>
    let (r, ms) := s.world.registry.measure id
    (s.withRegistry r, .measured ms)
  | .measurements =>
    let (r, notices, ms) := s.world.registry.measureAll s.world.registry.ownOrder
    let s := s.withRegistry r
    ({ s with world := s.world.say notices }, .swept (sortedMeasurements ms))
  | .meters => (s, .meters (sortedMeters s.world.registry.meters))
  | .describe =>
    let r := s.world.registry
    (s, .described (r.describe s.world.permission.isSome)
      ((sortedMeters r.meters).map Meter.describe))
  | .export =>
    let (r, snapshot) := s.world.registry.snapshot fun _ => s.time.toNat / 1000000
    (s.withRegistry r, .text (showSnapshot r.meters snapshot).toJson.text)
  | .publish =>
    match s.world.publishNow with
    | (w, none) => ({ s with world := w }, .nothing)
    | (w, some reason) => ({ s with world := w }, .crashed reason)
  | .start canSpawn =>
    match s.world.start canSpawn with
    | (w, none) => ({ s with world := w }, .nothing)
    | (w, some e) => ({ s with world := w }, .refused e)
  | .stop => ({ s with world := s.world.stop }, .nothing)
  | .abandonStop =>
    let (w, waits) := s.world.abandonStop
    ({ s with world := w }, .waits waits)
  | .stopTwice =>
    let (w, meeting) := s.world.stopTwice
    ({ s with world := w }, .met meeting)
  | .running => (s, .running s.world.publisher.isRunning)
  | .sleep millis =>
    ({ s with world := s.world.advanceTo (s.world.now + millis * millisecond) }, .nothing)
  | .permit permission =>
    let w := { s.world with permission := s.world.permission.map fun _ => permission }
    ({ s with world := w }, .nothing)
  | .script answers =>
    let backend := match s.world.backend with
      | .scripted _ => .scripted answers
      | .web => .web
    ({ s with world := { s.world with backend } }, .nothing)
  | .setClock nanos => ({ s with nanos }, .clock nanos)
  | .advanceClock d =>
    let s := { s with nanos := s.nanos + UInt64.ofNat d.nanos }
    (s, .clock s.time)
  | .watchClock => (s, .monotonic)
  | .contend id u threads rounds => s.contend id u threads rounds

/-- Carries out one step and tells what it caused. -/
def step (s : Session) (step : Step) : Session × Reply × List Line :=
  let (s, reply) := s.perform step
  let r := s.world.registry
  let lines := Transcript.ofEvents s.logged (1 < r.meters.length) r.config.batchSize
    s.world.events.toList
  ({ s with world := { s.world with events := #[] } }, reply, lines)

def run (s : Session) : List Step → List (Reply × List Line)
  | [] => []
  | first :: rest =>
    let (s, reply, lines) := s.step first
    (reply, lines) :: s.run rest

end Session

end Simulation

end DimensionalMetrics
