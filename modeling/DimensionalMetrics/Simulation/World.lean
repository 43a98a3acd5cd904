import DimensionalMetrics.Publisher.Delivery
import DimensionalMetrics.Publisher.Lifecycle
import DimensionalMetrics.Publisher.Ticker

/-!
# A registry under virtual time

A world holds a registry, its publisher, and all that they depend on: a clock that moves only when
everybody waits, a backend that answers by a script, and the predicate that permits publishing.
What happens in it is a list of events.

The task of a publisher moves in small steps.  `step?` is one of them, and has no answer when the
task has to wait; `wake` is the instant at which it can then go on.  A task that was asked to end
does so at its next step, whatever it was waiting for.
-/

namespace DimensionalMetrics

namespace Simulation

/-- What the backend makes of a request. -/
inductive Verdict where
  | outcome (o : Outcome)
  /-- The request does not come back: whoever waits for it fails. -/
  | crash (reason : String)
deriving DecidableEq

/-- An answer of the backend and how many milliseconds it takes. -/
structure Answer where
  delay : Nat
  verdict : Verdict
deriving DecidableEq

/-- Where requests go. -/
inductive Backend where
  /-- Answers in turn, and accepts everything once they are used up. -/
  | scripted (answers : List Answer)
  /-- A client that speaks HTTP to nobody. -/
  | web
deriving DecidableEq

/-- A request under way: when it will be answered and how, and the delivery whose first waiting
payload it carries. -/
structure Flight where
  arrival : Nat
  verdict : Verdict
  delivery : Delivery
deriving DecidableEq

/-- How far a publish has come. -/
inductive Progress where
  | finished
  | crashed (reason : String)
  | flying (f : Flight)
deriving DecidableEq

/-- What the task of a publisher is doing. -/
inductive Work where
  /-- It was spawned, and has not run yet. -/
  | arming
  /-- It waits for the next tick. -/
  | waiting (t : Ticker)
  /-- It publishes, and waits for an answer. -/
  | publishing (t : Ticker) (f : Flight)
deriving DecidableEq

/-- When a task can go on. -/
def Work.wake : Work → Nat
  | arming => 0
  | waiting t => t.due
  | publishing _ f => f.arrival

/-- Everything that a registry depends on. -/
structure World where
  registry : Registry
  permission : Option Permission
  backend : Backend
  now : Nat
  publisher : Lifecycle Work
  /-- What happened, the latest last. -/
  events : Array Event

namespace World

/-- The world in which something was said. -/
def say (w : World) (notices : List Notice) : World :=
  { w with events := w.events ++ notices.map Event.notice }

/-! ### Publishing -/

/-- The error of a client that speaks only HTTP, and finds nobody who does. -/
def refusal (uri : String) : Error :=
  match Uri.read uri with
  | .error fault => .transport ("builder error: " ++ fault.message)
  | .ok u =>
    let shown := u.withoutCredentials.text
    if u.isWeb then .transport ("error sending request for url (" ++ shown ++ ")")
    else .transport ("builder error for url (" ++ shown ++ ")")

/-- Hands a request to the backend. -/
def send (w : World) (c : Call) : World × Answer :=
  match w.backend with
  | .web => (w, ⟨0, .outcome (.failed (refusal c.uri))⟩)
  | .scripted answers =>
    ({ w with backend := .scripted answers.tail, events := w.events.push (.call c) },
      answers.head?.getD ⟨0, .outcome .accepted⟩)

/-- Sends the waiting payloads of a delivery until an answer takes time. -/
def pursue (w : World) (d : Delivery) : World × Progress :=
  match _waiting : d.waiting with
  | [] => (w.say [d.summary], .finished)
  | payload :: rest =>
    let (w, answer) := w.send (d.call payload)
    if answer.delay = 0 then
      match answer.verdict with
      | .crash reason => (w, .crashed reason)
      | .outcome o => (w.say (d.remarks payload o)).pursue (d.settle payload rest o)
    else (w, .flying ⟨w.now + answer.delay * millisecond, answer.verdict, d⟩)
termination_by d.waiting.length
decreasing_by
  rw [_waiting]
  cases o <;> exact Nat.lt_succ_self _

/-- What a request under way leads to when it is answered. -/
def land (w : World) (f : Flight) : World × Progress :=
  match f.delivery.waiting, f.verdict with
  | _, .crash reason => (w, .crashed reason)
  | [], .outcome _ => w.pursue f.delivery
  | payload :: rest, .outcome o =>
    (w.say (f.delivery.remarks payload o)).pursue (f.delivery.settle payload rest o)

def publish (w : World) : World × Progress :=
  let (registry, notices, beginning) := w.registry.beginPublish w.registry.ownOrder w.permission
  let w := { w with registry }.say notices
  match beginning with
  | .idle => (w, .finished)
  | .crashed reason => (w, .crashed reason)
  | .sending d => w.pursue d

/-! ### The task -/

/-- The message with which a task fails whose next tick is beyond the clock. -/
def overflow : String := "overflow when adding duration to instant"

/-- What a task does after a publish that has come so far. -/
def phaseAfter (t : Ticker) : Progress → Phase Work
  | .finished => .alive (.waiting t)
  | .crashed reason => .ended (.crashed reason)
  | .flying f => .alive (.publishing t f)

/-- What a task does with its first ticker, which it does not get if the first tick is beyond the
clock. -/
def armed : Option Ticker → Phase Work
  | none => .ended (.crashed overflow)
  | some t => .alive (.waiting t)

/-- What a task does at a tick, after which it does not get a ticker if the next tick is beyond the
clock. -/
def tick (w : World) : Option Ticker → World × Phase Work
  | none => (w, .ended (.crashed overflow))
  | some t => (w.publish.1, phaseAfter t w.publish.2)

/-- One step of a task, unless it has to wait. -/
def step? (w : World) (cancelled : Bool) : Work → Option (World × Phase Work)
  | .arming => some (w, armed (Ticker.start? w.now w.registry.config.frequency))
  | .waiting t =>
    if cancelled then some (w, .ended .finished)
    else if w.now < t.due then none
    else some (w.tick (t.next? w.now))
  | .publishing t f =>
    if cancelled then some (w, .ended .finished)
    else if w.now < f.arrival then none
    else some ((w.land f).1, phaseAfter t (w.land f).2)

/-! ### Time -/

/-- Lets time pass up to an instant.  `fuel` bounds the number of steps and waits. -/
def runUntil (fuel : Nat) (limit : Nat) (w : World) : World :=
  match fuel with
  | 0 => { w with now := max w.now limit }
  | fuel + 1 =>
    match w.publisher.living? with
    | none => { w with now := max w.now limit }
    | some (task, cancelled, work) =>
      match w.step? cancelled work with
      | some (w', phase) =>
        runUntil fuel limit { w' with publisher := w'.publisher.proceed task phase }
      | none =>
        if work.wake ≤ limit then runUntil fuel limit { w with now := max w.now work.wake }
        else { w with now := max w.now limit }

/-- A bound on the steps and waits of a task in a span of time: it arms its ticker, handles ticks
that lie one period apart, those among them that are overdue within the tolerance, and gets an
answer for each request that takes time. -/
def stepBound (w : World) (span : Nat) : Nat :=
  let ticks := (span + Ticker.tolerance + millisecond) / w.registry.config.frequency.nanos
  let answers := match w.backend with
    | .scripted answers => answers.length
    | .web => 0
  2 * (ticks + answers) + 16

def advanceTo (w : World) (limit : Nat) : World := w.runUntil (w.stepBound (limit - w.now)) limit

/-- Lets everybody go on who need not wait. -/
def settle (w : World) : World := w.advanceTo w.now

/-- Waits for a publish to come to its end.  `fuel` bounds the number of payloads. -/
def await (fuel : Nat) (w : World) : Progress → World × Option String
  | .finished => (w, none)
  | .crashed reason => (w, some reason)
  | .flying f =>
    match fuel with
    | 0 => (w, none)
    | fuel + 1 =>
      let (w, progress) := (w.advanceTo f.arrival).land f
      await fuel w progress

/-- Publishes now, and waits for the end of it; the answer is the reason if it fails. -/
def publishNow (w : World) : World × Option String :=
  let (w, progress) := w.settle.publish
  match progress with
  | .flying f => w.await f.delivery.waiting.length (.flying f)
  | progress => w.await 0 progress

/-! ### Starting and stopping -/

/-- Starts the publisher. -/
def start (w : World) (canSpawn : Bool) : World × Option Error :=
  match w.publisher.start canSpawn .arming with
  | .error e => (w, some e)
  | .ok publisher =>
    ({ w with publisher }.say [.starting w.registry.config.frequency w.registry.config.uri], none)

/-- Asks the publisher to stop. -/
def beginStop (w : World) : World × StopCall :=
  let (publisher, call) := w.publisher.beginStop
  ({ w with publisher }, call)

/-- The return of a caller that waits for the publisher to stop, once it can return. -/
def resume? (w : World) (call : StopCall) : Option World :=
  (w.publisher.resume? call).map fun (publisher, notices) => { w with publisher }.say notices

/-- Stops the publisher, and waits until it has stopped. -/
def stop (w : World) : World :=
  let (w, call) := w.beginStop
  match w.resume? call with
  | some w => w
  | none => (w.settle.resume? call).getD w.settle

/-- Asks the publisher to stop, and does not wait; tells whether there was something to wait for. -/
def abandonStop (w : World) : World × Bool :=
  let (w, call) := w.beginStop
  match w.resume? call with
  | some w => (w, false)
  | none => (w, true)

/-- What a second caller sees that comes while the first one waits for the publisher to stop. -/
structure Meeting where
  running : Bool
  refused : Option Error
  after : Bool
deriving DecidableEq

/-- Two callers stop the publisher at once, and the second one tries to start it before. -/
def stopTwice (w : World) : World × Meeting :=
  let (w, first) := w.beginStop
  let (w, firstWaits) := match w.resume? first with
    | some w => (w, false)
    | none => (w, true)
  let running := w.publisher.isRunning
  let (w, refused) := w.start true
  let (w, second) := w.beginStop
  let w := w.settle
  let w := if firstWaits then (w.resume? first).getD w else w
  let w := (w.resume? second).getD w
  (w, ⟨running, refused, w.publisher.isRunning⟩)

end World

end Simulation

end DimensionalMetrics
