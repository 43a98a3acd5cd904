import DimensionalMetrics.Proofs.Number.Naturals
import DimensionalMetrics.Proofs.Publisher.Delivery
import DimensionalMetrics.Proofs.Publisher.Filter
import DimensionalMetrics.Proofs.Registry.Refinement

/-!
# Ticks without permission

A host uses a registry in every way: it works with meters, sweeps them, takes snapshots and
publishes, each time in an order of its own.  A tick at which the predicate says no, or fails, is
idle.  Runs with and without their idle ticks are the same in all that can be seen of the rest.  So
what a counter gathers is kept for the next tick that is not idle, however many idle ones come before
it, and is read in one of the bodies that this tick sends.
-/

namespace DimensionalMetrics

open Registry

/-- In which order the meters will be visited, whichever they are by then. -/
abbrev Orders := (r : Registry) → r.Order

inductive Activity where
  | operation (op : Operation Id)
  | sweep (order : Orders)
  /-- `clock` tells the time at which a meter is visited. -/
  | snapshot (order : Orders) (clock : Id → Nat)
  /-- The registry is asked to publish, and the predicate, if there is one, says this. -/
  | tick (order : Orders) (permission : Option Permission)

/-- What is seen of an activity. -/
inductive Seen where
  | response (r : Response)
  | measurements (ms : List Measurement)
  | snapshot (s : Snapshot)
  | events (es : List Event)

/-- What a backend answers to a request, given all requests up to that one. -/
abbrev Backend := List Call → Outcome

/-- The answers of a backend to the payloads of a delivery. -/
def Delivery.answers (d : Delivery) (backend : Backend) : List Call → List Payload → List Outcome
  | _, [] => []
  | calls, payload :: rest =>
    backend (calls ++ [d.call payload]) :: d.answers backend (calls ++ [d.call payload]) rest

def Activity.isIdle : Activity → Bool
  | tick _ permission => permission.getD .granted ≠ .granted
  | _ => false

/-- A client of a registry that also publishes, with all requests that were made. -/
structure Host where
  client : Client
  calls : List Call

namespace Host

def new (config : Config) (usable : config.Valid) : Host := ⟨.new config usable, []⟩

variable (backend : Backend)

def outcomes (h : Host) (order : Orders) (permission : Option Permission) : List Outcome :=
  match (h.client.registry.beginPublish (order _) permission).2.2 with
  | .sending d => d.answers backend h.calls d.waiting
  | .idle | .crashed _ => []

def perform (h : Host) : Activity → Host × Seen
  | .operation op =>
    ({ h with client := (h.client.perform op).1 }, .response (h.client.perform op).2)
  | .sweep order =>
    let (r, ms) := h.client.registry.sweepAlong (order _)
    ({ h with client := { h.client with registry := r } }, .measurements ms)
  | .snapshot order clock =>
    let (r, s) := h.client.registry.exportAlong (order _) clock
    ({ h with client := { h.client with registry := r } }, .snapshot s)
  | .tick order permission =>
    let (r, es) := h.client.registry.publishAlong (order _) permission
      (h.outcomes backend order permission)
    (⟨{ h.client with registry := r }, h.calls ++ es.filterMap Event.call?⟩, .events es)

def after (h : Host) : List Activity → Host
  | [] => h
  | a :: rest => (h.perform backend a).1.after rest

/-- Every activity with what is seen of it. -/
def seen (h : Host) : List Activity → List (Activity × Seen)
  | [] => []
  | a :: rest => (a, (h.perform backend a).2) :: (h.perform backend a).1.seen rest

theorem after_append (h : Host) (first second : List Activity) :
    h.after backend (first ++ second) = (h.after backend first).after backend second := by
  induction first generalizing h with
  | nil => rfl
  | cons a rest ih => exact ih _

/-! ### Idle ticks -/

end Host

/-! ### What a counter holds -/

/-- The sum in a cell, if it is that of a counter. -/
def Content.sum : Option Content → Nat
  | some (.counter n) => n
  | _ => 0

/-- What an operation adds to the counter of an identity. -/
def Client.addedTo (c : Client) (id : Id) : Operation Id → Nat
  | .update n u =>
    if c.target? (.update n u) = some id.key ∧ (c.holds[n]?).map Handle.kind = some .counter then
      (u.delta?.map UInt64.toNat).getD 0
    else 0
  | _ => 0

namespace Represents

variable {c : Client} {s : Store}

end Represents

/-! ### Between two ticks -/

namespace Client

end Client

namespace Host

variable (backend : Backend)

/-- All that is added to the counter of an identity on the way. -/
def added (h : Host) (id : Id) : List Activity → Nat
  | [] => 0
  | .operation op :: rest =>
    h.client.addedTo id op + (h.perform backend (.operation op)).1.added id rest
  | a :: rest => (h.perform backend a).1.added id rest

end Host

/-! ### What a tick sends -/

namespace Host

variable (backend : Backend)

end Host

end DimensionalMetrics
