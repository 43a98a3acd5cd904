import DimensionalMetrics.Config.Validation
import DimensionalMetrics.Meter

/-!
# Registries

A registry holds one meter for each identity that was ever asked for, in the order of first use.
Meters are never removed or exchanged, so the position of a meter is a handle on it for good.  Who
visits all meters may find them in any order: the visits take an `Order`, and a caller who names none
cannot rely on which it is.

To get a meter is to look its identity up and, where the look-up fails, to enter a new meter unless
another caller has entered one in the meantime.  The two steps are separate functions, because other
steps may come between them.
-/

namespace DimensionalMetrics

/-- A configuration that can be used and the meters registered so far. -/
structure Registry where
  config : Config
  usable : config.Valid
  meters : List Meter

namespace Registry

/-- A registry without meters, if the configuration can be used. -/
def make (config : Config) : Except Error Registry :=
  match h : config.flaw? with
  | none => .ok ⟨config, h, []⟩
  | some flaw => .error flaw.toError

/-! ### Getting and creating meters -/

/-- A hold on a meter: its position, and its kind, neither of which ever changes. -/
structure Handle where
  position : Nat
  kind : Kind
deriving DecidableEq, Repr

/-- A hold on the meter of an identity, if there is one. -/
def find? (r : Registry) (id : Id) : Option Handle := do
  let i ← r.meters.findIdx? (·.id == id)
  let m ← r.meters[i]?
  return ⟨i, m.kind⟩

/-- The registry with a meter of an identity, which is created unless there is one, and a hold on
that meter. -/
def enter (r : Registry) (id : Id) (kind : Kind) : Registry × Handle :=
  match r.find? id with
  | some h => (r, h)
  | none => ({ r with meters := r.meters ++ [.fresh id kind] }, ⟨r.meters.length, kind⟩)

/-- A meter that is there is held as it is. -/
theorem enter_of_find? {r : Registry} {id : Id} {h : Handle} (kind : Kind)
    (hf : r.find? id = some h) : r.enter id kind = (r, h) := by
  simp only [enter, hf]

/-- To get a meter is to enter it: the look-up before changes nothing. -/
theorem register_eq_enter (r : Registry) (id : Id) (kind : Kind) :
    (match r.find? id with
      | some h => (r, h)
      | none => r.enter id kind) = r.enter id kind := by
  cases hf : r.find? id with
  | none => rfl
  | some h => exact (enter_of_find? kind hf).symm

/-- The hold itself, if its meter has the wanted kind. -/
def Handle.expect (h : Handle) (id : Id) (kind : Kind) : Except Error Handle :=
  if h.kind = kind then .ok h else .error (.kindMismatch id h.kind kind)

/-- Gets the meter of an identity, creating it at first use. -/
def register (r : Registry) (id : Id) (kind : Kind) : Registry × Except Error Handle :=
  let (r, h) := match r.find? id with
    | some h => (r, h)
    | none => r.enter id kind
  (r, h.expect id kind)

/-! ### Updating meters -/

def modify (r : Registry) (i : Nat) (f : Meter → Meter) : Registry :=
  { r with meters := r.meters.modify i f }

def viewAt (r : Registry) (h : Handle) : Cell.View :=
  ((r.meters[h.position]?.map Meter.cell).getD (.fresh h.kind)).view

/-- Gets the meter of an identity, updates it and looks at it. -/
def apply (r : Registry) (id : Id) (u : Update) : Registry × Except Error Cell.View :=
  match r.register id u.kind with
  | (r, .error e) => (r, .error e)
  | (r, .ok h) =>
    let r := r.modify h.position (·.update u)
    (r, .ok (r.viewAt h))

/-! ### Measuring -/

def measureAt (r : Registry) (i : Nat) : Registry × List Measurement :=
  (r.modify i Meter.reset, (r.meters[i]?.map Meter.measurements).getD [])

/-- Measures the meter of an identity, if it is registered. -/
def measure (r : Registry) (id : Id) : Registry × Option (List Measurement) :=
  match r.find? id with
  | none => (r, none)
  | some h =>
    let (r, ms) := r.measureAt h.position
    (r, some ms)

/-! ### Sweeping -/

/-- An order in which every meter is visited once, as the positions of the meters. -/
structure Order (r : Registry) where
  positions : List Nat
  all : positions.Perm (List.range r.meters.length)

/-- The meters in an order, as they are when the visits begin. -/
def Order.meters {r : Registry} (o : r.Order) : List Meter := o.positions.filterMap (r.meters[·]?)

/-- Visits the meters at some positions.  Each of them is found as it is when its turn comes, and is
reset there and then. -/
def visit {σ : Type} (f : σ → Meter → σ) : List Nat → Registry × σ → Registry × σ
  | [], s => s
  | i :: rest, (r, s) => visit f rest ((r.measureAt i).1, (r.meters[i]?).elim s (f s))

/-- Measures all meters, one after the other. -/
def sweepAlong (r : Registry) (o : r.Order) : Registry × List Measurement :=
  visit (fun ms m => ms ++ m.measurements) o.positions (r, [])

/-- The order for those who name none.  It is one of many, and any other would do as well. -/
def ownOrder (r : Registry) : r.Order where
  positions :=
    (r.meters.zipIdx.mergeSort fun a b => a.1.id.visitKey ≤ b.1.id.visitKey).map Prod.snd
  all := by
    have hsorted := (List.mergeSort_perm r.meters.zipIdx
      fun a b => a.1.id.visitKey ≤ b.1.id.visitKey).map Prod.snd
    rwa [List.zipIdx_map_snd, ← List.range_eq_range'] at hsorted

/-- The meters in that order. -/
def visited (r : Registry) : List Meter := r.ownOrder.meters

def sweep (r : Registry) : Registry × List Measurement := r.sweepAlong r.ownOrder

/-- A registry in words; `gated` tells whether publishing depends on a predicate. -/
def describe (r : Registry) (gated : Bool) : String :=
  "Registry \x7b config: " ++ r.config.describe gated ++
    ", meters: " ++ toString r.meters.length ++ ", .. \x7d"

end Registry

end DimensionalMetrics
