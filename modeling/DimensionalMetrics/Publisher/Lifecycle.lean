import DimensionalMetrics.Notice

/-!
# The life of a publisher

A publisher is started and stopped.  Starting spawns a task; stopping asks the task to end and waits
until it has ended.  The wait can be abandoned, and several callers can wait at once, so to stop is
two steps: `beginStop`, which never waits, and `resume?`, which has an answer only once the task it
waits for has ended.

All tasks that were ever spawned are kept, in order, so that a task is known by its position.  What
a task is doing while it lives is left open here: it is the type `α`.
-/

namespace DimensionalMetrics

/-- How a task came to its end. -/
inductive Ending where
  | finished
  | crashed (reason : String)
deriving DecidableEq

/-- A task lives, and is doing something, or it has ended. -/
inductive Phase (α : Type) where
  | alive (work : α)
  | ended (ending : Ending)
deriving DecidableEq

/-- A task, and whether it was asked to end. -/
structure Task (α : Type) where
  cancelled : Bool
  phase : Phase α
deriving DecidableEq

/-- How a task ended, if it has. -/
def Task.ending? {α : Type} (t : Task α) : Option Ending :=
  match t.phase with
  | .alive _ => none
  | .ended e => some e

/-- What a publisher knows of its task. -/
inductive Stage where
  /-- There is no task. -/
  | stopped
  /-- A task was started and not stopped since. -/
  | running (task : Nat)
  /-- A task was asked to end. -/
  | stopping (task : Nat)
deriving DecidableEq, Repr

/-- A publisher and all the tasks that it ever spawned. -/
structure Lifecycle (α : Type) where
  stage : Stage
  tasks : List (Task α)
deriving DecidableEq

/-- A caller that waits for a publisher to stop. -/
inductive StopCall where
  /-- The publisher was stopped already. -/
  | idle
  /-- This caller has asked the task to end. -/
  | leading (task : Nat)
  /-- Another caller has asked the task to end. -/
  | following (task : Nat)
deriving DecidableEq, Repr

namespace Lifecycle

variable {α : Type}

/-- A publisher that was never started. -/
def new : Lifecycle α := ⟨.stopped, []⟩

instance : Inhabited (Lifecycle α) := ⟨new⟩

/-- How a task ended, if it has. -/
def ending? (l : Lifecycle α) (task : Nat) : Option Ending := (l.tasks[task]?).bind Task.ending?

def hasEnded (l : Lifecycle α) (task : Nat) : Bool := (l.ending? task).isSome

/-- Whether nothing stands in the way of a start. -/
def isIdle (l : Lifecycle α) : Bool :=
  match l.stage with
  | .stopped => true
  | .running _ => false
  | .stopping task => l.hasEnded task

/-- Whether the publisher counts as running. -/
def isRunning (l : Lifecycle α) : Bool := !l.isIdle

/-- The publisher with a new task, which it is running now. -/
def spawn (l : Lifecycle α) (work : α) : Lifecycle α :=
  ⟨.running l.tasks.length, l.tasks ++ [⟨false, .alive work⟩]⟩

/-- Starts a publisher with a task that begins with `work`.  That takes a place where tasks can
run. -/
def start (l : Lifecycle α) (canSpawn : Bool) (work : α) : Except Error (Lifecycle α) :=
  if !canSpawn then .error .noRuntime
  else
    match l.stage with
    | .running _ => .error .alreadyRunning
    | .stopping task =>
      if l.hasEnded task then .ok (l.spawn work) else .error .stopping
    | .stopped => .ok (l.spawn work)

def modify (l : Lifecycle α) (task : Nat) (f : Task α → Task α) : Lifecycle α :=
  { l with tasks := l.tasks.modify task f }

/-- Asks the publisher to stop. -/
def beginStop (l : Lifecycle α) : Lifecycle α × StopCall :=
  match l.stage with
  | .stopped => (l, .idle)
  | .stopping task => (l, .following task)
  | .running task =>
    ({ l.modify task (fun t => { t with cancelled := true }) with stage := .stopping task },
      .leading task)

/-- What a caller says when the task that it asked to end has ended. -/
def farewell : Ending → List Notice
  | .finished => [.stopped]
  | .crashed reason => [.crashed reason, .stopped]

/-- The return of a caller that waits for the publisher to stop, once it can return.  The caller
that asked the task to end leaves the publisher stopped, unless a newer task is under way by
then. -/
def resume? (l : Lifecycle α) : StopCall → Option (Lifecycle α × List Notice)
  | .idle => some (l, [])
  | .following task => if l.hasEnded task then some (l, []) else none
  | .leading task =>
    match l.ending? task with
    | none => none
    | some ending =>
      let stage :=
        match l.stage with
        | .stopping t => if l.hasEnded t then .stopped else .stopping t
        | stage => stage
      some ({ l with stage }, farewell ending)

/-- What a task is to do next: its position, whether it was asked to end, and what it is doing.  Of
several living tasks this is the first. -/
def living? (l : Lifecycle α) : Option (Nat × Bool × α) :=
  (l.tasks.zipIdx.findSome? fun (t, i) =>
    match t.phase with
    | .alive work => some (i, t.cancelled, work)
    | .ended _ => none)

/-- The publisher after a task went on to something else, or ended. -/
def proceed (l : Lifecycle α) (task : Nat) (phase : Phase α) : Lifecycle α :=
  l.modify task fun t => { t with phase }

end Lifecycle

end DimensionalMetrics
