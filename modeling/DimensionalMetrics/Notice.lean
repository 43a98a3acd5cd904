import DimensionalMetrics.Error
import DimensionalMetrics.Time.Duration

/-!
# Notices

What the library writes to a log.
-/

namespace DimensionalMetrics

/-- How much a notice matters. -/
inductive Level where
  | debug
  | info
  | error
deriving DecidableEq, Repr

def Level.name : Level → String
  | debug => "debug"
  | info => "info"
  | error => "error"

/-- One line of the log. -/
inductive Notice where
  /-- A publisher begins its work. -/
  | starting (frequency : Duration) (uri : String)
  /-- A publisher was stopped. -/
  | stopped
  /-- The task of a publisher had crashed. -/
  | crashed (reason : String)
  /-- All meters were measured. -/
  | swept (meters measurements : Nat)
  /-- The predicate of a registry refused to publish. -/
  | disabled
  /-- There is nowhere to send measurements to. -/
  | dropped (measurements : Nat)
  /-- A payload did not reach the backend. -/
  | failed (records : Nat) (uri : String) (cause : Error)
  /-- All payloads of one sweep were handed over. -/
  | published (sent total : Nat)
deriving DecidableEq

namespace Notice

def level : Notice → Level
  | starting _ _ | stopped => .info
  | crashed _ | failed _ _ _ => .error
  | swept _ _ | disabled | dropped _ | published _ _ => .debug

def text : Notice → String
  | starting frequency uri =>
    "starting publisher, frequency=" ++ frequency.text ++ " uri=" ++ quoted uri
  | stopped => "publisher stopped"
  | crashed reason =>
    "publisher task failed: task # panicked with message " ++ quoted reason
  | swept meters measurements =>
    "swept " ++ toString meters ++ " meters into " ++ toString measurements ++ " measurements"
  | disabled => "publishing is disabled, skipping tick"
  | dropped measurements =>
    "no uri configured, dropping " ++ toString measurements ++ " measurements"
  | failed records uri cause =>
    "failed to publish " ++ toString records ++ " records to " ++ uri ++ ": " ++ cause.message
  | published sent total =>
    "published " ++ toString sent ++ " of " ++ toString total ++ " records"

end Notice

end DimensionalMetrics
