import DimensionalMetrics.HttpStatus
import DimensionalMetrics.Measurement

/-!
# Errors

The causes of failure of the library's operations, and their wording.
-/

namespace DimensionalMetrics

/-- Why an operation failed. -/
inductive Error where
  /-- A configuration cannot be used. -/
  | invalidConfig (reason : String)
  /-- A meter is wanted as another kind than it is registered as. -/
  | kindMismatch (id : Id) (registered requested : Kind)
  /-- A running publisher is started. -/
  | alreadyRunning
  /-- A publisher is started that has not come to its end yet. -/
  | stopping
  /-- A publisher is started where no task can run. -/
  | noRuntime
  /-- A request could not be made. -/
  | transport (reason : String)
  /-- The backend refused a payload. -/
  | status (code : Nat)
deriving DecidableEq

def Error.message : Error → String
  | invalidConfig reason => "invalid config: " ++ reason
  | kindMismatch id registered requested =>
    id.text ++ " is registered as a " ++ registered.name ++ ", not a " ++ requested.name
  | alreadyRunning => "publisher is already running"
  | stopping => "publisher is still stopping"
  | noRuntime => "publisher must be started from within a tokio runtime"
  | transport reason => "failed to send payload: " ++ reason
  | status code => "backend responded with " ++ statusText code

end DimensionalMetrics
