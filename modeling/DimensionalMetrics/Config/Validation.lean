import DimensionalMetrics.Config
import DimensionalMetrics.Error
import DimensionalMetrics.Uri

/-!
# Configurations that can be used

A registry is built only from a configuration whose spans of time and batch size are not zero and
whose address, if there is one, can be read.
-/

namespace DimensionalMetrics

namespace Config

/-- What is wrong with a configuration, looked for in this order. -/
inductive Flaw where
  | zeroFrequency
  | zeroTimeout
  | zeroBatchSize
  | badUri (uri : String) (fault : Uri.Fault)
deriving DecidableEq

def Flaw.message : Flaw → String
  | zeroFrequency => "frequency must be non-zero"
  | zeroTimeout => "timeout must be non-zero"
  | zeroBatchSize => "batch_size must be non-zero"
  | badUri uri fault => "uri " ++ quoted uri ++ ": " ++ fault.message

def Flaw.toError (flaw : Flaw) : Error := .invalidConfig flaw.message

/-- What is wrong with the address of a configuration.  An empty one is left out of account. -/
def uriFlaw? (c : Config) : Option Flaw :=
  if c.uri = "" then none
  else
    match Uri.read c.uri with
    | .ok _ => none
    | .error fault => some (.badUri c.uri fault)

/-- The first flaw of a configuration. -/
def flaw? (c : Config) : Option Flaw :=
  if c.frequency.isZero then some .zeroFrequency
  else if c.timeout.isZero then some .zeroTimeout
  else if c.batchSize = 0 then some .zeroBatchSize
  else c.uriFlaw?

/-- A configuration that can be used. -/
def Valid (c : Config) : Prop := c.flaw? = none

instance (c : Config) : Decidable c.Valid := inferInstanceAs (Decidable (c.flaw? = none))

/-- The error with which a configuration is refused, if it cannot be used. -/
def refusal? (c : Config) : Option Error := c.flaw?.map Flaw.toError

theorem Valid.frequency_ne_zero {c : Config} (h : c.Valid) : c.frequency.isZero = false := by
  simp only [Valid, flaw?] at h
  split at h
  · exact absurd h (Option.some_ne_none _)
  · rename_i hf
    simpa only [Bool.not_eq_true] using hf

theorem Valid.batchSize_pos {c : Config} (h : c.Valid) : 0 < c.batchSize := by
  simp only [Valid, flaw?] at h
  split at h
  · exact absurd h (Option.some_ne_none _)
  · split at h
    · exact absurd h (Option.some_ne_none _)
    · split at h
      · exact absurd h (Option.some_ne_none _)
      · omega

end Config

end DimensionalMetrics
