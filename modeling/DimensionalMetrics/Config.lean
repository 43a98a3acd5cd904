import DimensionalMetrics.Tags
import DimensionalMetrics.Text.Quoted
import DimensionalMetrics.Time.Duration

/-!
# Configuration

What a registry is told when it is built: how often to publish, where to, in how large batches, and
which tags to add to every record.
-/

namespace DimensionalMetrics

/-- The configuration of a registry. -/
structure Config where
  /-- How often all meters are swept and sent. -/
  frequency : Duration := .ofSeconds 5
  /-- The longest that one request may take. -/
  timeout : Duration := .ofSeconds 1
  /-- Where payloads are sent.  With an empty address meters are swept but nothing is sent. -/
  uri : String := ""
  /-- The most records of one payload. -/
  batchSize : Nat := 10000
  /-- Tags of every published record. -/
  commonTags : Tags := .empty

namespace Config

instance : Inhabited Config := ⟨{}⟩

def describeTags (ts : Tags) : String :=
  "\x7b" ++ String.intercalate ", " (ts.toList.map fun (k, v) => quoted k ++ ": " ++ quoted v) ++
    "\x7d"

/-- A configuration in words; `gated` tells whether publishing depends on a predicate. -/
def describe (c : Config) (gated : Bool) : String :=
  "Config \x7b frequency: " ++ c.frequency.text ++ ", timeout: " ++ c.timeout.text ++
    ", uri: " ++ quoted c.uri ++ ", batch_size: " ++ toString c.batchSize ++
    ", common_tags: " ++ describeTags c.commonTags ++
    ", is_enabled: " ++ (if gated then "true" else "false") ++ ", .. \x7d"

end Config

end DimensionalMetrics
