import DimensionalMetrics.Json.Reader
import DimensionalMetrics.Wire.Payload

/-!
# Reading payloads

The records of a payload, as a backend gets them from its text: the table of strings first, then one
record after the other until the array ends.
-/

namespace DimensionalMetrics

namespace Payload

def combinationOfCode? (code : Nat) : Option Combination :=
  [Combination.sum, .maximum].find? (·.code = code)

/-- The first `count` elements, which have to be strings, and the elements after them. -/
def readStrings? : Nat → List Json → Option (List String × List Json)
  | 0, rest => some ([], rest)
  | count + 1, .str s :: rest => (readStrings? count rest).map fun (ss, rest) => (s :: ss, rest)
  | _ + 1, _ => none

/-- `count` tags, each of which is two places in the table, and the elements after them. -/
def readTags? (strings : List String) : Nat → List Json → Option (List Tag × List Json)
  | 0, rest => some ([], rest)
  | count + 1, .nat k :: .nat v :: rest => do
    let key ← strings[k]?
    let value ← strings[v]?
    let (tags, rest) ← readTags? strings count rest
    return ((key, value) :: tags, rest)
  | _ + 1, _ => none

/-- One record, and the elements after it. -/
def readRecord? (strings : List String) : List Json → Option (Record × List Json)
  | .nat count :: rest => do
    let (tags, rest) ← readTags? strings count rest
    match rest with
    | .nat code :: .real value :: rest =>
      let combination ← combinationOfCode? code
      return (⟨.ofList tags, combination, value⟩, rest)
    | _ => none
  | _ => none

/-- Records until the elements end.  `fuel` bounds their number. -/
def readRecords? (strings : List String) : Nat → List Json → Option (List Record)
  | _, [] => some []
  | 0, _ => none
  | fuel + 1, elements => do
    let (record, rest) ← readRecord? strings elements
    let records ← readRecords? strings fuel rest
    return record :: records

def recordsOfElements? : List Json → Option (List Record)
  | .nat count :: rest => do
    let (strings, rest) ← readStrings? count rest
    readRecords? strings rest.length rest
  | _ => none

def read? (s : String) : Option (List Record) :=
  match Json.read? s with
  | some (.arr elements) => recordsOfElements? elements
  | _ => none

end Payload

end DimensionalMetrics
