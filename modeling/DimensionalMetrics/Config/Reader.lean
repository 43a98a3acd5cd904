import DimensionalMetrics.Config
import DimensionalMetrics.Json.Numeral
import DimensionalMetrics.Json.Skip
import DimensionalMetrics.Number.Text
import DimensionalMetrics.Time.Reader

/-!
# Reading a configuration from JSON text

A configuration is an object with the members `frequency`, `timeout`, `uri`, `batch_size` and
`common_tags`, in any order, each of which may be left out; other members are passed over.  It may
also be an array of the values in that order, of which the last ones may be left out.  The text is
read from left to right in one go, and the first thing that is wrong with it is the answer.
-/

namespace DimensionalMetrics.Config

open Json (Fault)
open Json.Scan

/-- What stands in the text where a value of another kind is wanted. -/
inductive Found where
  | null
  | bool (value : Bool)
  | integer (value : Int)
  | real (value : Binary64)
  | text (value : String)
  | array
  | object

/-- What is wanted at a place of the text. -/
inductive Wanted where
  | duration
  | string
  | size
  | tags
  | config
deriving DecidableEq, Repr

/-- The members that are known. -/
inductive Member where
  | frequency | timeout | uri | batchSize | commonTags
deriving DecidableEq, Repr

/-- Why a text is no configuration. -/
inductive LoadError where
  /-- The text is no JSON. -/
  | json (fault : Fault)
  /-- A value has the wrong kind. -/
  | wrongType (found : Found) (wanted : Wanted)
  /-- A value has the right kind and cannot be used. -/
  | wrongValue (found : Found) (wanted : Wanted)
  /-- A member is given twice. -/
  | duplicate (member : Member)
  /-- A duration overflows when its nanoseconds are carried. -/
  | durationCarry

def Found.describe : Found → String
  | null => "null"
  | bool b => "boolean `" ++ (if b then "true" else "false") ++ "`"
  | integer n => "integer `" ++ toString n ++ "`"
  | real x => "floating point `" ++ x.text ++ "`"
  | text s => "string " ++ quoted s
  | array => "sequence"
  | object => "map"

def Wanted.describe : Wanted → String
  | duration => "a duration"
  | string => "a string"
  | size => "usize"
  | tags => "a map"
  | config => "struct Config"

def Member.key : Member → String
  | frequency => "frequency"
  | timeout => "timeout"
  | uri => "uri"
  | batchSize => "batch_size"
  | commonTags => "common_tags"

def Member.all : List Member := [.frequency, .timeout, .uri, .batchSize, .commonTags]

def Member.ofKey? (key : String) : Option Member := Member.all.find? (·.key = key)

/-- The wording of an error; text that is no JSON is reported without one. -/
def LoadError.message : LoadError → String
  | json _ => ""
  | wrongType found wanted =>
    "invalid type: " ++ found.describe ++ ", expected " ++ wanted.describe
  | wrongValue found wanted =>
    "invalid value: " ++ found.describe ++ ", expected " ++ wanted.describe
  | duplicate member => "duplicate field `" ++ member.key ++ "`"
  | durationCarry => "overflow in Duration::new"

/-- A piece of JSON, as part of a configuration. -/
def lift {α : Type} : Except Fault α → Except LoadError α
  | .ok a => .ok a
  | .error e => .error (.json e)

/-! ### Single values -/

/-- The error for a value of the wrong kind.  Words, numbers and strings are read to their end
first, and what is wrong inside them counts instead. -/
def mismatch (wanted : Wanted) (cs : List Char) : LoadError :=
  let named {α : Type} (piece : Except Fault α) (found : α → Found) : LoadError :=
    match piece with
    | .ok a => .wrongType (found a) wanted
    | .error e => .json e
  match cs with
  | [] => .json .truncated
  | c :: rest =>
    if c = 'n' then named (word ['u', 'l', 'l'] rest) fun _ => .null
    else if c = 't' then named (word ['r', 'u', 'e'] rest) fun _ => .bool true
    else if c = 'f' then named (word ['a', 'l', 's', 'e'] rest) fun _ => .bool false
    else if c = '"' then named (string rest) fun (ds, _) => .text (String.ofList ds)
    else if c = '[' then .wrongType .array wanted
    else if c = '\x7b' then .wrongType .object wanted
    else if c = '-' ∨ c.isDigit then
      match numeral cs with
      | .error e => .json e
      | .ok (n, _) =>
        match n.number? with
        | none => .json .malformed
        | some (.natural k) => .wrongType (.integer k) wanted
        | some (.negative k) => .wrongType (.integer (-k)) wanted
        | some (.real x) => .wrongType (.real x) wanted
    else .json .malformed

/-- A string, where one is wanted. -/
def readString (wanted : Wanted) (cs : List Char) : Except LoadError (String × List Char) :=
  match skipSpace cs with
  | '"' :: rest => (lift (string rest)).map fun (ds, rest) => (String.ofList ds, rest)
  | cs => .error (mismatch wanted cs)

/-- A duration, written as a string. -/
def readDuration (cs : List Char) : Except LoadError (Duration × List Char) :=
  match readString .duration cs with
  | .error e => .error e
  | .ok (s, rest) =>
    match Duration.read s with
    | .ok d => .ok (d, rest)
    | .error .invalid => .error (.wrongValue (.text s) .duration)
    | .error .carry => .error .durationCarry

def readSize (cs : List Char) : Except LoadError (Nat × List Char) :=
  match skipSpace cs with
  | [] => .error (.json .truncated)
  | c :: rest =>
    if c = '-' ∨ c.isDigit then
      match numeral (c :: rest) with
      | .error e => .error (.json e)
      | .ok (n, rest) =>
        match n.number? with
        | none => .error (.json .malformed)
        | some (.natural k) => .ok (k, rest)
        | some (.negative k) => .error (.wrongValue (.integer (-k)) .size)
        | some (.real x) => .error (.wrongType (.real x) .size)
    else .error (mismatch .size (c :: rest))

/-! ### Objects -/

def colon (cs : List Char) : Except LoadError (List Char) :=
  match skipSpace cs with
  | [] => .error (.json .truncated)
  | c :: rest => if c = ':' then .ok rest else .error (.json .malformed)

/-- The next key of an object, after its opening quote, or the text after the closing brace.  Every
key but the first one has a comma before it. -/
def nextKey (first : Bool) (cs : List Char) : Except LoadError (List Char ⊕ List Char) :=
  match skipSpace cs with
  | [] => .error (.json .truncated)
  | c :: rest =>
    if c = '\x7d' then .ok (.inr rest)
    else if first then
      if c = '"' then .ok (.inl rest) else .error (.json .malformed)
    else if c = ',' then
      match skipSpace rest with
      | [] => .error (.json .truncated)
      | d :: rest => if d = '"' then .ok (.inl rest) else .error (.json .malformed)
    else .error (.json .malformed)

/-- The members of the object of common tags.  `fuel` bounds their number, each having characters of
its own. -/
def readTagMembers (fuel : Nat) (first : Bool) (cs : List Char) :
    Except LoadError (List Tag × List Char) :=
  match fuel with
  | 0 => .error (.json .malformed)
  | fuel + 1 => do
    match ← nextKey first cs with
    | .inr rest => .ok ([], rest)
    | .inl rest =>
      let (key, rest) ← lift (string rest)
      let rest ← colon rest
      let (value, rest) ← readString .string rest
      let (more, rest) ← readTagMembers fuel false rest
      .ok ((String.ofList key, value) :: more, rest)

/-- An object of tags; of several members with the same key the last one counts. -/
def readTags (cs : List Char) : Except LoadError (Tags × List Char) :=
  match skipSpace cs with
  | '\x7b' :: rest =>
    (readTagMembers (rest.length + 1) true rest).map fun (ts, rest) => (Tags.ofList ts, rest)
  | cs => .error (mismatch .tags cs)

/-! ### Configurations -/

/-- The members of a configuration that have been read. -/
structure Draft where
  frequency : Option Duration := none
  timeout : Option Duration := none
  uri : Option String := none
  batchSize : Option Nat := none
  commonTags : Option Tags := none

namespace Draft

def has (d : Draft) : Member → Bool
  | .frequency => d.frequency.isSome
  | .timeout => d.timeout.isSome
  | .uri => d.uri.isSome
  | .batchSize => d.batchSize.isSome
  | .commonTags => d.commonTags.isSome

def readMember (d : Draft) (m : Member) (cs : List Char) : Except LoadError (Draft × List Char) :=
  match m with
  | .frequency => (readDuration cs).map fun (v, rest) => ({ d with frequency := some v }, rest)
  | .timeout => (readDuration cs).map fun (v, rest) => ({ d with timeout := some v }, rest)
  | .uri => (readString .string cs).map fun (v, rest) => ({ d with uri := some v }, rest)
  | .batchSize => (readSize cs).map fun (v, rest) => ({ d with batchSize := some v }, rest)
  | .commonTags => (readTags cs).map fun (v, rest) => ({ d with commonTags := some v }, rest)

/-- The configuration of what has been read, with the defaults for the rest. -/
def toConfig (d : Draft) : Config :=
  let usual : Config := {}
  { frequency := d.frequency.getD usual.frequency
    timeout := d.timeout.getD usual.timeout
    uri := d.uri.getD usual.uri
    batchSize := d.batchSize.getD usual.batchSize
    commonTags := d.commonTags.getD usual.commonTags }

end Draft

/-- The members of an object, read into a draft.  That a known member is given twice is noticed
before its value is looked at.  `fuel` bounds the number of members. -/
def readMembers (fuel : Nat) (first : Bool) (d : Draft) (cs : List Char) :
    Except LoadError (Draft × List Char) :=
  match fuel with
  | 0 => .error (.json .malformed)
  | fuel + 1 => do
    match ← nextKey first cs with
    | .inr rest => .ok (d, rest)
    | .inl rest =>
      let (key, rest) ← lift (string rest)
      match Member.ofKey? (String.ofList key) with
      | some m =>
        if d.has m then .error (.duplicate m)
        else
          let rest ← colon rest
          let (d, rest) ← d.readMember m rest
          readMembers fuel false d rest
      | none =>
        let rest ← colon rest
        let rest ← lift (skip rest)
        readMembers fuel false d rest

/-- The items of an array, read as the given members in turn.  The array may end before they do. -/
def readItems (first : Bool) (d : Draft) (members : List Member) (cs : List Char) :
    Except LoadError (Draft × List Char) :=
  match members, skipSpace cs with
  | _, [] => .error (.json .truncated)
  | [], c :: rest => if c = ']' then .ok (d, rest) else .error (.json .malformed)
  | m :: members, c :: rest =>
    if c = ']' then .ok (d, rest)
    else do
      if first then
        let (d, rest) ← d.readMember m (c :: rest)
        readItems false d members rest
      else if c = ',' then
        match skipSpace rest with
        | [] => .error (.json .truncated)
        | e :: rest =>
          if e = ']' then .error (.json .malformed)
          else
            let (d, rest) ← d.readMember m (e :: rest)
            readItems false d members rest
      else .error (.json .malformed)

/-- Reads a configuration from a text that holds nothing else. -/
def read (s : String) : Except LoadError Config := do
  let (d, rest) ← match skipSpace s.toList with
    | '\x7b' :: rest => readMembers (rest.length + 1) true {} rest
    | '[' :: rest => readItems true {} Member.all rest
    | cs => .error (mismatch .config cs)
  if skipSpace rest = [] then .ok d.toConfig else .error (.json .malformed)

end DimensionalMetrics.Config
