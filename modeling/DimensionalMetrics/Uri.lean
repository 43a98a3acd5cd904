import DimensionalMetrics.Uri.Address
import DimensionalMetrics.Uri.Domain
import DimensionalMetrics.Uri.Percent

/-!
# Addresses of backends

Where payloads are sent is an absolute address: a scheme, in most schemes a host, then a path, a
query and a fragment.  Six schemes are *special*: they need a host that is a domain name or a number
(`file` may do without), have slashes that may lean either way, and know their usual ports.  Reading
an address brings it into a normal form, and `Uri.text` writes that form.
-/

namespace DimensionalMetrics

namespace Uri

/-- Why a text is no address. -/
inductive Fault where
  | noScheme
  | emptyHost
  | badPort
  | badDotted
  | badColons
  | badName
  | badHostCharacter
deriving DecidableEq, Repr

def Fault.message : Fault → String
  | noScheme => "relative URL without a base"
  | emptyHost => "empty host"
  | badPort => "invalid port number"
  | badDotted => "invalid IPv4 address"
  | badColons => "invalid IPv6 address"
  | badName => "invalid international domain name"
  | badHostCharacter => "invalid domain character"

/-- A host. -/
inductive Host where
  | name (cs : List Char)
  | dotted (address : Nat)
  | colons (groups : List Nat)
deriving DecidableEq

def Host.chars : Host → List Char
  | name cs => cs
  | dotted address => dottedText address
  | colons groups => colonsText groups

/-- What stands between the two slashes and the path. -/
structure Authority where
  /-- Name and password, encoded, without the sign that ends them. -/
  credentials : List Char := []
  host : Host := .name []
  port : Option Nat := none
deriving DecidableEq

/-- A path: one piece of text, or segments that each follow a slash. -/
inductive Path where
  | rootless (cs : List Char)
  | segments (parts : List (List Char))
deriving DecidableEq

end Uri

/-- An absolute address. -/
structure Uri where
  scheme : List Char
  authority : Option Uri.Authority
  path : Uri.Path
  query : Option (List Char)
  fragment : Option (List Char)
deriving DecidableEq

namespace Uri

/-! ### Schemes -/

/-- How a scheme treats what follows it. -/
inductive Family where
  | file
  | hosted
  | general
deriving DecidableEq

def family (scheme : List Char) : Family :=
  let s := String.ofList scheme
  if s = "file" then .file
  else if ["http", "https", "ws", "wss", "ftp"].contains s then .hosted
  else .general

/-- The port that a scheme uses unless another one is given. -/
def usualPort? (scheme : List Char) : Option Nat :=
  [("http", 80), ("ws", 80), ("https", 443), ("wss", 443), ("ftp", 21)].lookup
    (String.ofList scheme)

/-- The scheme before the first colon, in lower case, and the text after the colon. -/
def readScheme? (cs : List Char) : Option (List Char × List Char) :=
  let inScheme (c : Char) : Bool := c.isAlphanum || c = '+' || c = '-' || c = '.'
  match cs, cs.dropWhile inScheme with
  | c :: _, ':' :: rest =>
    if c.isAlpha then some ((cs.takeWhile inScheme).map Char.toLower, rest) else none
  | _, _ => none

/-- Whether a slash of either direction separates segments. -/
def isSlash (fam : Family) (c : Char) : Bool := c = '/' || (fam ≠ .general && c = '\\')

def endsAuthority (fam : Family) (c : Char) : Bool := isSlash fam c || c = '?' || c = '#'

/-! ### Hosts -/

def readHost (cs : List Char) : Except Fault Host :=
  if cs.head? = some '[' then
    if cs.getLast? = some ']' then
      match readColons? (cs.drop 1).dropLast with
      | some groups => .ok (.colons groups)
      | none => .error .badColons
    else .error .badColons
  else
    match (String.fromUTF8? ⟨(percentDecode cs).toArray⟩).bind fun s => nameInAscii? s.toList with
    | none => .error .badName
    | some [] => .error .emptyHost
    | some name =>
      if endsInNumber name then
        match readDotted? name with
        | some address => .ok (.dotted address)
        | none => .error .badDotted
      else .ok (.name name)

def readGeneralHost (cs : List Char) : Except Fault Host :=
  let isForbidden (c : Char) : Bool :=
    ['\x00', '\t', '\n', '\r', ' ', '#', '/', ':', '<', '>', '?', '@', '[', '\\', ']', '^',
      '|'].contains c
  if cs.head? = some '[' then
    if cs.getLast? = some ']' then
      match readColons? (cs.drop 1).dropLast with
      | some groups => .ok (.colons groups)
      | none => .error .badColons
    else .error .badColons
  else if cs.any isForbidden then .error .badHostCharacter
  else .ok (.name (percentEncode isControlOrForeign cs))

/-- The text of a host, which a colon ends unless it stands in brackets, and what follows it. -/
def spanHost : Bool → List Char → List Char × List Char
  | _, [] => ([], [])
  | bracketed, c :: rest =>
    if c = ':' ∧ !bracketed then ([], c :: rest)
    else
      let bracketed := if c = '[' then true else if c = ']' then false else bracketed
      let (host, rest) := spanHost bracketed rest
      (c :: host, rest)

/-- A port after its colon; no digits at all leave the usual one. -/
def readPort (scheme : List Char) (cs : List Char) : Except Fault (Option Nat × List Char) :=
  let digits := cs.takeWhile Char.isDigit
  let rest := cs.dropWhile Char.isDigit
  let port := (numberToBase? 10 digits).getD 0
  if 65535 < port then .error .badPort
  else
    match rest with
    | [] => .ok (chosen digits port, rest)
    | c :: _ =>
      if c = '/' ∨ c = '\\' ∨ c = '?' ∨ c = '#' then .ok (chosen digits port, rest)
      else .error .badPort
where
  /-- The port to write, if it is not the usual one. -/
  chosen (digits : List Char) (port : Nat) : Option Nat :=
    if digits = [] ∨ usualPort? scheme = some port then none else some port

/-- Credentials, encoded: the name, and after a colon the password unless it is empty. -/
def readCredentials (cs : List Char) : List Char :=
  let name := cs.takeWhile (· ≠ ':')
  let password := (cs.dropWhile (· ≠ ':')).drop 1
  percentEncode inCredentialSet name ++
    (if password = [] then [] else ':' :: percentEncode inCredentialSet password)

/-- An authority after its slashes, and the text after it. -/
def readAuthority (scheme : List Char) (cs : List Char) :
    Except Fault (Authority × List Char) := do
  let fam := family scheme
  let place := cs.takeWhile (!endsAuthority fam ·)
  let signed := place.contains '@'
  let credentials := if signed then
      ((place.reverse.dropWhile (· ≠ '@')).drop 1).reverse else []
  let rest := if signed then cs.drop (credentials.length + 1) else cs
  if signed ∧ credentials = [] ∧ (rest.head?.map (endsAuthority fam)).getD false then
    throw .emptyHost
  let encoded := readCredentials credentials
  let (hostText, afterHost) := spanHost false (rest.takeWhile (!endsAuthority fam ·))
  let after := afterHost ++ rest.dropWhile (!endsAuthority fam ·)
  if fam = .hosted ∧ hostText = [] then throw .emptyHost
  let host ← if fam = .general then readGeneralHost hostText else readHost hostText
  if host = .name [] ∧ after.head? = some ':' then throw .emptyHost
  let (port, after) ←
    match after with
    | ':' :: after => readPort scheme after
    | after => pure (none, after)
  if host = .name [] ∧ encoded ≠ [] then throw .emptyHost
  return (⟨encoded, host, port⟩, after)

/-! ### Paths -/

/-- A segment that stands for the place where it is. -/
def isDot (cs : List Char) : Bool := [".", "%2e"].contains (String.ofList (cs.map Char.toLower))

/-- A segment that stands for the place above. -/
def isDotDot (cs : List Char) : Bool :=
  ["..", ".%2e", "%2e.", "%2e%2e"].contains (String.ofList (cs.map Char.toLower))

/-- A letter and a colon, or a bar in its place: the name of a drive. -/
def isDrive : List Char → Bool
  | [c, d] => c.isAlpha && (d = ':' || d = '|')
  | _ => false

/-- Whether a segment begins with the name of a drive that nothing or a backslash follows. -/
def beginsWithDrive (cs : List Char) : Bool :=
  isDrive (cs.take 2) && (cs.length = 2 || cs[2]? = some '\\')

/-- The segments without the last one.  A drive stays. -/
def dropSegment (parts : List (List Char)) : List (List Char) :=
  if (parts.getLast?.map beginsWithDrive).getD false then parts else parts.dropLast

/-- Resolves encoded segments in turn; the last one has no slash after it.  If `namesDrive`, a drive
that comes first is written with its colon. -/
def resolve (namesDrive : Bool) : List (List Char) → List (List Char) → List (List Char)
  | parts, [] => parts
  | parts, segment :: more =>
    let closing : List (List Char) := if more = [] then [[]] else []
    if isDotDot segment then resolve namesDrive (dropSegment parts ++ closing) more
    else if isDot segment then resolve namesDrive (parts ++ closing) more
    else if namesDrive ∧ parts = [] ∧ isDrive segment then
      resolve namesDrive [segment.take 1 ++ [':']] more
    else resolve namesDrive (parts ++ [segment]) more

/-- The segments of a path, which begins after its first slash. -/
def readSegments (fam : Family) (namesDrive : Bool) (cs : List Char) : List (List Char) :=
  resolve namesDrive [] ((pieces (isSlash fam) cs).map (percentEncode inPathSet))

/-- A path after an authority, or at the start of the text, without its first slash. -/
def afterSlash (fam : Family) (cs : List Char) : List Char :=
  match cs with
  | [] => []
  | c :: rest => if isSlash fam c then rest else c :: rest

/-- A path after an authority.  It may be empty in a general scheme only. -/
def readPath (fam : Family) (cs : List Char) : Path :=
  if fam = .general ∧ cs = [] then .segments []
  else .segments (readSegments fam false (afterSlash fam cs))

/-- The path of a file, which begins with one slash. -/
def filePath (parts : List (List Char)) : Path :=
  match parts.dropWhile (· = []) with
  | [] => .segments [[]]
  | kept => .segments kept

/-! ### Whole addresses -/

/-- The text without the blanks and controls at its ends and without line breaks and tabs. -/
def strip (cs : List Char) : List Char :=
  let isBlank (c : Char) : Bool := c.toNat ≤ 0x20
  let trimmed := ((cs.dropWhile isBlank).reverse.dropWhile isBlank).reverse
  trimmed.filter fun c => c ≠ '\t' && c ≠ '\n' && c ≠ '\r'

/-- The text up to a query or a fragment, and the rest. -/
def spanPath (cs : List Char) : List Char × List Char :=
  (cs.takeWhile fun c => c ≠ '?' && c ≠ '#', cs.dropWhile fun c => c ≠ '?' && c ≠ '#')

/-- What follows the scheme of an address, up to the query. -/
structure Place where
  authority : Option Authority
  path : Path
  /-- The query and the fragment, which are still to be read. -/
  rest : List Char

/-- The place of a file that has no authority. -/
def readLocalFile (cs : List Char) : Place :=
  let (path, rest) := spanPath cs
  ⟨some {}, filePath (readSegments .file true (afterSlash .file path)), rest⟩

/-- The place of a file after two slashes: the text up to the next slash is the host, unless it names
a drive.  A file on a drive has no host.  Where the host is left empty the path stays as it is
spelled. -/
def readFilePlace (cs : List Char) : Except Fault Place := do
  let text := cs.takeWhile (!endsAuthority .file ·)
  if isDrive text then return readLocalFile cs
  else
    let (path, rest) := spanPath (cs.dropWhile (!endsAuthority .file ·))
    let host ← if text = [] then pure (.name []) else readHost text
    if host = .name [] ∨ host = .name "localhost".toList then
      return ⟨some {}, filePath (readSegments .file false (afterSlash .file path)), rest⟩
    else
      let parts := readSegments .file true (afterSlash .file path)
      let authority : Authority := if (parts.head?.map isDrive).getD false then {} else { host }
      return ⟨some authority, filePath parts, rest⟩

/-- The place that the text after the scheme begins with. -/
def readPlace (scheme : List Char) (cs : List Char) : Except Fault Place :=
  match family scheme with
  | .hosted => do
    let (authority, rest) ← readAuthority scheme (cs.dropWhile (isSlash .hosted))
    let (path, rest) := spanPath rest
    return ⟨some authority, readPath .hosted path, rest⟩
  | .file =>
    match cs with
    | a :: b :: rest =>
      if isSlash .file a ∧ isSlash .file b then readFilePlace rest else return readLocalFile cs
    | _ => return readLocalFile cs
  | .general =>
    match cs with
    | '/' :: '/' :: rest => do
      let (authority, rest) ← readAuthority scheme rest
      let (path, rest) := spanPath rest
      return ⟨some authority, readPath .general path, rest⟩
    | '/' :: rest =>
      let (path, rest) := spanPath rest
      return ⟨none, .segments (readSegments .general false path), rest⟩
    | _ =>
      let (path, rest) := spanPath cs
      return ⟨none, .rootless (percentEncode isControlOrForeign path), rest⟩

def read (s : String) : Except Fault Uri := do
  let cs := strip s.toList
  match readScheme? cs with
  | none => throw .noScheme
  | some (scheme, rest) =>
    let place ← readPlace scheme rest
    let query := match place.rest with
      | '?' :: rest => some (rest.takeWhile (· ≠ '#'))
      | _ => none
    let fragment := match place.rest.dropWhile (· ≠ '#') with
      | _ :: rest => some rest
      | [] => none
    let special := family scheme ≠ .general
    return {
      scheme
      authority := place.authority
      path := place.path
      query := query.map (percentEncode (inQuerySet special))
      fragment := fragment.map (percentEncode inFragmentSet) }

/-! ### Text -/

/-- A path as text.  Without an authority its start must not look like one. -/
def Path.chars (hasAuthority : Bool) : Path → List Char
  | rootless cs => cs
  | segments parts =>
    let cs := parts.flatMap ('/' :: ·)
    if !hasAuthority && ['/', '/'].isPrefixOf cs then ['/', '.'] ++ cs else cs

def Authority.chars (a : Authority) : List Char :=
  ['/', '/'] ++ (if a.credentials = [] then [] else a.credentials ++ ['@']) ++ a.host.chars ++
    (match a.port with
      | some port => ':' :: Decimal.digits port
      | none => [])

def chars (u : Uri) : List Char :=
  u.scheme ++ ':' :: ((u.authority.map Authority.chars).getD [] ++
    u.path.chars u.authority.isSome ++ ((u.query.map ('?' :: ·)).getD []) ++
    ((u.fragment.map ('#' :: ·)).getD []))

def text (u : Uri) : String := String.ofList u.chars

def encodesText (cs : List Char) : Bool := (String.fromUTF8? ⟨(percentDecode cs).toArray⟩).isSome

/-- Whether credentials can be taken out of an address: the name is text, and it is not empty unless
there is a password that is text. -/
def Authority.hasReadableCredentials (a : Authority) : Bool :=
  let name := a.credentials.takeWhile (· ≠ ':')
  let hasPassword : Bool :=
    match a.credentials.dropWhile (· ≠ ':') with
    | [] => false
    | _ :: password => encodesText password
  encodesText name && (name ≠ [] || hasPassword)

/-- The address without name and password, as requests and messages show it, if these can be
read. -/
def withoutCredentials (u : Uri) : Uri :=
  { u with
    authority := u.authority.map fun a =>
      if a.hasReadableCredentials then { a with credentials := [] } else a }

def isWeb (u : Uri) : Bool := u.scheme = "http".toList || u.scheme = "https".toList

end Uri

end DimensionalMetrics
