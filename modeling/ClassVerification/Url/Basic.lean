import ClassVerification.Url.Host

/-!
Web addresses in normal form: scheme and host in lower case, no default port, dot segments resolved
and unsafe characters percent-encoded, while escapes are kept as they stand.
-/

namespace ClassVerification

structure Url where
  scheme : Text
  userInfo : Text
  host : Text
  port : Option Int
  path : Text
  query : Option Text
  fragment : Option Text
deriving DecidableEq, Repr

namespace Url

/-- The most code points in an address. -/
def lengthLimit : Nat := 65536

/-- Visible ASCII, and the blank. -/
def isVisible (c : CodePoint) : Bool := 0x20 ≤ c.value && c.value < 0x7F

def isNonPrintable (c : CodePoint) : Bool := c.isAscii && !isVisible c

def outside (marks : Text) (c : CodePoint) : Bool := isVisible c && !marks.contains c

/-- What may stand unencoded in a fragment. -/
def fragmentSafe : CodePoint → Bool := outside " \"<>`"

/-- What may stand unencoded in a query. -/
def querySafe : CodePoint → Bool := outside " \"#<>"

/-- What may stand unencoded in a path. -/
def pathSafe : CodePoint → Bool := outside " \"#<>?`\x7b\x7d"

/-- What may stand unencoded before the host. -/
def userInfoSafe : CodePoint → Bool := outside " \"#<>?`\x7b\x7d/;=@[\\]^|"

/-- The parts of an address as they are written. -/
structure Parts where
  scheme : Text
  authority : Text
  path : Text
  query : Option Text
  fragment : Option Text
deriving DecidableEq, Repr

def isSchemeChar (c : CodePoint) : Bool :=
  c.isUpperLatin || c.isLowerLatin || c.isDigit || c = .char '+' || c = .char '.' || c = .char '-'

/-- Splits off a scheme with its colon. The scheme may be empty. -/
def splitScheme (t : Text) : Text × Text :=
  let (scheme, rest) := t.span isSchemeChar
  let starts := match scheme with
    | [] => true
    | c :: _ => c.isUpperLatin || c.isLowerLatin
  match Text.dropPrefix? rest ":" with
  | some rest => if starts then (scheme, rest) else ([], t)
  | none => ([], t)

/-- Splits off two slashes and what follows up to the path. -/
def splitAuthority (t : Text) : Text × Text :=
  match Text.dropPrefix? t "//" with
  | some rest => rest.span fun c => c != .char '/' && c != .char '?' && c != .char '#'
  | none => ([], t)

/-- Splits off a question mark and what follows it up to the fragment. -/
def splitQuery (t : Text) : Option Text × Text :=
  match Text.dropPrefix? t "?" with
  | some rest =>
    let (query, rest) := rest.span (· != .char '#')
    (some query, rest)
  | none => (none, t)

def split (t : Text) : Parts :=
  let (scheme, rest) := splitScheme t
  let (authority, rest) := splitAuthority rest
  let (path, rest) := rest.span fun c => c != .char '?' && c != .char '#'
  let (query, rest) := splitQuery rest
  ⟨scheme, authority, path, query, Text.dropPrefix? rest "#"⟩

/-- Splits an authority at its last at sign. -/
def splitUserInfo (authority : Text) : Text × Text :=
  if authority.contains (.char '@') then
    let (back, front) := authority.reverse.span (· != .char '@')
    ((front.drop 1).reverse, back.reverse)
  else ([], authority)

/-- Splits a host, in brackets or up to a colon, from the port behind it. -/
def splitPort (t : Text) : Text × Text :=
  let dropColon (t : Text) : Text := if t.head? = some (.char ':') then t.drop 1 else t
  if t.head? = some (.char '[') && t.contains (.char ']') then
    let (back, front) := t.reverse.span (· != .char ']')
    (front.reverse, dropColon back.reverse)
  else
    let (host, rest) := t.span (· != .char ':')
    (host, dropColon rest)

/-- The port that a scheme stands for. -/
def defaultPort? (scheme : Text) : Option Int :=
  if scheme = "http" || scheme = "ws" then some 80
  else if scheme = "https" || scheme = "wss" then some 443
  else if scheme = "ftp" then some 21
  else none

def normalizePort (scheme port : Text) : Except Fault (Option Int) :=
  if port.isEmpty then .ok none
  else match Number.anyInt? port with
    | none => .error (.invalidUrl ("Invalid port: " ++ port.quoted))
    | some n => .ok (if defaultPort? scheme = some n then none else some n)

/-- One step of resolving dot segments: a single dot is dropped, a double dot takes the segment
before it along, unless that is the empty one in front of the first slash. -/
def pushSegment (resolved : List Text) (segment : Text) : List Text :=
  if segment = "." then resolved
  else if segment = ".." then
    if resolved = [[]] then resolved else resolved.dropLast
  else resolved ++ [segment]

/-- A path without dot segments. -/
def resolveDots (path : Text) : Text :=
  Text.join "/" ((path.split (.char '/')).foldl pushSegment [])

/-- Refuses a path that would be read as something else. -/
def checkPath (path : Text) (hasScheme hasAuthority : Bool) : Except Fault Unit :=
  if hasAuthority && !path.isEmpty && !path.startsWith "/" then
    .error (.invalidUrl "For absolute URLs, path must be empty or begin with '/'")
  else if !hasScheme && !hasAuthority && path.startsWith "//" then
    .error (.invalidUrl "Relative URLs cannot have a path starting with '//'")
  else if !hasScheme && !hasAuthority && path.startsWith ":" then
    .error (.invalidUrl "Relative URLs cannot have a path starting with ':'")
  else .ok ()

def encodePart (isSafe : CodePoint → Bool) (t : Text) : Except Fault Text :=
  match Percent.encodeAround isSafe t with
  | .ok t => .ok t
  | .error flaw => .error (.unencodable .utf8 flaw)

def encodeOptional (isSafe : CodePoint → Bool) : Option Text → Except Fault (Option Text)
  | none => .ok none
  | some t => (encodePart isSafe t).map some

/-- The pieces of an address that an authority is made of. -/
structure Authority where
  userInfo : Text
  host : Text
  port : Text
deriving DecidableEq, Repr

def splitAuthorityPieces (authority : Text) : Authority :=
  let (userInfo, rest) := splitUserInfo authority
  let (host, port) := splitPort rest
  ⟨userInfo, host, port⟩

/-- The normal form of written parts whose authority has been cut into pieces. -/
def ofPieces (p : Parts) (a : Authority) : Except Fault Url := do
  let userInfo ← encodePart userInfoSafe a.userInfo
  let host ← Host.normalize a.host
  let port ← normalizePort p.scheme a.port
  let hasScheme := !p.scheme.isEmpty
  let hasAuthority := !userInfo.isEmpty || !host.isEmpty || port.isSome
  checkPath p.path hasScheme hasAuthority
  let path := if hasScheme || hasAuthority then resolveDots p.path else p.path
  let path ← encodePart pathSafe path
  let query ← encodeOptional querySafe p.query
  let fragment ← encodeOptional fragmentSafe p.fragment
  return { scheme := Text.lowerBasic p.scheme, userInfo, host, port, path, query, fragment }

/-- The normal form of written parts. -/
def ofParts (p : Parts) : Except Fault Url := ofPieces p (splitAuthorityPieces p.authority)

/-- The position of the first code point of a class. -/
def indexOf (p : CodePoint → Bool) (t : Text) : Nat := (t.takeWhile (!p ·)).length

def ofText (t : Text) : Except Fault Url :=
  if lengthLimit < t.length then .error (.invalidUrl "URL too long")
  else match t.find? isNonPrintable with
    | some c =>
      .error (.invalidUrl ("Invalid non-printable ASCII character in URL, " ++
        Text.quoted [c] ++ " at position " ++ Text.ofNat (indexOf isNonPrintable t) ++ "."))
    | none => ofParts (split t)

/-- The host, in brackets if it holds colons, and the port. -/
def hostAndPort (u : Url) : Text :=
  let host : Text := if u.host.contains (.char ':') then "[" ++ u.host ++ "]" else u.host
  let port : Text := match u.port with
    | some n => ":" ++ Text.ofInt n
    | none => []
  host ++ port

def authority (u : Url) : Text :=
  if u.userInfo.isEmpty then u.hostAndPort else u.userInfo ++ "@" ++ u.hostAndPort

/-- A part with a mark in front, if it is there. -/
def marked (mark : Text) : Option Text → Text
  | some part => mark ++ part
  | none => []

def text (u : Url) : Text :=
  let scheme : Text := if u.scheme.isEmpty then [] else u.scheme ++ ":"
  let authority : Text := if u.authority.isEmpty then [] else "//" ++ u.authority
  scheme ++ authority ++ u.path ++ marked "?" u.query ++ marked "#" u.fragment

/-- Whether an address names the host to send to. -/
def isAbsolute (u : Url) : Bool := !u.scheme.isEmpty && !u.host.isEmpty

/-- Whether the host can be told to the server: it is readable, and its spelling is basic. -/
def checkHost (u : Url) : Except Fault Unit := do
  let _ ← Host.shown u.host
  match Unencodable.find CodePoint.isAscii 0 u.hostAndPort with
  | some flaw => .error (.unencodable .ascii flaw)
  | none => .ok ()

end Url

end ClassVerification
