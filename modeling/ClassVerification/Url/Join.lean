import ClassVerification.Url.Basic

/-!
Completing a relative address from the one that it was found at. Both are cut anew, by rules that
are older than those of the normal form: a part that is missing counts as an empty one, and the last
segment of a path may end in parameters.
-/

namespace ClassVerification.Url

/-- The pieces that an address is completed from. -/
structure Pieces where
  scheme : Text
  authority : Text
  path : Text
  parameters : Text
  query : Text
  fragment : Text
deriving DecidableEq, Repr

namespace Pieces

/-- The schemes whose addresses may be relative ones. -/
def relativeSchemes : List Text :=
  ["ftp", "http", "gopher", "nntp", "imap", "wais", "file", "https", "shttp", "mms", "prospero",
    "rtsp", "rtsps", "rtspu", "sftp", "svn", "svn+ssh", "ws", "wss"]

/-- The schemes whose paths may end in parameters. -/
def parameterSchemes : List Text :=
  ["ftp", "hdl", "prospero", "http", "imap", "https", "shttp", "rtsp", "rtsps", "rtspu", "sip",
    "sips", "mms", "sftp", "tel"]

/-- Splits off a scheme that is not empty. An address without one has the given scheme. -/
def cutScheme (given t : Text) : Text × Text :=
  match splitScheme t with
  | ([], _) => (given, t)
  | (scheme, rest) => (Text.lowerBasic scheme, rest)

/-- Cuts a text at the first mark of a kind, which is dropped. -/
def cutAt (mark : CodePoint) (t : Text) : Text × Text :=
  let (front, rest) := t.span (· != mark)
  (front, rest.drop 1)

/-- Cuts off the parameters of the last segment of a path. -/
def cutParameters (path : Text) : Text × Text :=
  let (back, front) := path.reverse.span (· != .char '/')
  let (segment, parameters) := cutAt (.char ';') back.reverse
  (front.reverse ++ segment, parameters)

/-- Checks what stands in brackets in place of a host. -/
def checkBracketed (host : Text) : Except Fault Unit :=
  if host.startsWith "v" then
    let (version, rest) := (host.drop 1).span fun c => c.hexDigit?.isSome
    if !version.isEmpty && rest.head? = some (.char '.') && 1 < rest.length then .ok ()
    else .error (.badBrackets "IPvFuture address is invalid")
  else if Host.isShortAddress host then
    .error (.badBrackets "An IPv4 address cannot be in brackets")
  else if Host.isLongAddress host then .ok ()
  else .error (.badBrackets (host.quoted ++ " does not appear to be an IPv4 or IPv6 address"))

/-- Checks that the brackets of an authority are paired, and what they hold. -/
def checkBrackets (authority : Text) : Except Fault Unit :=
  match authority.contains (.char '['), authority.contains (.char ']') with
  | false, false => .ok ()
  | true, true =>
    checkBracketed ((cutAt (.char ']') (cutAt (.char '[') authority).2).1)
  | _, _ => .error (.badBrackets "Invalid IPv6 URL")

/-- The pieces of an address that has the given scheme if it names none. -/
def ofText (given t : Text) : Except Fault Pieces := do
  let (scheme, rest) := cutScheme given t
  let (authority, rest) := splitAuthority rest
  checkBrackets authority
  let (rest, fragment) := cutAt (.char '#') rest
  let (path, query) := cutAt (.char '?') rest
  let (path, parameters) :=
    if parameterSchemes.contains scheme then cutParameters path else (path, [])
  return { scheme, authority, path, parameters, query, fragment }

/-- A piece with a mark in front, unless it is empty. -/
def marked (mark piece : Text) : Text := if piece.isEmpty then [] else mark ++ piece

/-- The address that pieces with an authority make. -/
def text (p : Pieces) : Text :=
  let path := p.path ++ marked ";" p.parameters
  let slash : Text := if path.isEmpty || path.startsWith "/" then [] else "/"
  p.scheme ++ "://" ++ p.authority ++ slash ++ path ++ marked "?" p.query ++ marked "#" p.fragment

/-- Leaves out the empty segments between the first and the last one. -/
def dropInnerEmpty : List Text → List Text
  | [] => []
  | first :: rest => first :: (rest.dropLast.filter (!·.isEmpty) ++ rest.getLast?.toList)

/-- The segments of a path as it is found at another one, in whose folder it starts unless it has a
slash in front. -/
def segmentsFrom (base path : Text) : List Text :=
  let segments := path.split (.char '/')
  if path.startsWith "/" then segments
  else
    let folders := base.split (.char '/')
    let folders := if folders.getLast? = some [] then folders else folders.dropLast
    dropInnerEmpty (folders ++ segments)

/-- One step of following segments. Nothing is above the first one. -/
def follow (followed : List Text) (segment : Text) : List Text :=
  if segment = "." then followed
  else if segment = ".." then followed.dropLast
  else followed ++ [segment]

/-- The path that another one leads to. -/
def pathFrom (base path : Text) : Text :=
  let segments := segmentsFrom base path
  let followed := segments.foldl follow []
  let isFolder := segments.getLast? = some "." || segments.getLast? = some ".."
  let joined := Text.join "/" (if isFolder then followed ++ [[]] else followed)
  if joined.isEmpty then "/" else joined

/-- The pieces of an address that has no authority of its own, completed from those of another. -/
def complete (base p : Pieces) : Pieces :=
  if p.path.isEmpty && p.parameters.isEmpty then
    { p with
      authority := base.authority
      path := base.path
      parameters := base.parameters
      query := if p.query.isEmpty then base.query else p.query }
  else { p with authority := base.authority, path := pathFrom base.path p.path }

end Pieces

/-- The address that a location stands for where it is found at an address with a host. -/
def join (base location : Text) : Except Fault Text :=
  if location.isEmpty then .ok base
  else do
    let whole ← Pieces.ofText [] base
    let pieces ← Pieces.ofText whole.scheme location
    if pieces.scheme ≠ whole.scheme || !Pieces.relativeSchemes.contains pieces.scheme then
      return location
    else if !pieces.authority.isEmpty then return pieces.text
    else return (whole.complete pieces).text

end ClassVerification.Url
