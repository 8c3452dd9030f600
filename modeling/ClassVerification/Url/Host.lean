import ClassVerification.Fault
import ClassVerification.Number.Read
import ClassVerification.Percent
import ClassVerification.Text.LowerCase
import ClassVerification.Url.Domain

/-!
Hosts of web addresses: names, and numeric addresses of both lengths.
-/

namespace ClassVerification.Host

/-- One of the four numbers of a short address: at most 255, without a needless zero in front. -/
def isOctet (t : Text) : Bool :=
  !t.isEmpty && t.length ≤ 3 && t.all CodePoint.isDigit && Number.ofDigits t ≤ 255 &&
    (t.length = 1 || t.head? != some (.char '0'))

def isShortAddress (t : Text) : Bool :=
  let parts := t.split (.char '.')
  parts.length = 4 && parts.all isOctet

/-- Whether a host looks like a short address: four runs of digits with points between them. -/
def looksShort (t : Text) : Bool :=
  let parts := t.split (.char '.')
  parts.length = 4 && parts.all fun part => !part.isEmpty && part.all CodePoint.isDigit

/-- One of the eight numbers of a long address. -/
def isHextet (t : Text) : Bool :=
  !t.isEmpty && t.length ≤ 4 && t.all fun c => c.hexDigit?.isSome

/-- The parts of a long address, a short address at the end replaced by two of them. -/
def longParts? (t : Text) : Option (List Text) :=
  let parts := t.split (.char ':')
  if parts.length < 3 then none
  else match parts.getLast? with
    | none => none
    | some last =>
      if last.contains (.char '.') then
        if isShortAddress last then some (parts.dropLast ++ [Text.ofNat 0, Text.ofNat 0]) else none
      else some parts

/-- Whether parts with one gap, at an index, are a long address. -/
def isGapped (parts : List Text) (gap : Nat) : Bool :=
  let front := parts.take gap
  let back := parts.drop (gap + 1)
  let front := if front.head? = some [] then front.drop 1 else front
  let back := if back.getLast? = some [] then back.dropLast else back
  let openFront := parts.head? = some [] && !front.isEmpty
  let openBack := parts.getLast? = some [] && !back.isEmpty
  !openFront && !openBack && front.length + back.length < 8 && (front ++ back).all isHextet

def isLongAddress (t : Text) : Bool :=
  let (address, scope) := t.span (· != .char '%')
  let scopeOk := scope.isEmpty || (1 < scope.length && !(scope.drop 1).contains (.char '%'))
  !t.contains (.char '/') && scopeOk &&
    match longParts? address with
    | none => false
    | some parts =>
      let gaps := (List.range parts.length).filter fun i =>
        0 < i && i + 1 < parts.length && parts[i]? = some []
      parts.length ≤ 9 &&
        match gaps with
        | [] => parts.length = 8 && parts.all isHextet
        | [gap] => isGapped parts gap
        | _ => false

/-- The characters that may stand in a name besides letters, digits and escapes. -/
def isNameChar (c : CodePoint) : Bool :=
  let marks : Text := "!$&'()*+,;=\"`\x7b\x7d%|\\"
  Percent.isUnreserved c || marks.contains c

/-- The host as it is sent. -/
def normalize (host : Text) : Except Fault Text :=
  if host.isEmpty then .ok []
  else if looksShort host then
    if isShortAddress host then .ok host
    else .error (.invalidUrl ("Invalid IPv4 address: " ++ host.quoted))
  else if host.startsWith "[" && host.endsWith "]" then
    let inner := (host.drop 1).dropLast
    if isLongAddress inner then .ok inner
    else .error (.invalidUrl ("Invalid IPv6 address: " ++ host.quoted))
  else if host.all CodePoint.isAscii then
    match Percent.encodeAround isNameChar (Text.lowerBasic host) with
    | .ok name => .ok name
    | .error flaw => .error (.unencodable .utf8 flaw)
  else match Domain.encode host.lower with
    | .ok name => .ok name
    | .error _ => .error (.invalidUrl ("Invalid IDNA hostname: " ++ host.quoted))

/-- The host in letters of its script. Only one whose first label is spelled in basic letters is
read as a name. -/
def shown (host : Text) : Except Fault Text :=
  if host.startsWith Domain.mark then (Domain.decode host).mapError .notADomain else .ok host

end ClassVerification.Host
