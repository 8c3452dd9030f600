import ClassVerification.Url.Basic

/-!
Making an address anew from the parts of another one. Each part is looked at again, since escapes
make it longer than it was written.
-/

namespace ClassVerification.Url

/-- A part of an address under its name. -/
abbrev NamedPart := Text × Text

/-- Refuses a part that is too long or that holds what cannot be shown. -/
def checkNamed (part : NamedPart) : Except Fault Unit :=
  let (name, t) := part
  if lengthLimit < t.length then
    .error (.invalidUrl ("URL component '" ++ name ++ "' too long"))
  else match t.find? isNonPrintable with
    | some c =>
      .error (.invalidUrl ("Invalid non-printable ASCII character in URL " ++ name ++
        " component, " ++ Text.quoted [c] ++ " at position " ++
        Text.ofNat (indexOf isNonPrintable t) ++ "."))
    | none => .ok ()

def optionalPart (name : Text) : Option Text → List NamedPart
  | some t => [(name, t)]
  | none => []

/-- The parts that an address is made anew from. -/
def namedParts (u : Url) (fragment : Option Text) (host : Option Text) : List NamedPart :=
  let always : List NamedPart :=
    [("scheme", u.scheme), ("authority", u.authority), ("path", u.path)]
  always ++ optionalPart "query" u.query ++ optionalPart "fragment" fragment ++
    optionalPart "host" host

/-- An address made anew from the parts of another one, and from a host of its own if one is
given. -/
def rebuild (u : Url) (fragment : Option Text) (host : Option Text) : Except Fault Url := do
  (u.namedParts fragment host).forM checkNamed
  let pieces := splitAuthorityPieces u.authority
  let bracketed (host : Text) : Text :=
    if host.contains (.char ':') then "[" ++ host ++ "]" else host
  ofPieces ⟨u.scheme, u.authority, u.path, u.query, fragment⟩
    { pieces with host := host.elim pieces.host bracketed }

/-- An address without a host, taken from the root of no host at all. -/
def fromRoot (u : Url) : Except Fault Url :=
  let path := u.path.dropWhile (· = .char '/')
  rebuild ⟨[], [], [], none, "/" ++ path, u.query, none⟩ none none

/-- The address that a request is sent to. -/
def target (t : Text) : Except Fault Url := do
  let u ← ofText t
  if u.isAbsolute then return u else u.fromRoot

end ClassVerification.Url
