import ClassVerification.Url.Join
import ClassVerification.Url.Rebuild

/-!
Where a redirect leads. Its location may leave out the host, or all but a path; what is missing
comes from the address of the request. The fragment of the request is kept if the location has
none.
-/

namespace ClassVerification.Url

/-- The location of a redirect with the host of the request, if it has a scheme and no host. -/
def withHostOf (request location : Url) : Except Fault Url := do
  if location.scheme.isEmpty then return location
  else if !(← Host.shown location.host).isEmpty then return location
  else location.rebuild location.fragment (some (← Host.shown request.host))

/-- The location of a redirect, completed from the address of the request if it is a relative
one. -/
def madeAbsolute (request location : Url) : Except Fault Url :=
  if location.isAbsolute then .ok location
  else join request.text location.text >>= ofText

/-- The fragment of an address with its escapes resolved. -/
def shownFragment (u : Url) : Text := Percent.decodeReplacing (u.fragment.getD [])

/-- The place that a redirect leads to, with the fragment of the request unless it has its own. -/
def place (request location : Url) : Except Fault Url := do
  let location ← madeAbsolute request (← withHostOf request location)
  if !request.shownFragment.isEmpty && location.shownFragment.isEmpty then
    location.rebuild (some request.shownFragment) none
  else return location

/-- Checks that the location of a redirect leads to a place, and that its host can be read. -/
def checkRedirect (request location : Url) : Except Fault Unit := do
  let place ← place request location
  let _ ← Host.shown place.host

end ClassVerification.Url
