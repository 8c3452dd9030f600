import ClassVerification.Fault
import ClassVerification.Percent

/-!
The resources of the service: a template with one parameter, which stands as a single segment.
-/

namespace ClassVerification

inductive Endpoint where
  | getClass
  | getJobStatus
  | verifyClass
deriving DecidableEq, Repr

namespace Endpoint

/-- The fixed front of a template. -/
def stem : Endpoint → Text
  | .getClass => "/api/class/"
  | .getJobStatus => "/class-verify/job/"
  | .verifyClass => "/class-verify/"

/-- The path of the resource that a parameter names. -/
def path (e : Endpoint) (parameter : Text) : Except Fault Text :=
  match Percent.encodeSegment parameter with
  | .ok segment => .ok (e.stem ++ segment)
  | .error flaw => .error (.unencodable .utf8 flaw)

/-- The path for a parameter that comes as data, which has to be text. -/
def pathOf (e : Endpoint) : Json → Except Fault Text
  | .text parameter => e.path parameter
  | _ => .error .parameterNotText

end Endpoint

end ClassVerification
