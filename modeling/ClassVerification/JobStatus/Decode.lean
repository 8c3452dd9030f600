import ClassVerification.Fault

/-!
Statuses told by data. The code of a record has to be an integer; as a key, a truth value or a
binary number stands for the integer that it equals.
-/

namespace ClassVerification.JobStatus

/-- The status of a wire code. -/
def ofCode : Json → Except Failure JobStatus
  | .int n =>
    match ofCode? n with
    | some status => .ok status
    | none => .error (.unknownJobStatus (.int n))
  | value => .error (.unknownJobStatus value)

def ofLabel (value : Json) : Except Fault JobStatus :=
  match value with
  | .text t =>
    match ofLabel? t with
    | some status => .ok status
    | none => .error (.unknownLabel value)
  | _ => .error (.unknownLabel value)

/-- The status whose code a value equals as a key. -/
def ofKey? (value : Json) : Option JobStatus := value.keyInt?.bind ofCode?

end ClassVerification.JobStatus
