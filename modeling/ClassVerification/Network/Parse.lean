import ClassVerification.Fault

/-!
Networks told by data: by a name as a person types it, or by the exact name.
-/

namespace ClassVerification.Network

/-- Reads a name with blanks around it and in any case. -/
def parse : Json → Except Fault Network
  | .text t =>
    match ofName? (Text.lowerLatin (Text.trimBlank t)) with
    | some network => .ok network
    | none => .error (.unknownNetworkName t)
  | value => .error (.noMember value.kind "strip")

/-- Takes the exact name and nothing else. -/
def ofJson : Json → Except Fault Network
  | .text t =>
    match ofName? t with
    | some network => .ok network
    | none => .error (.notANetwork (.text t))
  | value => .error (.notANetwork value)

end ClassVerification.Network
