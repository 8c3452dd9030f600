import ClassVerification.Json.Basic
import ClassVerification.Text.Class

/-!
The networks that a class can be verified on.
-/

namespace ClassVerification

inductive Network where
  | mainnet
  | sepolia
  | localhost
  | custom
deriving DecidableEq, Repr

namespace Network

def all : List Network := [.mainnet, .sepolia, .localhost, .custom]

def name : Network → Text
  | .mainnet => "mainnet"
  | .sepolia => "sepolia"
  | .localhost => "local"
  | .custom => "custom"

/-- The network of a name, written exactly. -/
def ofName? (t : Text) : Option Network := all.find? (·.name = t)

@[simp]
theorem ofName?_name (n : Network) : ofName? n.name = some n := by cases n <;> rfl

end Network

end ClassVerification
