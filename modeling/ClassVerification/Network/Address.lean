import ClassVerification.Network.Parse
import ClassVerification.Settings.Current

/-!
The two root addresses of each network: the internal interface, which knows the classes, and the
public one, which takes submissions. Those of the custom network come from the settings.
-/

namespace ClassVerification.Network

/-- The internal and the public root address of a network, if it is not the custom one. -/
def fixedAddresses? : Network → Option (Text × Text)
  | .mainnet => some ("https://voyager.online", "https://api.voyager.online/beta")
  | .sepolia => some ("https://sepolia.voyager.online", "https://sepolia-api.voyager.online/beta")
  | .localhost => some ("http://localhost:8899", "http://localhost:30380")
  | .custom => none

/-- The internal and the public root address. An address that is not configured is empty. -/
def addresses (network : Network) (settings : Settings) : Text × Text :=
  network.fixedAddresses?.getD (settings.customInternalUrl, settings.customPublicUrl)

/-- Which of the two interfaces of the service is meant. -/
inductive Interface where
  | internalApi
  | publicApi
deriving DecidableEq, Repr

namespace Interface

def word : Interface → Text
  | .internalApi => "internal"
  | .publicApi => "public"

def settingName : Interface → Text
  | .internalApi => "CUSTOM_INTERNAL_API_ENDPOINT_URL"
  | .publicApi => "CUSTOM_PUBLIC_API_ENDPOINT_URL"

def of (addresses : Text × Text) : Interface → Text
  | .internalApi => addresses.1
  | .publicApi => addresses.2

end Interface

/-- The failure of a network that lacks an address. -/
def notConfigured (network : Network) (i : Interface) : Failure :=
  .configuration ("No " ++ i.word ++ " API endpoint configured for network '" ++ network.name ++
    "'. Set " ++ i.settingName ++ ".")

/-- An address that has to be there. -/
def requireAddress (network : Network) (i : Interface) (settings : Settings) :
    Except Failure Text :=
  let address := i.of (network.addresses settings)
  if address.isEmpty then .error (network.notConfigured i) else .ok address

/-- The addresses of a network told by data. The shared settings are looked at for the custom
network alone. -/
def addressesOf (value : Json) (settings : Option Settings) : SessionM (Text × Text) := do
  let network ← SessionM.orFault (ofJson value)
  match network.fixedAddresses? with
  | some pair => return pair
  | none => return network.addresses (← Settings.orCurrent settings)

/-- An address, which has to be there, of a network told by data. -/
def addressOf (value : Json) (i : Interface) (settings : Option Settings) : SessionM Text := do
  let pair ← addressesOf value settings
  let network ← SessionM.orFault (ofJson value)
  if (i.of pair).isEmpty then SessionM.fail (network.notConfigured i) else return i.of pair

end ClassVerification.Network
