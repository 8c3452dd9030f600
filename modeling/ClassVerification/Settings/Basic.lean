import ClassVerification.Field

/-!
The settings of the client, with their defaults, and how each is read from loose data.
-/

namespace ClassVerification

structure Settings where
  appLogLevel : Text := "INFO"
  appLogJson : Bool := false
  customInternalUrl : Text := []
  customPublicUrl : Text := []
  apiKey : Text := []
  httpTimeout : Binary64 := Binary64.ofNat 30
  usePollingCeiling : Bool := false
  pollingInterval : Binary64 := Binary64.ofNat 5
  defaultCeiling : Int := 10
  scarbBinary : Text := "scarb"
  compileTimeout : Int := 600
deriving DecidableEq, Repr

namespace Settings

/-- The names of the settings, in the order of declaration. -/
def names : List Text := [
  "app_log_level", "app_log_json", "custom_internal_api_endpoint_url",
  "custom_public_api_endpoint_url", "voyager_api_key", "http_timeout_seconds",
  "use_polling_max_retries", "polling_interval_seconds", "default_max_retries", "scarb_binary",
  "compile_timeout_seconds"]

/-- The settings that members spell, with a default for each that is missing, or what is wrong with
each of them. -/
def ofMembers (members : Members Json) : Except (List FieldDefect) Settings :=
  let d : Settings := {}
  let appLogLevel := Field.withDefault d.appLogLevel Field.text members "app_log_level"
  let appLogJson := Field.withDefault d.appLogJson Field.bool members "app_log_json"
  let customInternalUrl :=
    Field.withDefault d.customInternalUrl Field.text members "custom_internal_api_endpoint_url"
  let customPublicUrl :=
    Field.withDefault d.customPublicUrl Field.text members "custom_public_api_endpoint_url"
  let apiKey := Field.withDefault d.apiKey Field.text members "voyager_api_key"
  let httpTimeout := Field.withDefault d.httpTimeout Field.float members "http_timeout_seconds"
  let usePollingCeiling :=
    Field.withDefault d.usePollingCeiling Field.bool members "use_polling_max_retries"
  let pollingInterval :=
    Field.withDefault d.pollingInterval Field.float members "polling_interval_seconds"
  let defaultCeiling := Field.withDefault d.defaultCeiling Field.int members "default_max_retries"
  let scarbBinary := Field.withDefault d.scarbBinary Field.text members "scarb_binary"
  let compileTimeout :=
    Field.withDefault d.compileTimeout Field.int members "compile_timeout_seconds"
  let settings : Except FieldDefect Settings := do
    return {
      appLogLevel := ← appLogLevel
      appLogJson := ← appLogJson
      customInternalUrl := ← customInternalUrl
      customPublicUrl := ← customPublicUrl
      apiKey := ← apiKey
      httpTimeout := ← httpTimeout
      usePollingCeiling := ← usePollingCeiling
      pollingInterval := ← pollingInterval
      defaultCeiling := ← defaultCeiling
      scarbBinary := ← scarbBinary
      compileTimeout := ← compileTimeout }
  match settings with
  | .ok settings => .ok settings
  | .error _ =>
    .error (Field.defect? appLogLevel ++ Field.defect? appLogJson ++
      Field.defect? customInternalUrl ++ Field.defect? customPublicUrl ++ Field.defect? apiKey ++
      Field.defect? httpTimeout ++ Field.defect? usePollingCeiling ++
      Field.defect? pollingInterval ++ Field.defect? defaultCeiling ++ Field.defect? scarbBinary ++
      Field.defect? compileTimeout)

/-- The header that carries the API key, which an empty key leaves out. -/
def apiHeaders (s : Settings) : Members Text :=
  if s.apiKey.isEmpty then [] else [("x-api-key", s.apiKey)]

end Settings

end ClassVerification
