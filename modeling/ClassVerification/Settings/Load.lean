import ClassVerification.Fault
import ClassVerification.Settings.Basic
import ClassVerification.Settings.DotEnv

/-!
Where settings come from: overrides first, then the environment, then the assignments of a file.
Names count in any case.
-/

namespace ClassVerification.Settings

/-- The value of an override: the first one under the name in any case. -/
def override? (overrides : Members Json) (name : Text) : Option Json :=
  (overrides.find? fun (k, _) => Text.lowerLatin k = name).map (·.2)

/-- The value assigned to a name, of several names that differ in case that of the last one. -/
def assigned? {α : Type} (assignments : Members α) (name : Text) : Option α :=
  (assignments.reverse.find? fun (k, _) => Text.lowerLatin k = name).map (·.2)

/-- The value that wins for a name. -/
def winner? (overrides : Members Json) (environment : Members Text)
    (file : Members (Option Text)) (name : Text) : Option Json :=
  match override? overrides name, assigned? environment name, assigned? file name with
  | some value, _, _ => some value
  | none, some t, _ => some (.text t)
  | none, none, some (some t) => some (.text t)
  | none, none, _ => none

/-- The members that settings are read from, a name without a value left out. -/
def gather (overrides : Members Json) (environment : Members Text)
    (file : Members (Option Text)) : Members Json :=
  names.filterMap fun name => (winner? overrides environment file name).map (name, ·)

def load (overrides : Members Json) (environment : Members Text) (file : Members (Option Text)) :
    Except Error Settings :=
  match ofMembers (gather overrides environment file) with
  | .ok settings => .ok settings
  | .error defects => .error (.malformed defects)

end ClassVerification.Settings
