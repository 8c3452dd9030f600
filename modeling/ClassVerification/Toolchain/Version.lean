import ClassVerification.Text.Class

/-!
The version that the build tool reports: a line that starts with its name, white space, and three
numbers with points between them.
-/

namespace ClassVerification.Toolchain

/-- A run of digits that has to start with one, and what follows it. -/
def number? (t : Text) : Option (Text × Text) :=
  let (digits, rest) := t.span CodePoint.isDecimalDigit
  if digits.isEmpty then none else some (digits, rest)

def point : Text := "."

/-- Three numbers with points between them, at the front of a text. -/
def triple? (t : Text) : Option Text := do
  let (major, rest) ← number? t
  let rest ← rest.dropPrefix? point
  let (minor, rest) ← number? rest
  let rest ← rest.dropPrefix? point
  let (patch, _) ← number? rest
  return major ++ point ++ minor ++ point ++ patch

/-- The version that a text reports at its front. -/
def reported? (t : Text) : Option Text := do
  let rest ← t.dropPrefix? "scarb"
  if rest.head?.any CodePoint.isBlank then triple? (rest.dropWhile CodePoint.isBlank) else none

/-- The first version reported at the start of a line. -/
def search (atStart : Bool) : Text → Option Text
  | [] => none
  | c :: rest =>
    match if atStart then reported? (c :: rest) else none with
    | some version => some version
    | none => search (c = .char '\n') rest

/-- The version in the output of the build tool. -/
def installedVersion? (output : Text) : Option Text := search true output

end ClassVerification.Toolchain
