import ClassVerification.Text.Class
import ClassVerification.Text.Utf8
import ClassVerification.Url.Label
import ClassVerification.Url.Punycode

/-!
Domain names in any script, and how they are spelled in basic letters: label by label, each of them
checked.
-/

namespace ClassVerification

inductive DomainDefect where
  | empty
  | label (d : LabelDefect)
  | noContent
  | finalHyphen
  | unreadable
  | longLabel
  | tooLong
deriving DecidableEq, Repr

def DomainDefect.message : DomainDefect → Text
  | .empty => "Empty domain"
  | .label d => d.message
  | .noContent => "Malformed A-label, no Punycode eligible content found"
  | .finalHyphen => "A-label must not end with a hyphen"
  | .unreadable => "Invalid A-label"
  | .longLabel => "Label too long"
  | .tooLong => "Domain too long"

namespace Domain

def isLabelDot (c : CodePoint) : Bool :=
  c.value = 0x2E || c.value = 0x3002 || c.value = 0xFF0E || c.value = 0xFF61

/-- What a label starts with that is spelled in basic letters. -/
def mark : Text := "xn--"

/-- The labels of a name, cut at every kind of dot, and whether a dot ends the name. -/
def labels (name : Text) : Except DomainDefect (List Text × Bool) :=
  let parts := Text.split (.char '.') (name.map fun c => if isLabelDot c then .char '.' else c)
  if parts = [[]] then .error .empty
  else if parts.getLast? = some [] then .ok (parts.dropLast, true)
  else .ok (parts, false)

def checked (label : Text) : Except DomainDefect Text :=
  match Label.check label with
  | .ok () => .ok label
  | .error d => .error (.label d)

/-- The label that basic letters spell. -/
def readLabel (label : Text) : Except DomainDefect Text :=
  let label := Text.lowerBasic label
  match Text.dropPrefix? label mark with
  | none => checked label
  | some code =>
    if code.isEmpty then .error .noContent
    else if code.getLast? = some Label.hyphen then .error .finalHyphen
    else match Punycode.decode? code with
      | some label => checked label
      | none => .error .unreadable

/-- The most code points in a label that is spelled in basic letters. -/
def labelLimit : Nat := 63

/-- The spelling of a label in basic letters. One that has no others stands as it is. -/
def spellLabel (label : Text) : Except DomainDefect Text := do
  let spelled ←
    if label.all CodePoint.isAscii then (readLabel label).map fun _ => label
    else (checked label).map fun label => mark ++ Punycode.encode label
  if labelLimit < spelled.length then .error .longLabel else return spelled

/-- The most code points in a name, a dot at its end left out. -/
def nameLimit : Nat := 253

/-- Labels as a name. -/
def ofLabels (labels : List Text) (dotted : Bool) : Text :=
  Text.join "." (if dotted then labels ++ [[]] else labels)

/-- The spelling of a name in basic letters. -/
def encode (name : Text) : Except DomainDefect Text := do
  let (labels, dotted) ← labels name
  let spelled := ofLabels (← labels.mapM spellLabel) dotted
  if nameLimit + (if dotted then 1 else 0) < spelled.length then .error .tooLong else return spelled

/-- The name that basic letters spell. -/
def decode (name : Text) : Except DomainDefect Text := do
  let (labels, dotted) ← labels name
  return ofLabels (← labels.mapM readLabel) dotted

end Domain

end ClassVerification
