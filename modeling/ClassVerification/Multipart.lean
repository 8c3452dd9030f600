import ClassVerification.Text.Utf8

/-!
Form bodies of several parts. Each part is a field name and a text between two lines of the
boundary; marks in a name that could end it are escaped.
-/

namespace ClassVerification.Multipart

/-- A name and a text. -/
abbrev FormField := Text × Text

def lineEnd : Text := "\r\n"

def hexPair (n : Nat) : Text :=
  (Text.ofHex 2 n).map fun
    | .char c => .char c.toUpper
    | c => c

/-- A code point of a name as it is written between quotes. -/
def escapeNameChar (c : CodePoint) : Text :=
  if c = .char '"' then "%22"
  else if c = .char '\\' then "\\\\"
  else if c.value < 0x20 && c.value != 0x1B then "%" ++ hexPair c.value
  else [c]

def nameParameter (name : Text) : Text := "name=\"" ++ name.flatMap escapeNameChar ++ "\""

def delimiter (boundary : Text) : Text := "--" ++ boundary

def part (boundary : Text) (field : FormField) : Text :=
  delimiter boundary ++ lineEnd ++ "Content-Disposition: form-data; " ++ nameParameter field.1 ++
    lineEnd ++ lineEnd ++ field.2 ++ lineEnd

/-- The body of a form. -/
def body (boundary : Text) (fields : List FormField) : Text :=
  fields.flatMap (part boundary) ++ delimiter boundary ++ "--" ++ lineEnd

def contentType (boundary : Text) : Text := "multipart/form-data; boundary=" ++ boundary

/-- The first name or text of a form that cannot be written in UTF-8. -/
def checkAll (texts : List Text) : Except Unencodable Unit :=
  match texts.findSome? (Unencodable.find CodePoint.isScalar 0) with
  | some flaw => .error flaw
  | none => .ok ()

end ClassVerification.Multipart
