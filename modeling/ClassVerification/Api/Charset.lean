import ClassVerification.Api.Header
import ClassVerification.Charset.Basic

/-!
The character set that the type of some content names.
-/

namespace ClassVerification.Charset

/-- The bytes whose numbers code points have. -/
def bytesOfNumbers (t : Text) : List UInt8 := t.map fun c => c.value.toUInt8

/-- Looks a name up, in which no NUL may stand. -/
def find (name : Text) : Except CharsetDefect (Option Charset) :=
  if name.contains (.char '\x00') then .error .nullInName else .ok (ofName? name)

/-- What the content of a parameter spells. Where its bytes spell nothing, it is what they are
escaped as. -/
def textOf : Header.Content → Except CharsetDefect Text
  | .text t => .ok t
  | .bytes charset t => do
    let charset? ← find (if charset.isEmpty then "us-ascii" else charset)
    return (charset?.bind (·.decode? (bytesOfNumbers t))).getD t

/-- Whether of the segments of one parameter the first is numbered, if only some are. -/
def mixedSegments? : List Header.Segment → Option Bool
  | [] => none
  | first :: rest =>
    if rest.all (·.isNumbered = first.isNumbered) then none else some first.isNumbered

/-- Checks the segments of all parameters of a value: their numbers are read first, and then they
are put in order. -/
def checkSegments (value : Text) : Except CharsetDefect Unit :=
  let segments := Header.segments value
  match segments.find? fun (_, s) => Number.digitLimit < s.digits.length with
  | some (_, s) => .error (.tooManyDigits s.digits.length)
  | none =>
    match segments.findSome? fun (name, _) =>
        mixedSegments? ((segments.filter fun (k, _) => k = name).map (·.2)) with
    | some numberedFirst => .error (.mixedSegments numberedFirst)
    | none => .ok ()

/-- The character set that the type of some content names, if it names one. Names are ASCII. -/
def ofContentType (value : Text) : Except CharsetDefect (Option Charset) := do
  checkSegments value
  match Header.parameter? "charset" value with
  | none => return none
  | some content =>
    let name ← textOf content
    if name.all CodePoint.isAscii then find name else return none

end ClassVerification.Charset
