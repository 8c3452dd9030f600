import ClassVerification.Json.Basic
import ClassVerification.Number.Read
import ClassVerification.Percent

/-!
Headers of a response, and the parameters that a header's value may have behind semicolons. A long
parameter may come in numbered segments, and with escapes that tell the character set of its bytes.
-/

namespace ClassVerification.Header

/-- The values under a name, in any case. -/
def values (headers : Members Text) (name : Text) : List Text :=
  (headers.filter fun (k, _) => Text.lowerBasic k = name).map (·.2)

/-- The value of a header. Values that come apart are one value with commas in between. -/
def value? (headers : Members Text) (name : Text) : Option Text :=
  match values headers name with
  | [] => none
  | vs => some (Text.join ", " vs)

/-- Headers are ASCII, names and values. -/
def check (headers : Members Text) : Except Unencodable Unit :=
  match headers.findSome? fun (k, v) =>
      (Unencodable.find CodePoint.isAscii 0 k).or (Unencodable.find CodePoint.isAscii 0 v) with
  | some flaw => .error flaw
  | none => .ok ()

/-- The items of a list with commas, without blanks around them. -/
def items (value : Text) : List Text := (Text.split (.char ',') value).map Text.trimBlank

/-- A value cut at the semicolons that stand outside quotes. A quote behind a backslash does not
count. -/
def cut (quoted escaped : Bool) : Text → List Text
  | [] => [[]]
  | c :: rest =>
    if c = .char ';' && !quoted then [] :: cut quoted false rest
    else
      let quoted := if c = .char '"' && !escaped then !quoted else quoted
      match cut quoted (c = .char '\\') rest with
      | [] => [[c]]
      | part :: parts => (c :: part) :: parts

/-- A parameter: a name, and a value that is empty if there is none. -/
abbrev Parameter := Text × Text

/-- Takes the first of two code points away wherever they stand together. -/
def dropBefore (mark next : CodePoint) : Text → Text
  | [] => []
  | [c] => [c]
  | c :: d :: rest =>
    if c = mark && d = next then d :: dropBefore mark next rest
    else c :: dropBefore mark next (d :: rest)

/-- A value without the quotes or the brackets around it. -/
def unquote (t : Text) : Text :=
  let inner := (t.drop 1).dropLast
  if t.length < 2 then t
  else if t.startsWith "\"" && t.endsWith "\"" then
    dropBefore (.char '\\') (.char '"') (dropBefore (.char '\\') (.char '\\') inner)
  else if t.startsWith "<" && t.endsWith ">" then inner
  else t

def parameterOf (part : Text) : Parameter :=
  let (name, rest) := part.span (· != .char '=')
  if rest.isEmpty then (Text.trimBlank part, [])
  else (Text.lowerBasic (Text.trimBlank name), unquote (Text.trimBlank (rest.drop 1)))

/-- The parameters of a value. What stands before the first semicolon is one of them. -/
def parameters (value : Text) : List Parameter := (cut false false value).map parameterOf

/-- A segment of a parameter, with the digits of its number if it has one. -/
structure Segment where
  digits : Text
  value : Text
  escaped : Bool
deriving DecidableEq, Repr

namespace Segment

def isNumbered (s : Segment) : Bool := !s.digits.isEmpty

def number (s : Segment) : Option Nat :=
  if s.isNumbered then some (Number.ofDigits s.digits) else none

end Segment

def isWordPart (c : CodePoint) : Bool :=
  c.isUpperLatin || c.isLowerLatin || c.isDigit || c = .char '_'

/-- The segment that a parameter is, with the name of the parameter that it belongs to: behind a
star there may be a number, and behind that another star for escapes. -/
def segment? (p : Parameter) : Option (Text × Segment) :=
  let (name, rest) := p.1.span isWordPart
  let escaped := p.1.getLast? = some (.char '*')
  match rest with
  | [.char '*'] => if name.isEmpty then none else some (name, ⟨[], p.2, escaped⟩)
  | .char '*' :: rest =>
    let (digits, rest) := rest.span CodePoint.isDigit
    if name.isEmpty || digits.isEmpty || !(rest.isEmpty || rest = "*") then none
    else some (name, ⟨digits, p.2, escaped⟩)
  | _ => none

/-- The order of segments: by their numbers, and then by what they say. -/
def Segment.le (a b : Segment) : Bool :=
  if a.number != b.number then
    match a.number, b.number with
    | some m, some n => m ≤ n
    | none, _ => true
    | some _, none => false
  else if a.value != b.value then Text.le a.value b.value
  else !a.escaped || b.escaped

/-- Text in which each escape stands for the code point with the number of its byte. -/
def unescape (t : Text) : Text :=
  (Percent.units t).flatMap fun u =>
    (Percent.unitBytes u).map fun b => .char (Char.ofNat b.toNat)

def Segment.text (s : Segment) : Text := if s.escaped then unescape s.value else s.value

/-- What a parameter says: text, or bytes in a character set. -/
inductive Content where
  | text (t : Text)
  | bytes (charset : Text) (t : Text)
deriving DecidableEq, Repr

/-- Splits at the first two ticks, if there are two. -/
def splitTicks? (t : Text) : Option (Text × Text) :=
  match Text.split (.char '\'') t with
  | charset :: _ :: first :: more => some (charset, Text.join "'" (first :: more))
  | _ => none

/-- What segments say together. If one has escapes, the character set stands in front, and the
language, each with a tick behind it; without those it is ASCII. -/
def assemble (segments : List Segment) : Content :=
  let segments := segments.mergeSort Segment.le
  let joined := segments.flatMap Segment.text
  if !segments.any Segment.escaped then .text joined
  else match splitTicks? joined with
    | some (charset, t) => .bytes charset t
    | none => .bytes [] joined

/-- The segments of all parameters of a value, with their names. What stands before the first
semicolon is never a segment. -/
def segments (value : Text) : List (Text × Segment) :=
  ((parameters value).drop 1).filterMap segment?

/-- What a parameter says that is told by its name in any case. The first plain one counts before
those in segments. -/
def parameter? (name : Text) (value : Text) : Option Content :=
  let named (k : Text) : Bool := Text.lowerBasic k = name
  let isPlain (p : Parameter × Nat) : Bool := p.2 = 0 || (segment? p.1).isNone
  match (parameters value).zipIdx.find? fun p => isPlain p && named p.1.1 with
  | some (p, _) => some (.text p.2)
  | none =>
    let segments := segments value
    match segments.find? fun (k, _) => named k with
    | some (k, _) => some (assemble ((segments.filter fun s => s.1 = k).map (·.2)))
    | none => none

end ClassVerification.Header
