import ClassVerification.Json.Basic
import ClassVerification.Number.Read

/-!
Reading JSON from text. Besides the standard grammar the three names `NaN`, `Infinity` and
`-Infinity` are numbers, and a string may hold an escaped surrogate without its partner.
-/

namespace ClassVerification.Json.Parser

def isSpace (c : CodePoint) : Bool :=
  c = .char ' ' || c = .char '\t' || c = .char '\n' || c = .char '\r'

def skipSpace (t : Text) : Text := t.dropWhile isSpace

/-- Four hexadecimal digits as a number. -/
def hex4? : Text → Option (Nat × Text)
  | a :: b :: c :: d :: rest => do
    let a ← a.hexDigit?
    let b ← b.hexDigit?
    let c ← c.hexDigit?
    let d ← d.hexDigit?
    return (((a * 16 + b) * 16 + c) * 16 + d, rest)
  | _ => none

def isHighSurrogate (n : Nat) : Bool := 0xD800 ≤ n && n < 0xDC00

def isLowSurrogate (n : Nat) : Bool := 0xDC00 ≤ n && n < 0xE000

/-- The code point of a numeric escape whose mark has been read. Two escapes that spell a surrogate
pair are one code point. -/
def numericEscape? (t : Text) : Option (CodePoint × Text) := do
  let (high, rest) ← hex4? t
  let alone := (CodePoint.ofNat? high).map (·, rest)
  if !isHighSurrogate high then alone
  else match rest with
    | .char '\\' :: .char 'u' :: after => do
      let (low, after) ← hex4? after
      if isLowSurrogate low then
        let c ← CodePoint.ofNat? (0x10000 + (high - 0xD800) * 0x400 + (low - 0xDC00))
        return (c, after)
      else alone
    | _ => alone

/-- The code point of an escape whose backslash has been read. -/
def escape? : Text → Option (CodePoint × Text)
  | .char 'u' :: rest => numericEscape? rest
  | .char '"' :: rest => some (.char '"', rest)
  | .char '\\' :: rest => some (.char '\\', rest)
  | .char '/' :: rest => some (.char '/', rest)
  | .char 'b' :: rest => some (.char '\x08', rest)
  | .char 'f' :: rest => some (.char '\x0c', rest)
  | .char 'n' :: rest => some (.char '\n', rest)
  | .char 'r' :: rest => some (.char '\r', rest)
  | .char 't' :: rest => some (.char '\t', rest)
  | _ => none

/-- The rest of a string whose opening quote has been read. -/
def stringRest : Nat → Text → Option (Text × Text)
  | 0, _ => none
  | _ + 1, [] => none
  | fuel + 1, c :: rest =>
    if c = .char '"' then some ([], rest)
    else if c = .char '\\' then do
      let (c, rest) ← escape? rest
      let (cs, rest) ← stringRest fuel rest
      return (c :: cs, rest)
    else if c.value < 0x20 then none
    else do
      let (cs, rest) ← stringRest fuel rest
      return (c :: cs, rest)

/-- A string whose opening quote has been read. -/
def string? (t : Text) : Option (Text × Text) := stringRest (t.length + 1) t

/-- Splits off a point and the digits after it, if there are some. -/
def splitFraction (t : Text) : Text × Text :=
  match t with
  | .char '.' :: rest =>
    let (digits, after) := Number.spanDigits rest
    if digits.isEmpty then ([], t) else (digits, after)
  | _ => ([], t)

/-- Splits off an exponent with its mark, if it has digits. -/
def splitExponent (t : Text) : Option Int × Text :=
  match t with
  | .char mark :: rest =>
    if mark = 'e' || mark = 'E' then
      let (negative, rest) := Number.splitSign rest
      let (digits, after) := Number.spanDigits rest
      if digits.isEmpty then (none, t)
      else (some (Number.signed negative (Number.ofDigits digits)), after)
    else (none, t)
  | _ => (none, t)

/-- The whole part of a number: a zero alone, or digits that start with another one. -/
def splitWhole : Text → Text × Text
  | .char '0' :: rest => ([.char '0'], rest)
  | t => Number.spanDigits t

/-- The longest number at the front of a text whose sign has been read. -/
def number? (negative : Bool) (t : Text) : Option (Json × Text) :=
  let (whole, rest) := splitWhole t
  if whole.isEmpty then none
  else
    let (fraction, rest) := splitFraction rest
    let (exponent?, rest) := splitExponent rest
    if fraction.isEmpty && exponent?.isNone then
      if Number.digitLimit < whole.length then none
      else some (.int (Number.signed negative (Number.ofDigits whole)), rest)
    else some (.float (Number.ofDigitRuns negative whole fraction (exponent?.getD 0)), rest)

/-- A value without parts: a name or a number. -/
def scalar? (t : Text) : Option (Json × Text) :=
  let named (name : Text) (value : Json) : Option (Json × Text) :=
    (t.dropPrefix? name).map (value, ·)
  match t with
  | .char 'n' :: _ => named "null" .null
  | .char 't' :: _ => named "true" (.bool true)
  | .char 'f' :: _ => named "false" (.bool false)
  | .char 'N' :: _ => named "NaN" (.float .nan)
  | .char 'I' :: _ => named "Infinity" (.float (.infinity false))
  | .char '-' :: .char 'I' :: _ => named "-Infinity" (.float (.infinity true))
  | .char '-' :: rest => number? true rest
  | t => number? false t

mutual
/-- A value at the front of a text, with no blanks before it. -/
def value? : Nat → Text → Option (Json × Text)
  | 0, _ => none
  | fuel + 1, t =>
    match t with
    | .char '"' :: rest => (string? rest).map fun (s, rest) => (.text s, rest)
    | .char '[' :: rest =>
      match skipSpace rest with
      | .char ']' :: rest => some (.list [], rest)
      | rest => (items? fuel rest).map fun (items, rest) => (.list items, rest)
    | .char '\x7b' :: rest =>
      match skipSpace rest with
      | .char '\x7d' :: rest => some (.object [], rest)
      | rest =>
        (members? fuel rest).map fun (members, rest) => (.object (Members.putAll [] members), rest)
    | t => scalar? t

/-- The items of a list from the next one on, and its closing bracket. -/
def items? : Nat → Text → Option ((List Json) × Text)
  | 0, _ => none
  | fuel + 1, t => do
    let (item, rest) ← value? fuel t
    match skipSpace rest with
    | .char ']' :: rest => return ([item], rest)
    | .char ',' :: rest =>
      let (items, rest) ← items? fuel (skipSpace rest)
      return (item :: items, rest)
    | _ => none

/-- The members of an object from the next one on, and its closing brace. -/
def members? : Nat → Text → Option ((List (Text × Json)) × Text)
  | 0, _ => none
  | fuel + 1, t =>
    match t with
    | .char '"' :: rest => do
      let (key, rest) ← string? rest
      match skipSpace rest with
      | .char ':' :: rest =>
        let (value, rest) ← value? fuel (skipSpace rest)
        match skipSpace rest with
        | .char '\x7d' :: rest => return ([(key, value)], rest)
        | .char ',' :: rest =>
          let (members, rest) ← members? fuel (skipSpace rest)
          return ((key, value) :: members, rest)
        | _ => none
      | _ => none
    | _ => none
end

end ClassVerification.Json.Parser

namespace ClassVerification

/-- The value that a whole text spells. -/
def Json.ofText? (t : Text) : Option Json :=
  match Json.Parser.value? (t.length + 1) (Json.Parser.skipSpace t) with
  | some (value, rest) => if (Json.Parser.skipSpace rest).isEmpty then some value else none
  | none => none

end ClassVerification
