import ClassVerification.Toml.Basic
import ClassVerification.Number.Read

/-!
The parts of a TOML document that hold no other values: keys, strings, numbers, dates and times.
Each reader takes what it reads from the front of a text and hands back the rest.
-/

namespace ClassVerification.Toml

/-- Why a document cannot be read. -/
inductive Defect where
  | malformed
  | tooManyDigits (count : Nat)
deriving DecidableEq, Repr

def reject {α : Type} : Except Defect α := .error .malformed

def isSpace (c : CodePoint) : Bool := c = .char ' ' || c = .char '\t'

def isNewline (c : CodePoint) : Bool := c = .char '\n'

def skipSpace (t : Text) : Text := t.dropWhile isSpace

def skipSpaceAndLines (t : Text) : Text := t.dropWhile fun c => isSpace c || isNewline c

/-- A control that may stand nowhere but at the end of a line; the tab is none. -/
def isControl (c : CodePoint) : Bool := (c.value < 0x20 && c != .char '\t') || c.value = 0x7F

/-- Skips a comment up to the end of its line. -/
def skipComment (t : Text) : Except Defect Text :=
  match t with
  | .char '#' :: rest =>
    let (comment, rest) := rest.span (!isNewline ·)
    if comment.any isControl then reject else .ok rest
  | _ => .ok t

def skipFiller : Nat → Text → Except Defect Text
  | 0, t => .ok t
  | fuel + 1, t =>
    match skipSpaceAndLines t with
    | .char '#' :: rest => do skipFiller fuel (← skipComment (.char '#' :: rest))
    | rest => .ok rest

/-- Skips blanks, line ends and comments. -/
def skipBetweenItems (t : Text) : Except Defect Text := skipFiller (t.length + 1) t

/-- The rest of a text between apostrophes, where every code point stands for itself. -/
def literalRest (t : Text) : Except Defect (Text × Text) :=
  let (content, rest) := t.span (· != .char '\'')
  if rest.isEmpty || content.any isControl then reject else .ok (content, rest.drop 1)

/-- Cuts a text before the first occurrence of a mark. -/
def cutBefore? (mark : Text) : Text → Option (Text × Text)
  | [] => if mark.isEmpty then some ([], []) else none
  | c :: rest =>
    if Text.startsWith (c :: rest) mark then some ([], c :: rest)
    else (cutBefore? mark rest).map fun (front, back) => (c :: front, back)

/-- Up to two more quotes that belong to a text of several lines, at its end. -/
def closingQuotes (quote : CodePoint) (content rest : Text) : Text × Text :=
  match rest with
  | a :: b :: after =>
    if a = quote && b = quote then (content ++ [quote, quote], after)
    else if a = quote then (content ++ [quote], b :: after)
    else (content, rest)
  | [a] => if a = quote then (content ++ [quote], []) else (content, rest)
  | [] => (content, rest)

/-- A first line end in a text of several lines does not count. -/
def dropFirstNewline (t : Text) : Text :=
  match t with
  | .char '\n' :: rest => rest
  | _ => t

/-- The rest of a literal text of several lines. -/
def longLiteralRest (t : Text) : Except Defect (Text × Text) :=
  match cutBefore? "'''" (dropFirstNewline t) with
  | none => reject
  | some (content, rest) =>
    if content.any fun c => isControl c && !isNewline c then reject
    else .ok (closingQuotes (.char '\'') content (rest.drop 3))

/-- A code point by its number in hexadecimal digits of a fixed count. -/
def hexChar (count : Nat) (t : Text) : Except Defect (CodePoint × Text) :=
  let digits := t.take count
  match digits.mapM CodePoint.hexDigit? with
  | some values =>
    if values.length = count then
      match CodePoint.ofNat? (values.foldl (fun n d => n * 16 + d) 0) with
      | some (.char c) => .ok (.char c, t.drop count)
      | _ => reject
    else reject
  | none => reject

/-- What an escape stands for, when its backslash has been read. -/
def escape (t : Text) : Except Defect (CodePoint × Text) :=
  match t with
  | .char 'b' :: rest => .ok (.char '\x08', rest)
  | .char 't' :: rest => .ok (.char '\t', rest)
  | .char 'n' :: rest => .ok (.char '\n', rest)
  | .char 'f' :: rest => .ok (.char '\x0c', rest)
  | .char 'r' :: rest => .ok (.char '\r', rest)
  | .char '"' :: rest => .ok (.char '"', rest)
  | .char '\\' :: rest => .ok (.char '\\', rest)
  | .char 'u' :: rest => hexChar 4 rest
  | .char 'U' :: rest => hexChar 8 rest
  | _ => reject

/-- What follows a backslash at the end of a line: blanks and line ends are skipped. -/
def continueLine (t : Text) : Except Defect Text :=
  match skipSpace t with
  | [] => .ok []
  | .char '\n' :: rest => .ok (skipSpaceAndLines rest)
  | _ => reject

/-- The rest of a text between double quotes. -/
def basicRest (long : Bool) : Nat → Text → Except Defect (Text × Text)
  | 0, _ => reject
  | _ + 1, [] => reject
  | fuel + 1, c :: rest =>
    if c = .char '"' && !long then .ok ([], rest)
    else if c = .char '"' && Text.startsWith rest "\"\"" then .ok ([], rest.drop 2)
    else if c = .char '\\' then
      if long && (rest.head?.any fun c => isSpace c || isNewline c) then do
        basicRest long fuel (← continueLine rest)
      else do
        let (c, rest) ← escape rest
        let (cs, rest) ← basicRest long fuel rest
        return (c :: cs, rest)
    else if isControl c && !(long && isNewline c) then reject
    else do
      let (cs, rest) ← basicRest long fuel rest
      return (c :: cs, rest)

def basicText (t : Text) : Except Defect (Text × Text) := basicRest false (t.length + 1) t

def longBasicText (t : Text) : Except Defect (Text × Text) := do
  let t := dropFirstNewline t
  let (content, rest) ← basicRest true (t.length + 1) t
  return closingQuotes (.char '"') content rest

def isBareKeyChar (c : CodePoint) : Bool :=
  c.isUpperLatin || c.isLowerLatin || c.isDigit || c = .char '-' || c = .char '_'

/-- One name of a dotted key. -/
def keyName (t : Text) : Except Defect (Text × Text) :=
  match t with
  | .char '\'' :: rest => literalRest rest
  | .char '"' :: rest => basicText rest
  | _ =>
    let (name, rest) := t.span isBareKeyChar
    if name.isEmpty then reject else .ok (name, rest)

def keyNames : Nat → Text → Except Defect (Key × Text)
  | 0, _ => reject
  | fuel + 1, t => do
    let (name, rest) ← keyName t
    match skipSpace rest with
    | .char '.' :: rest =>
      let (names, rest) ← keyNames fuel (skipSpace rest)
      return (name :: names, rest)
    | rest => return ([name], rest)

/-- A dotted key, and the blanks behind it. -/
def key (t : Text) : Except Defect (Key × Text) := keyNames (t.length + 1) t

/-- The longest run of digits with single underscores between them. -/
def spanDigits (isDigit : CodePoint → Bool) : Text → Text × Text
  | [] => ([], [])
  | [c] => if isDigit c then ([c], []) else ([], [c])
  | c :: d :: rest =>
    if isDigit c || (c = .char '_' && isDigit d) then
      let (digits, after) := spanDigits isDigit (d :: rest)
      (c :: digits, after)
    else ([], c :: d :: rest)

/-- A run of digits that has to start with one. -/
def digitRun (isDigit : CodePoint → Bool) (t : Text) : Option (Text × Text) :=
  match t with
  | c :: _ => if isDigit c then some (spanDigits isDigit t) else none
  | [] => none

def withoutUnderscores (t : Text) : Text := t.filter (· != .char '_')

/-- A whole number with its base marked in front. -/
def basedInt? (t : Text) : Option (Toml × Text) :=
  let read (base : Nat) (rest : Text) : Option (Toml × Text) := do
    let isDigit (c : CodePoint) : Bool := c.hexDigit?.any (· < base)
    let (digits, rest) ← digitRun isDigit rest
    let value := (withoutUnderscores digits).foldl (fun n c => n * base + c.hexDigit?.getD 0) 0
    return (.int value, rest)
  match t with
  | .char '0' :: .char 'x' :: rest => read 16 rest
  | .char '0' :: .char 'b' :: rest => read 2 rest
  | .char '0' :: .char 'o' :: rest => read 8 rest
  | _ => none

/-- The whole digits of a decimal number: a zero alone, or a run that starts with another digit. -/
def wholeDigits? (t : Text) : Option (Text × Text) :=
  match t with
  | .char '0' :: rest => some ([.char '0'], rest)
  | _ => digitRun CodePoint.isDigit t

/-- The digits after a point, if there are some. -/
def fractionDigits (t : Text) : Text × Text :=
  match t with
  | .char '.' :: rest => (digitRun CodePoint.isDigit rest).getD ([], t)
  | _ => ([], t)

/-- An exponent with its mark, if there is one. -/
def exponentPart (t : Text) : Option Int × Text :=
  match t with
  | .char mark :: rest =>
    if mark = 'e' || mark = 'E' then
      let (negative, rest) := Number.splitSign rest
      match digitRun CodePoint.isDigit rest with
      | some (digits, after) =>
        (some (Number.signed negative (Number.ofDigits (withoutUnderscores digits))), after)
      | none => (none, t)
    else (none, t)
  | _ => (none, t)

/-- A decimal number, if one stands here. -/
def decimal? (t : Text) : Option (Except Defect (Toml × Text)) :=
  let (negative, rest) := Number.splitSign t
  (wholeDigits? rest).map fun (whole, rest) =>
    let whole := withoutUnderscores whole
    let (fraction, rest) := fractionDigits rest
    let (exponent?, rest) := exponentPart rest
    if fraction.isEmpty && exponent?.isNone then
      if Number.digitLimit < whole.length then .error (.tooManyDigits whole.length)
      else .ok (.int (Number.signed negative (Number.ofDigits whole)), rest)
    else
      let fraction := withoutUnderscores fraction
      .ok (.float (Number.ofDigitRuns negative whole fraction (exponent?.getD 0)), rest)

/-- Infinity or no number, with an optional sign. -/
def specialFloat (t : Text) : Except Defect (Toml × Text) :=
  let (negative, rest) := Number.splitSign t
  if rest.startsWith "inf" then .ok (.float (.infinity negative), rest.drop 3)
  else if rest.startsWith "nan" then .ok (.float .nan, rest.drop 3)
  else reject

/-- A number of a fixed count of digits that lies between two bounds. -/
def boundedDigits? (count low high : Nat) (t : Text) : Option (Nat × Text) :=
  let digits := t.take count
  let value := Number.ofDigits digits
  if digits.length = count && digits.all CodePoint.isDigit && low ≤ value && value ≤ high then
    some (value, t.drop count)
  else none

/-- The fraction of a second, if there is one. -/
def skipSecondFraction (t : Text) : Text :=
  match t with
  | .char '.' :: rest =>
    let (digits, after) := Number.spanDigits rest
    if digits.isEmpty then t else after
  | _ => t

/-- The text after a time of day. -/
def afterTime? (t : Text) : Option Text := do
  let (_, t) ← boundedDigits? 2 0 23 t
  let t ← t.dropPrefix? ":"
  let (_, t) ← boundedDigits? 2 0 59 t
  let t ← t.dropPrefix? ":"
  let (_, t) ← boundedDigits? 2 0 59 t
  return skipSecondFraction t

/-- The text after an offset from universal time, which may be missing. -/
def afterOffset (t : Text) : Text :=
  match t with
  | .char 'Z' :: rest => rest
  | .char 'z' :: rest => rest
  | .char sign :: rest =>
    if sign = '+' || sign = '-' then
      (do
        let (_, rest) ← boundedDigits? 2 0 23 rest
        let rest ← rest.dropPrefix? ":"
        let (_, rest) ← boundedDigits? 2 0 59 rest
        return rest : Option Text).getD t
    else t
  | _ => t

def isLeapYear (year : Nat) : Bool := year % 4 = 0 && (year % 100 != 0 || year % 400 = 0)

def daysIn (year month : Nat) : Nat :=
  if month = 2 then (if isLeapYear year then 29 else 28)
  else if month = 4 || month = 6 || month = 9 || month = 11 then 30
  else 31

/-- The time of day after a date and its separator, with an optional offset. -/
def afterTimePart? (t : Text) : Option Text :=
  match t with
  | .char c :: rest =>
    if c = 'T' || c = 't' || c = ' ' then (afterTime? rest).map afterOffset else none
  | _ => none

/-- A date with an optional time, if the shape of one stands here. The day has to exist. -/
def dateTime? (t : Text) : Option (Except Defect (Toml × Text)) := do
  let (year, rest) ← boundedDigits? 4 0 9999 t
  let rest ← rest.dropPrefix? "-"
  let (month, rest) ← boundedDigits? 2 1 12 rest
  let rest ← rest.dropPrefix? "-"
  let (day, rest) ← boundedDigits? 2 1 31 rest
  let written (after : Text) : Text := t.take (t.length - after.length)
  if year = 0 || daysIn year month < day then return reject
  match afterTimePart? rest with
  | some after => return .ok (.moment .dateTime (written after), after)
  | none => return .ok (.moment .date (written rest), rest)

/-- A date, a time or a number. -/
def momentOrNumber (t : Text) : Except Defect (Toml × Text) :=
  match dateTime? t with
  | some result => result
  | none =>
    match afterTime? t with
    | some rest => .ok (.moment .time (t.take (t.length - rest.length)), rest)
    | none =>
      match basedInt? t with
      | some result => .ok result
      | none => (decimal? t).getD (specialFloat t)

end ClassVerification.Toml
