import ClassVerification.Number.Binary64
import ClassVerification.Text.Class
import ClassVerification.Text.Utf8

/-!
Numbers read from text: runs of digits, decimal fractions with an exponent, and integers as people
write them.
-/

namespace ClassVerification.Number

/-- The longest run of basic digits at the front, and what follows it. -/
def spanDigits (t : Text) : Text × Text := t.span CodePoint.isDigit

/-- The number that a run of basic digits spells. -/
def ofDigits (t : Text) : Nat := t.foldl (fun n c => n * 10 + c.digit?.getD 0) 0

/-- Splits off a sign; true for minus. -/
def splitSign : Text → Bool × Text
  | .char '-' :: rest => (true, rest)
  | .char '+' :: rest => (false, rest)
  | rest => (false, rest)

def signed (negative : Bool) (n : Nat) : Int := if negative then -(n : Int) else n

/-- A sign and digits, and nothing else. -/
def wholeInt? (t : Text) : Option Int :=
  let (negative, digits) := splitSign t
  if digits.isEmpty || !digits.all CodePoint.isDigit then none
  else some (signed negative (ofDigits digits))

/-- The value of whole digits, fraction digits and an exponent. -/
def ofDigitRuns (negative : Bool) (whole fraction : Text) (exponent : Int) : Binary64 :=
  Binary64.ofDecimal negative (ofDigits (whole ++ fraction)) (exponent - fraction.length)

/-- The exponent after its mark, if the text goes on with nothing else. -/
def exponent? : Text → Option Int
  | [] => some 0
  | .char mark :: rest => if mark = 'e' || mark = 'E' then wholeInt? rest else none
  | .surrogate _ :: _ => none

/-- An optional fraction after its point, and what follows it. -/
def splitFraction : Text → Text × Text
  | .char '.' :: rest => spanDigits rest
  | rest => ([], rest)

/-- A decimal number: digits on at least one side of an optional point, an optional exponent, or a
name of infinity or of no number. -/
def decimal? (t : Text) : Option Binary64 :=
  let (negative, rest) := splitSign t
  let name := Text.lowerBasic rest
  if name = "inf" || name = "infinity" then some (Binary64.infinity negative)
  else if name = "nan" then some Binary64.nan
  else
    let (whole, rest) := spanDigits rest
    let (fraction, rest) := splitFraction rest
    if whole.isEmpty && fraction.isEmpty then none
    else (exponent? rest).map (ofDigitRuns negative whole fraction)

/-- Whether two underscores stand next to each other. -/
def hasDoubleUnderscore : Text → Bool
  | .char '_' :: .char '_' :: _ => true
  | _ :: rest => hasDoubleUnderscore rest
  | [] => false

/-- A text without its underscores, if it has some and each stands alone inside. -/
def dropUnderscores? (t : Text) : Option Text :=
  let bar : CodePoint := .char '_'
  if !t.contains bar || t.head? = some bar || t.getLast? = some bar || hasDoubleUnderscore t then
    none
  else some (t.filter (· != bar))

/-- A decimal number with blanks around it, or with underscores inside it. -/
def looseDecimal? (t : Text) : Option Binary64 :=
  match decimal? (t.trim CodePoint.isWhiteSpace) with
  | some x => some x
  | none => (dropUnderscores? t).bind decimal?

/-- What follows leading zeros and the underscores among them, from a digit or a minus sign on; a
last zero before the point or the end stays. -/
def dropLeadingZeros? (previous : CodePoint) : Text → Option Text
  | [] => some [previous]
  | c :: rest =>
    if c = .char '0' || c = .char '_' then dropLeadingZeros? c rest
    else if c = .char '.' then some (previous :: c :: rest)
    else if c.isDigit || c = .char '-' then some (c :: rest)
    else none

/-- The digits from the first significant one on. A minus sign stays, and what follows it too. -/
def significant? : Text → Option Text
  | [] => none
  | c :: rest =>
    if c = .char '0' then dropLeadingZeros? c rest
    else if c.isDigit || c = .char '-' then some (c :: rest)
    else none

/-- Cuts off a fraction that holds zeros, at least one, and nothing else. -/
def dropZeroFraction (t : Text) : Text :=
  let (whole, rest) := t.span (· != .char '.')
  if 1 < rest.length && (rest.drop 1).all (· = .char '0') then whole else t

/-- Digits after an optional minus sign. -/
def plainInt? (t : Text) : Option Int :=
  if t.head? = some (.char '+') then none else wholeInt? t

/-- The most digits an integer may have in text. -/
def digitLimit : Nat := 4300

/-- What is told of a text with more digits than are read. -/
def tooManyDigitsMessage (count : Nat) : Text :=
  "Exceeds the limit (4300 digits) for integer string conversion: value has " ++
    Text.ofNat count ++ " digits; use sys.set_int_max_str_digits() to increase the limit"

/-- Why a text is no integer. -/
inductive IntDefect where
  | unreadable
  | tooLong
deriving DecidableEq, Repr

/-- Takes a plus sign away, which no other sign may follow. -/
def withoutPlus? : Text → Option Text
  | .char '+' :: .char '-' :: _ => none
  | .char '+' :: rest => some rest
  | t => some t

/-- What is left of an integer as people write it when the blanks around it, the plus sign, leading
zeros, single underscores between digits and a fraction of zeros are taken away. -/
def cleanInt? (t : Text) : Option Text := do
  let t := t.trim CodePoint.isWhiteSpace
  let t := dropZeroFraction (← significant? (← withoutPlus? t))
  return (dropUnderscores? t).getD t

/-- An integer as people write it, of a limited length when it is cleaned up. -/
def looseInt (t : Text) : Except IntDefect Int :=
  match cleanInt? t with
  | none => .error .unreadable
  | some cleaned =>
    if digitLimit < (Utf8.bytesOf cleaned).length then .error .tooLong
    else match plainInt? cleaned with
      | some n => .ok n
      | none => .error .unreadable

/-- The value of a decimal digit of any script. -/
def anyDigit? (c : CodePoint) : Option Nat :=
  (CodePoint.digitZeros.find? fun first => first ≤ c.value && c.value ≤ first + 9).map (c.value - ·)

/-- Digits of any script, with single underscores between them. -/
def anyDigits? (t : Text) : Option Nat := do
  let digits := (dropUnderscores? t).getD t
  if digits.isEmpty || digitLimit < digits.length then none
  let values ← digits.mapM anyDigit?
  return values.foldl (fun n d => n * 10 + d) 0

/-- An integer with blanks around it and digits of any script. -/
def anyInt? (t : Text) : Option Int :=
  let (negative, digits) := splitSign (Text.trimBlank t)
  (anyDigits? digits).map (signed negative)

end ClassVerification.Number
