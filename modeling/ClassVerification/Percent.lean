import ClassVerification.Text.Utf8
import ClassVerification.Text.Class

/-!
Percent-encoding. A code point outside the safe set is written as its UTF-8 bytes, each as a percent
sign and two hexadecimal digits in capitals.
-/

namespace ClassVerification.Percent

def hexCapital (n : Nat) : CodePoint :=
  .char (Char.ofNat (if n < 10 then 48 + n else 55 + n))

/-- One byte as a percent sign and two digits. -/
def byte (b : UInt8) : Text := [.char '%', hexCapital (b.toNat / 16), hexCapital (b.toNat % 16)]

/-- Letters, digits and the four marks that never need encoding. -/
def isUnreserved (c : CodePoint) : Bool :=
  c.isUpperLatin || c.isLowerLatin || c.isDigit || c = .char '-' || c = .char '.' ||
    c = .char '_' || c = .char '~'

def encodeOne (isSafe : CodePoint → Bool) (c : CodePoint) : Text :=
  if isSafe c then [c]
  else match c with
    | .char a => (Utf8.encodeChar a).flatMap byte
    | .surrogate _ => []

/-- A text as one segment of a path: everything but the unreserved marks is encoded. -/
def encodeSegment (t : Text) : Except Unencodable Text :=
  match Unencodable.find CodePoint.isScalar 0 t with
  | some flaw => .error flaw
  | none => .ok (t.flatMap (encodeOne isUnreserved))

/-- A text cut into escapes, three code points each, and single other code points. -/
def units : Text → List Text
  | [] => []
  | [c] => [[c]]
  | [c, d] => [[c], [d]]
  | c :: a :: b :: rest =>
    if c = .char '%' && a.hexDigit?.isSome && b.hexDigit?.isSome then [c, a, b] :: units rest
    else [c] :: units (a :: b :: rest)

/-- Encodes what is not safe in one unit, and leaves an escape as it stands. -/
def encodeUnit (isSafe : CodePoint → Bool) : Text → Text
  | [c, a, b] => [c, a, b]
  | t => t.flatMap (encodeOne isSafe)

/-- Encodes what is not safe and leaves escapes as they stand. A lone surrogate is refused. -/
def encodeAround (isSafe : CodePoint → Bool) (t : Text) : Except Unencodable Text :=
  match t.find? (!CodePoint.isScalar ·) with
  | some c => .error ⟨0, [c]⟩
  | none => .ok ((units t).flatMap (encodeUnit isSafe))

/-- The bytes of one unit: the byte that an escape spells, or the code point's own. -/
def unitBytes : Text → List UInt8
  | [_, a, b] => [(a.hexDigit?.getD 0 * 16 + b.hexDigit?.getD 0).toUInt8]
  | t => Utf8.bytesOf t

/-- The text that a percent-encoded text stands for, if its bytes are UTF-8. -/
def decode? (t : Text) : Option Text := (Utf8.decode ((units t).flatMap unitBytes)).toOption

/-- The text that a percent-encoded text stands for, with U+FFFD for what is no text. -/
def decodeReplacing (t : Text) : Text := Utf8.decodeReplacing ((units t).flatMap unitBytes)

end ClassVerification.Percent
