import ClassVerification.Json.Parser
import ClassVerification.Text.Utf8

/-!
Reading JSON from bytes. The encoding is told by a byte order mark or by where the NUL bytes of the
first two characters stand; UTF-8 is the rule.
-/

namespace ClassVerification

/-- Byte order of wide code units. -/
inductive Endian where
  | little
  | big
deriving DecidableEq, Repr

namespace Endian

/-- The number that bytes in an order spell. -/
def toNat (order : Endian) (bytes : List UInt8) : Nat :=
  match order with
  | .big => bytes.foldl (fun n b => n * 256 + b.toNat) 0
  | .little => bytes.foldr (fun b n => n * 256 + b.toNat) 0

end Endian

namespace Utf16

/-- The code units of a byte sequence of even length. -/
def units? (order : Endian) : List UInt8 → Option (List Nat)
  | [] => some []
  | [_] => none
  | a :: b :: rest => (units? order rest).map (order.toNat [a, b] :: ·)

/-- Code points from code units; surrogates that are no pair stand alone. -/
def ofUnits : List Nat → Text
  | [] => []
  | [n] => (CodePoint.ofNat? n).toList
  | high :: low :: rest =>
    if Json.Parser.isHighSurrogate high && Json.Parser.isLowSurrogate low then
      (CodePoint.ofNat? (0x10000 + (high - 0xD800) * 0x400 + (low - 0xDC00))).toList ++ ofUnits rest
    else (CodePoint.ofNat? high).toList ++ ofUnits (low :: rest)

def decode? (order : Endian) (bytes : List UInt8) : Option Text := (units? order bytes).map ofUnits

end Utf16

namespace Utf32

def decode? (order : Endian) : List UInt8 → Option Text
  | [] => some []
  | a :: b :: c :: d :: rest => do
    let first ← CodePoint.ofNat? (order.toNat [a, b, c, d])
    return first :: (← decode? order rest)
  | _ => none

end Utf32

namespace Json

/-- The text of a JSON document in bytes. -/
def documentText? (bytes : List UInt8) : Option Text :=
  match bytes with
  | 0x00 :: 0x00 :: 0xFE :: 0xFF :: rest => Utf32.decode? .big rest
  | 0xFF :: 0xFE :: 0x00 :: 0x00 :: rest => Utf32.decode? .little rest
  | 0xFE :: 0xFF :: rest => Utf16.decode? .big rest
  | 0xFF :: 0xFE :: rest => Utf16.decode? .little rest
  | 0xEF :: 0xBB :: 0xBF :: rest => Utf8.decodeWithSurrogates? rest
  | 0x00 :: b :: _ :: _ :: _ =>
    if b = 0 then Utf32.decode? .big bytes else Utf16.decode? .big bytes
  | _ :: 0x00 :: c :: d :: _ =>
    if c = 0 && d = 0 then Utf32.decode? .little bytes else Utf16.decode? .little bytes
  | [0x00, _] => Utf16.decode? .big bytes
  | [_, 0x00] => Utf16.decode? .little bytes
  | _ => Utf8.decodeWithSurrogates? bytes

/-- The value that a byte sequence spells. -/
def ofBytes? (bytes : List UInt8) : Option Json := (documentText? bytes).bind ofText?

end Json

end ClassVerification
