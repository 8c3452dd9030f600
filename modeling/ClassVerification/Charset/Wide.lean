import ClassVerification.Text.Basic

/-!
UTF-16 and UTF-32. Their units take up several bytes, whose order is fixed by the name of the set or
told by a mark in front.
-/

namespace ClassVerification

inductive ByteOrder where
  | little
  | big
deriving DecidableEq, Repr

/-- The number that bytes spell. -/
def ByteOrder.number (order : ByteOrder) (bytes : List UInt8) : Nat :=
  let fromFirst := match order with
    | .little => bytes.reverse
    | .big => bytes
  fromFirst.foldl (fun n b => 256 * n + b.toNat) 0

/-- The character sets with units of several bytes. -/
inductive Wide where
  | utf16
  | utf32
deriving DecidableEq, Repr

namespace Wide

def name : Wide → Text
  | .utf16 => "UTF-16"
  | .utf32 => "UTF-32"

/-- The number of bytes of a unit. -/
def width : Wide → Nat
  | .utf16 => 2
  | .utf32 => 4

/-- The characters of bytes in UTF-16, without one where two bytes are no half of a pair that is
whole, or where the bytes end too soon. -/
def read16 (order : ByteOrder) : List UInt8 → List (Option CodePoint)
  | [] => []
  | [_] => [none]
  | a :: b :: rest =>
    let unit := order.number [a, b]
    if unit < 0xD800 || 0xE000 ≤ unit then CodePoint.ofNat? unit :: read16 order rest
    else if 0xDC00 ≤ unit then none :: read16 order rest
    else match rest with
      | c :: d :: rest =>
        let next := order.number [c, d]
        if 0xDC00 ≤ next && next < 0xE000 then
          CodePoint.ofNat? (0x10000 + (unit - 0xD800) * 1024 + (next - 0xDC00)) ::
            read16 order rest
        else none :: read16 order (c :: d :: rest)
      | _ => [none]

/-- The characters of bytes in UTF-32, without one where four bytes are no scalar value, or where
the bytes end too soon. -/
def read32 (order : ByteOrder) : List UInt8 → List (Option CodePoint)
  | [] => []
  | a :: b :: c :: d :: rest =>
    let unit := order.number [a, b, c, d]
    let scalar? := if unit < 0xD800 || 0xE000 ≤ unit then CodePoint.ofNat? unit else none
    scalar? :: read32 order rest
  | _ => [none]

def read : Wide → ByteOrder → List UInt8 → List (Option CodePoint)
  | .utf16 => read16
  | .utf32 => read32

/-- The order that a mark in front tells, and the bytes behind the mark. -/
def marked? : Wide → List UInt8 → Option (ByteOrder × List UInt8)
  | .utf16, 0xFF :: 0xFE :: rest => some (.little, rest)
  | .utf16, 0xFE :: 0xFF :: rest => some (.big, rest)
  | .utf32, 0xFF :: 0xFE :: 0x00 :: 0x00 :: rest => some (.little, rest)
  | .utf32, 0x00 :: 0x00 :: 0xFE :: 0xFF :: rest => some (.big, rest)
  | _, _ => none

end Wide

end ClassVerification
