import ClassVerification.Compressed.Bits

/-!
The two checksums that guard compressed data.
-/

namespace ClassVerification.Compressed

/-- The remainder of a polynomial after one more bit, low powers first. -/
def shiftRemainder (r : UInt32) : UInt32 :=
  if r &&& 1 = 1 then (r >>> 1) ^^^ 0xEDB88320 else r >>> 1

def remainderWith (r : UInt32) (b : UInt8) : UInt32 :=
  Nat.repeat shiftRemainder 8 (r ^^^ b.toUInt32)

/-- The cyclic checksum of bytes. -/
def cyclicChecksum (bytes : List UInt8) : Nat :=
  (bytes.foldl remainderWith 0xFFFFFFFF ^^^ 0xFFFFFFFF).toNat

/-- The checksum of two sums: of the bytes, and of the sums on the way. -/
def doubleSum (bytes : List UInt8) : Nat :=
  let (a, b) := bytes.foldl
    (fun (a, b) byte =>
      let a := (a + byte.toNat) % 65521
      (a, (b + a) % 65521))
    (1, 0)
  b * 65536 + a

end ClassVerification.Compressed
