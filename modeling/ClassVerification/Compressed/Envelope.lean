import ClassVerification.Compressed.Checksum
import ClassVerification.Compressed.Deflate

/-!
The envelopes that deflated data come in: a header in front, and checksums behind. Data that break
off are read as far as they go.
-/

namespace ClassVerification.Compressed

open Reader

/-- The number that bytes spell, lowest first. -/
def lowFirst (bytes : List UInt8) : Nat := bytes.foldr (fun b n => n * 256 + b.toNat) 0

/-- The number that bytes spell, highest first. -/
def highFirst (bytes : List UInt8) : Nat := bytes.foldl (fun n b => n * 256 + b.toNat) 0

def written : Reader (List UInt8) := return (← get).output.toList

namespace Gzip

/-- Bytes up to a zero, and the zero. -/
def untilZero : Nat → Reader (List UInt8)
  | 0 => throw .short
  | steps + 1 => do
    let b ← byte
    if b = 0 then return [b] else return b :: (← untilZero steps)

/-- A field that a flag announces. -/
def announced (flags flag : Nat) (field : Reader (List UInt8)) : Reader (List UInt8) :=
  if flags.testBit flag then field else return []

/-- A field with its length in front. -/
def sizedField : Reader (List UInt8) := do
  let size ← bytes 2
  return size ++ (← bytes (lowFirst size))

def textField : Reader (List UInt8) := do untilZero (← stepLimit)

/-- The header: a mark, the method, flags, time and system, and the fields that the flags announce,
among them a checksum of the header itself. -/
def header : Reader Unit := do
  let mark ← bytes 2
  if mark != [0x1F, 0x8B] then refuse .header
  let method ← byte
  let flags ← byte
  if method != 8 then refuse .method
  if 32 ≤ flags then refuse .headerFlags
  let time ← bytes 6
  let extra ← announced flags.toNat 2 sizedField
  let name ← announced flags.toNat 3 textField
  let comment ← announced flags.toNat 4 textField
  let checksum ← announced flags.toNat 1 (bytes 2)
  let before := mark ++ [method, flags] ++ time ++ extra ++ name ++ comment
  if !checksum.isEmpty && lowFirst checksum != cyclicChecksum before % 65536 then
    refuse .headerChecksum

def file : Reader Unit := do
  header
  Deflate.body
  let output ← written
  if lowFirst (← bytes 4) != cyclicChecksum output then refuse .checksum
  if lowFirst (← bytes 4) != output.length % Nat.pow 2 32 then refuse .totalLength

end Gzip

namespace Zlib

/-- The header: the method and the size of the window, and flags that make it divisible. -/
def header : Reader Unit := do
  let first ← byte
  let second ← byte
  if highFirst [first, second] % 31 != 0 then refuse .header
  if first % 16 != 8 then refuse .method
  if 8 ≤ first / 16 then refuse .windowSize
  if second.toNat.testBit 5 then
    let _ ← bytes 4
    refuse .dictionary

def stream : Reader Unit := do
  header
  Deflate.body
  let output ← written
  if highFirst (← bytes 4) != doubleSum output then refuse .checksum

end Zlib

/-- What a reader makes of bytes. Where data are missing, what has been read counts. -/
def unpack (r : Reader Unit) (data : List UInt8) : Except Flaw (List UInt8) :=
  match r.run data with
  | (_, some (.flawed f)) => .error f
  | (output, _) => .ok output

def gunzip (data : List UInt8) : Except Flaw (List UInt8) := unpack Gzip.file data

/-- Deflated data in their envelope, or else without it. -/
def inflate (data : List UInt8) : Except Flaw (List UInt8) :=
  match unpack Zlib.stream data with
  | .ok output => .ok output
  | .error _ => unpack Deflate.body data

end ClassVerification.Compressed
