import ClassVerification.Text.Basic

/-!
Reading compressed data bit by bit, the lowest bit of each byte first. Reading stops early where
data are missing or flawed; what has been written until then is kept.
-/

namespace ClassVerification.Compressed

/-- What makes compressed data unreadable. -/
inductive Flaw where
  | header
  | method
  | headerFlags
  | headerChecksum
  | windowSize
  | dictionary
  | blockType
  | storedLength
  | symbolCount
  | codeLengths
  | lengthRepeat
  | noBlockEnd
  | literalCodes
  | distanceCodes
  | literal
  | distance
  | farDistance
  | checksum
  | totalLength
deriving DecidableEq, Repr

namespace Flaw

def reason : Flaw → Option Text
  | .header => some "incorrect header check"
  | .method => some "unknown compression method"
  | .headerFlags => some "unknown header flags set"
  | .headerChecksum => some "header crc mismatch"
  | .windowSize => some "invalid window size"
  | .dictionary => none
  | .blockType => some "invalid block type"
  | .storedLength => some "invalid stored block lengths"
  | .symbolCount => some "too many length or distance symbols"
  | .codeLengths => some "invalid code lengths set"
  | .lengthRepeat => some "invalid bit length repeat"
  | .noBlockEnd => some "invalid code -- missing end-of-block"
  | .literalCodes => some "invalid literal/lengths set"
  | .distanceCodes => some "invalid distances set"
  | .literal => some "invalid literal/length code"
  | .distance => some "invalid distance code"
  | .farDistance => some "invalid distance too far back"
  | .checksum => some "incorrect data check"
  | .totalLength => some "incorrect length check"

def message (f : Flaw) : Text :=
  match f.reason with
  | some reason => "Error -3 while decompressing data: " ++ reason
  | none => "Error 2 while decompressing data"

end Flaw

/-- Why reading stops before the end. -/
inductive Stop where
  | short
  | flawed (f : Flaw)
deriving DecidableEq, Repr

/-- The bits that are left, and the bytes that have been written. -/
structure State where
  bits : List Bool
  output : Array UInt8 := #[]

abbrev Reader := ExceptT Stop (StateM State)

/-- The bits of a byte, lowest first. -/
def bitsOfByte (b : UInt8) : List Bool := (List.range 8).map b.toNat.testBit

def bitsOf (bytes : List UInt8) : List Bool := bytes.flatMap bitsOfByte

namespace Reader

/-- Runs a reader on bytes: what it has written, and why it stopped if it did. -/
def run (r : Reader Unit) (bytes : List UInt8) : List UInt8 × Option Stop :=
  match StateT.run (ExceptT.run r) { bits := bitsOf bytes } with
  | (.ok (), s) => (s.output.toList, none)
  | (.error stop, s) => (s.output.toList, some stop)

def refuse {α : Type} (f : Flaw) : Reader α := throw (.flawed f)

def bit : Reader Bool := do
  let s ← get
  match s.bits with
  | [] => throw .short
  | b :: rest =>
    set { s with bits := rest }
    return b

/-- A number of so many bits, lowest first. -/
def number : Nat → Reader Nat
  | 0 => return 0
  | count + 1 => do
    let b ← bit
    return b.toNat + 2 * (← number count)

def byte : Reader UInt8 := return (← number 8).toUInt8

def bytes : Nat → Reader (List UInt8)
  | 0 => return []
  | count + 1 => do
    let b ← byte
    return b :: (← bytes count)

/-- Passes over what is left of a byte. -/
def align : Reader Unit := modify fun s => { s with bits := s.bits.drop (s.bits.length % 8) }

/-- More steps than a reader can take that uses up a bit with each. -/
def stepLimit : Reader Nat := return (← get).bits.length + 1

def write (b : UInt8) : Reader Unit := modify fun s => { s with output := s.output.push b }

/-- Repeats what has been written some way back, byte by byte. -/
def repeatFrom (output : Array UInt8) (distance : Nat) : Nat → Array UInt8
  | 0 => output
  | count + 1 =>
    repeatFrom (output.push (output.getD (output.size - distance) 0)) distance count

/-- Writes again what has been written some way back. -/
def copy (distance count : Nat) : Reader Unit := do
  let s ← get
  if s.output.size < distance then refuse .farDistance
  set { s with output := repeatFrom s.output distance count }

end Reader

end ClassVerification.Compressed
