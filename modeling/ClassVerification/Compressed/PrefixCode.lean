import ClassVerification.Compressed.Bits

/-!
Codes in which no code word begins another one. The lengths of the words determine the code: shorter
words come first, and words of one length follow the order of their symbols.
-/

namespace ClassVerification.Compressed

structure PrefixCode where
  /-- How many words there are of each length, from one up to the greatest. -/
  counts : List Nat
  /-- The symbols in the order of their words. -/
  symbols : Array Nat
deriving Repr

namespace PrefixCode

/-- The code in which each symbol has a word of a length, or none if that is zero. -/
def ofLengths (lengths : List Nat) : PrefixCode :=
  let sizes := (List.range (lengths.foldl max 0)).map (· + 1)
  { counts := sizes.map fun size => lengths.count size
    symbols := (sizes.flatMap fun size =>
      (List.range lengths.length).filter fun symbol => lengths[symbol]? = some size).toArray }

/-- How many more words of the greatest length there is room for; nothing if there are too many. -/
def room? (left : Nat) : List Nat → Option Nat
  | [] => some left
  | count :: rest => if 2 * left < count then none else room? (2 * left - count) rest

/-- Whether a code leaves no gap. A code without words passes. So does, where that is granted, a
single word of one bit. -/
def isUsable (c : PrefixCode) (granted : Bool) : Bool :=
  match room? 1 c.counts with
  | none => false
  | some left => left = 0 || c.counts.isEmpty || (granted && c.counts.length = 1)

/-- Reads on in a word: its bits so far as a number, the first word of that length, and where the
symbols of that length begin. -/
def readFrom (symbols : Array Nat) (word first start : Nat) : List Nat → Reader (Option Nat)
  | [] => return none
  | count :: rest => do
    let word := 2 * word + (← Reader.bit).toNat
    if word < first + count then return symbols[start + (word - first)]?
    else readFrom symbols word (2 * (first + count)) (start + count) rest

/-- Reads a word and tells its symbol, if it is a word. Where there are no words one bit is read. -/
def read (c : PrefixCode) : Reader (Option Nat) := do
  if c.counts.isEmpty then
    let _ ← Reader.bit
    return none
  else readFrom c.symbols 0 0 0 c.counts

end PrefixCode

end ClassVerification.Compressed
