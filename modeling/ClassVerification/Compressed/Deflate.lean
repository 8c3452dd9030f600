import ClassVerification.Compressed.PrefixCode

/-!
The deflate format: blocks of bytes that stand as they are, or of words that spell bytes and
repetitions of what came before, in a fixed code or in one that the block brings along.
-/

namespace ClassVerification.Compressed.Deflate

open Reader

/-- The least value of a class of numbers, and how many bits tell the number within it. -/
abbrev NumberClass := Nat × Nat

/-- The classes of lengths, by their words. -/
def lengthClasses : List NumberClass := [
  (3, 0), (4, 0), (5, 0), (6, 0), (7, 0), (8, 0), (9, 0), (10, 0), (11, 1), (13, 1), (15, 1),
  (17, 1), (19, 2), (23, 2), (27, 2), (31, 2), (35, 3), (43, 3), (51, 3), (59, 3), (67, 4),
  (83, 4), (99, 4), (115, 4), (131, 5), (163, 5), (195, 5), (227, 5), (258, 0)]

/-- The classes of distances, by their words. -/
def distanceClasses : List NumberClass := [
  (1, 0), (2, 0), (3, 0), (4, 0), (5, 1), (7, 1), (9, 2), (13, 2), (17, 3), (25, 3), (33, 4),
  (49, 4), (65, 5), (97, 5), (129, 6), (193, 6), (257, 7), (385, 7), (513, 8), (769, 8),
  (1025, 9), (1537, 9), (2049, 10), (3073, 10), (4097, 11), (6145, 11), (8193, 12), (12289, 12),
  (16385, 13), (24577, 13)]

/-- The number that a word and the bits after it stand for, in some classes. -/
def classed (classes : List NumberClass) (word : Option Nat) (otherwise : Flaw) : Reader Nat :=
  match word.bind (classes[·]?) with
  | none => refuse otherwise
  | some (least, bits) => return least + (← number bits)

/-- The word that ends a block. Smaller ones are bytes, greater ones are lengths. -/
def blockEnd : Nat := 256

/-- Reads one byte or one repetition, or tells that the block ends. -/
def element (literals distances : PrefixCode) : Reader Bool := do
  match ← literals.read with
  | none => refuse .literal
  | some word =>
    if word < blockEnd then
      write word.toUInt8
      return false
    else if word = blockEnd then return true
    else
      let count ← classed lengthClasses (some (word - blockEnd - 1)) .literal
      let distance ← classed distanceClasses (← distances.read) .distance
      copy distance count
      return false

def elements (literals distances : PrefixCode) : Nat → Reader Unit
  | 0 => throw .short
  | steps + 1 => do
    if !(← element literals distances) then elements literals distances steps

/-- A block in a code. -/
def codedBlock (literals distances : PrefixCode) : Reader Unit := do
  elements literals distances (← stepLimit)

def fixedLiterals : PrefixCode :=
  .ofLengths (List.replicate 144 8 ++ List.replicate 112 9 ++ List.replicate 24 7 ++
    List.replicate 8 8)

def fixedDistances : PrefixCode := .ofLengths (List.replicate 32 5)

def writeBytes : Nat → Reader Unit
  | 0 => return ()
  | count + 1 => do
    write (← byte)
    writeBytes count

/-- A block of bytes as they are, whose number stands in front, once plain and once inverted. -/
def storedBlock : Reader Unit := do
  align
  let count ← number 16
  let inverted ← number 16
  if count + inverted != 0xFFFF then refuse .storedLength
  writeBytes count

/-- The order in which the lengths of the words for lengths come. -/
def lengthOrder : List Nat := [16, 17, 18, 0, 8, 7, 9, 6, 10, 5, 11, 4, 12, 3, 13, 2, 14, 1, 15]

def numbers (width : Nat) : Nat → Reader (List Nat)
  | 0 => return []
  | count + 1 => do
    let n ← number width
    return n :: (← numbers width count)

/-- The code for the lengths of words, from the lengths of its own words. -/
def codeOfLengths (given : List Nat) : PrefixCode :=
  let table := lengthOrder.zip given
  .ofLengths ((List.range 19).map fun symbol => ((table.find? (·.1 = symbol)).map (·.2)).getD 0)

/-- The lengths that one word stands for, when some are known already: one length, or a run of the
last one or of zeros. -/
def lengthsOf (known : List Nat) (symbol : Nat) : Reader (List Nat) := do
  if symbol = 16 then
    let count := 3 + (← number 2)
    match known.getLast? with
    | none => refuse .lengthRepeat
    | some last => return List.replicate count last
  else if symbol = 17 then return List.replicate (3 + (← number 3)) 0
  else if symbol = 18 then return List.replicate (11 + (← number 7)) 0
  else return [symbol]

/-- Reads lengths up to a total. A code without words stands for zeros. -/
def readLengths (code : PrefixCode) (total : Nat) : Nat → List Nat → Reader (List Nat)
  | 0, known => return known
  | steps + 1, known => do
    if total ≤ known.length then return known
    let symbol ← code.read
    let known := known ++ (← lengthsOf known (symbol.getD 0))
    if total < known.length then refuse .lengthRepeat
    readLengths code total steps known

/-- A block that brings its codes along. -/
def ownCodesBlock : Reader Unit := do
  let literalCount := 257 + (← number 5)
  let distanceCount := 1 + (← number 5)
  let given := 4 + (← number 4)
  if 286 < literalCount || 30 < distanceCount then refuse .symbolCount
  let code := codeOfLengths (← numbers 3 given)
  if !code.isUsable false then refuse .codeLengths
  let total := literalCount + distanceCount
  let lengths ← readLengths code total total []
  if lengths[blockEnd]?.getD 0 = 0 then refuse .noBlockEnd
  let literals := PrefixCode.ofLengths (lengths.take literalCount)
  if !literals.isUsable true then refuse .literalCodes
  let distances := PrefixCode.ofLengths (lengths.drop literalCount)
  if !distances.isUsable true then refuse .distanceCodes
  codedBlock literals distances

/-- Blocks up to the one that is marked as the last. -/
def blocks : Nat → Reader Unit
  | 0 => throw .short
  | steps + 1 => do
    let isLast := (← number 1) = 1
    match ← number 2 with
    | 0 => storedBlock
    | 1 => codedBlock fixedLiterals fixedDistances
    | 2 => ownCodesBlock
    | _ => refuse .blockType
    if !isLast then blocks steps

/-- Everything up to the end of the last block, and the rest of its last byte. -/
def body : Reader Unit := do
  blocks (← stepLimit)
  align

end ClassVerification.Compressed.Deflate
