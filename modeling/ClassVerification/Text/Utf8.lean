import ClassVerification.Text.Basic

/-!
UTF-8. Bytes are cut into pieces, each a scalar value or the longest start of one that goes wrong,
so that a strict reader, a replacing reader and the error report agree on where the flaws are.
-/

namespace ClassVerification.Utf8

/-- Why some bytes do not spell a code point. -/
inductive Flaw where
  | startByte
  | continuation
  | endOfData
deriving DecidableEq, Repr

/-- What stands at one place of a byte sequence, with the number of bytes it takes up. -/
inductive Piece where
  | spelled (c : CodePoint) (width : Nat)
  | malformed (flaw : Flaw) (width : Nat)
deriving DecidableEq, Repr

def Piece.width : Piece → Nat
  | .spelled _ w | .malformed _ w => w

def isContinuation (b : UInt8) : Bool := 0x80 ≤ b && b ≤ 0xBF

/-- The six bits that a continuation byte carries. -/
def payload (b : UInt8) : Nat := b.toNat % 64

def spelled (n width : Nat) : Piece :=
  match CodePoint.ofNat? n with
  | some c => .spelled c width
  | none => .malformed .startByte width

/-- The bytes that may follow a lead byte: none of them makes the spelling longer than needed,
passes U+10FFFF or, unless surrogates are let in, spells a surrogate. -/
def followsLead (surrogates : Bool) (lead next : UInt8) : Bool :=
  isContinuation next &&
    (lead != 0xE0 || 0xA0 ≤ next) && (lead != 0xED || surrogates || next ≤ 0x9F) &&
    (lead != 0xF0 || 0x90 ≤ next) && (lead != 0xF4 || next ≤ 0x8F)

/-- The piece at the front of a non-empty byte sequence. -/
def front (surrogates : Bool) (lead : UInt8) (rest : List UInt8) : Piece :=
  if lead < 0x80 then spelled lead.toNat 1
  else if lead < 0xC2 || 0xF4 < lead then .malformed .startByte 1
  else match rest with
    | [] => .malformed .endOfData 1
    | second :: rest =>
      if !followsLead surrogates lead second then .malformed .continuation 1
      else if lead < 0xE0 then spelled ((lead.toNat - 0xC0) * 64 + payload second) 2
      else match rest with
        | [] => .malformed .endOfData 2
        | third :: rest =>
          if !isContinuation third then .malformed .continuation 2
          else if lead < 0xF0 then
            spelled (((lead.toNat - 0xE0) * 64 + payload second) * 64 + payload third) 3
          else match rest with
            | [] => .malformed .endOfData 3
            | fourth :: _ =>
              if !isContinuation fourth then .malformed .continuation 3
              else
                spelled ((((lead.toNat - 0xF0) * 64 + payload second) * 64 + payload third) * 64
                  + payload fourth) 4

/-- A byte sequence cut into pieces from the front. -/
def pieces (surrogates : Bool) : List UInt8 → List Piece
  | [] => []
  | lead :: rest =>
    let piece := front surrogates lead rest
    piece :: pieces surrogates (rest.drop (piece.width - 1))
termination_by bytes => bytes.length
decreasing_by
  simp only [List.length_drop, List.length_cons]
  omega

/-- The first flaw of a byte sequence: its reason, its first byte and the positions it covers. -/
structure Undecodable where
  flaw : Flaw
  lead : UInt8
  start : Nat
  width : Nat
deriving DecidableEq, Repr

/-- Reads the pieces of a byte sequence from a position on. -/
def readPieces (bytes : List UInt8) : Nat → List Piece → Except Undecodable Text
  | _, [] => .ok []
  | position, .spelled c w :: rest => (readPieces bytes (position + w) rest).map (c :: ·)
  | position, .malformed flaw w :: _ => .error ⟨flaw, bytes.getD position 0, position, w⟩

/-- Strict reading. -/
def decode (bytes : List UInt8) : Except Undecodable Text :=
  readPieces bytes 0 (pieces false bytes)

/-- Reading in which each malformed piece becomes one U+FFFD. -/
def decodeReplacing (bytes : List UInt8) : Text :=
  (pieces false bytes).map fun
    | .spelled c _ => c
    | .malformed _ _ => .char (Char.ofNat 0xFFFD)

/-- Reading in which a surrogate may be spelled like any other code point of three bytes. -/
def decodeWithSurrogates? (bytes : List UInt8) : Option Text :=
  (readPieces bytes 0 (pieces true bytes)).toOption

/-- The bytes of the code point with a number. -/
def encodeValue (n : Nat) : List UInt8 :=
  if n < 0x80 then [n.toUInt8]
  else if n < 0x800 then [(0xC0 + n / 64).toUInt8, (0x80 + n % 64).toUInt8]
  else if n < 0x10000 then
    [(0xE0 + n / 4096).toUInt8, (0x80 + n / 64 % 64).toUInt8, (0x80 + n % 64).toUInt8]
  else
    [(0xF0 + n / 262144).toUInt8, (0x80 + n / 4096 % 64).toUInt8, (0x80 + n / 64 % 64).toUInt8,
      (0x80 + n % 64).toUInt8]

def encodeChar (c : Char) : List UInt8 := encodeValue c.toNat

/-- The bytes of a text without lone surrogates; a lone surrogate is left out. -/
def bytesOf (t : Text) : List UInt8 :=
  t.flatMap fun
    | .char c => encodeChar c
    | .surrogate _ => []

end ClassVerification.Utf8

namespace ClassVerification

/-- The code points that keep a text from being written in an encoding: the first run of them, and
where it starts. -/
structure Unencodable where
  start : Nat
  run : Text
deriving DecidableEq, Repr

namespace Unencodable

/-- The first run of code points outside an encoding. -/
def find (encodable : CodePoint → Bool) : Nat → Text → Option Unencodable
  | _, [] => none
  | position, c :: cs =>
    if encodable c then find encodable (position + 1) cs
    else some ⟨position, (c :: cs).takeWhile (!encodable ·)⟩

end Unencodable

def CodePoint.isScalar : CodePoint → Bool
  | .char _ => true
  | .surrogate _ => false

def CodePoint.isAscii (c : CodePoint) : Bool := c.value < 0x80

/-- The UTF-8 bytes of a text, unless it holds a lone surrogate. -/
def Utf8.encode (t : Text) : Except Unencodable (List UInt8) :=
  match Unencodable.find CodePoint.isScalar 0 t with
  | none => .ok (bytesOf t)
  | some flaw => .error flaw

end ClassVerification
