import ClassVerification.Text.Basic

/-!
Classes of code points that readers ask for: two notions of white space, decimal digits of every
script, and the two case maps as far as they reach the basic Latin letters.
-/

namespace ClassVerification.CodePoint

/-- White space of the text conventions: the Unicode white space and the four information
separators U+001C to U+001F. -/
def isBlank (c : CodePoint) : Bool :=
  let n := c.value
  (0x09 ≤ n && n ≤ 0x0D) || (0x1C ≤ n && n ≤ 0x20) || n = 0x85 || n = 0xA0 || n = 0x1680 ||
    (0x2000 ≤ n && n ≤ 0x200A) || n = 0x2028 || n = 0x2029 || n = 0x202F || n = 0x205F ||
    n = 0x3000

/-- The Unicode property White_Space, which leaves the information separators out. -/
def isWhiteSpace (c : CodePoint) : Bool :=
  c.isBlank && !(0x1C ≤ c.value && c.value ≤ 0x1F)

/-- Digit zero of each script that has decimal digits; the other nine follow it. -/
def digitZeros : List Nat := [
  0x30, 0x660, 0x6F0, 0x7C0, 0x966, 0x9E6, 0xA66, 0xAE6, 0xB66, 0xBE6, 0xC66, 0xCE6, 0xD66, 0xDE6,
  0xE50, 0xED0, 0xF20, 0x1040, 0x1090, 0x17E0, 0x1810, 0x1946, 0x19D0, 0x1A80, 0x1A90, 0x1B50,
  0x1BB0, 0x1C40, 0x1C50, 0xA620, 0xA8D0, 0xA900, 0xA9D0, 0xA9F0, 0xAA50, 0xABF0, 0xFF10, 0x104A0,
  0x10D30, 0x11066, 0x110F0, 0x11136, 0x111D0, 0x112F0, 0x11450, 0x114D0, 0x11650, 0x116C0,
  0x11730, 0x118E0, 0x11950, 0x11C50, 0x11D50, 0x11DA0, 0x16A60, 0x16AC0, 0x16B50, 0x1D7CE,
  0x1D7D8, 0x1D7E2, 0x1D7EC, 0x1D7F6, 0x1E140, 0x1E2F0, 0x1E950, 0x1FBF0]

/-- A decimal digit of any script. -/
def isDecimalDigit (c : CodePoint) : Bool :=
  digitZeros.any fun first => first ≤ c.value && c.value ≤ first + 9

def isUpperLatin (c : CodePoint) : Bool := 0x41 ≤ c.value && c.value ≤ 0x5A

def isLowerLatin (c : CodePoint) : Bool := 0x61 ≤ c.value && c.value ≤ 0x7A

/-- Lower case of the code points whose lower case is a basic Latin letter: A to Z and the kelvin
sign. All others stay as they are. -/
def lowerLatin (c : CodePoint) : CodePoint :=
  match c with
  | .char a =>
    if c.isUpperLatin then .char (Char.ofNat (a.toNat + 32))
    else if a.toNat = 0x212A then .char 'k'
    else c
  | .surrogate _ => c

/-- Upper case of the code points whose upper case consists of basic Latin letters: a to z, the
dotless i, the long s, the sharp s and the ligatures of f and s. All others stay as they are. -/
def upperLatin (c : CodePoint) : Text :=
  match c with
  | .char a =>
    if c.isLowerLatin then [.char (Char.ofNat (a.toNat - 32))]
    else match a.toNat with
      | 0xDF => "SS"
      | 0x131 => "I"
      | 0x17F => "S"
      | 0xFB00 => "FF"
      | 0xFB01 => "FI"
      | 0xFB02 => "FL"
      | 0xFB03 => "FFI"
      | 0xFB04 => "FFL"
      | 0xFB05 => "ST"
      | 0xFB06 => "ST"
      | _ => [c]
  | .surrogate _ => [c]

/-- Lower case of the letters A to Z alone. -/
def lowerBasic (c : CodePoint) : CodePoint :=
  match c with
  | .char a => if c.isUpperLatin then .char (Char.ofNat (a.toNat + 32)) else c
  | .surrogate _ => c

end ClassVerification.CodePoint

namespace ClassVerification.Text

def trimBlank (t : Text) : Text := trim CodePoint.isBlank t

def lowerLatin (t : Text) : Text := t.map CodePoint.lowerLatin

def upperLatin (t : Text) : Text := t.flatMap CodePoint.upperLatin

def lowerBasic (t : Text) : Text := t.map CodePoint.lowerBasic

end ClassVerification.Text
