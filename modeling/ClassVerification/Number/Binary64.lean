import ClassVerification.Text.Basic

/-!
Binary floating point with 64 bits, as the bits themselves: 1 for the sign, 11 for the exponent, 52
for the fraction. A rational is rounded to the nearest value, a half to the even one.
-/

namespace ClassVerification

structure Binary64 where
  bits : UInt64
deriving DecidableEq, Repr

namespace Binary64

def signBit : Nat := Nat.pow 2 63

def isNegative (x : Binary64) : Bool := signBit ≤ x.bits.toNat

def biasedExponent (x : Binary64) : Nat := x.bits.toNat / Nat.pow 2 52 % 2048

def fraction (x : Binary64) : Nat := x.bits.toNat % Nat.pow 2 52

def isNaN (x : Binary64) : Bool := x.biasedExponent = 2047 && x.fraction != 0

def isInfinite (x : Binary64) : Bool := x.biasedExponent = 2047 && x.fraction = 0

def ofParts (negative : Bool) (magnitude : Nat) : Binary64 :=
  ⟨(magnitude + if negative then signBit else 0).toUInt64⟩

def infinity (negative : Bool) : Binary64 := ofParts negative (2047 * Nat.pow 2 52)

def nan : Binary64 := ofParts false (2047 * Nat.pow 2 52 + Nat.pow 2 51)

/-- The significand m and the exponent e of a finite magnitude, whose value is m · 2 ^ e. -/
def parts (x : Binary64) : Nat × Int :=
  if x.biasedExponent = 0 then (x.fraction, -1074)
  else (x.fraction + Nat.pow 2 52, (x.biasedExponent : Int) - 1075)

/-- A quotient rounded to the nearest natural number, a half to the even one. -/
def roundDiv (num den : Nat) : Nat :=
  let q := num / den
  let r := num % den
  if 2 * r < den then q
  else if den < 2 * r then q + 1
  else if q % 2 = 0 then q else q + 1

/-- A quotient times a power of two, as a quotient. -/
def scale (num den : Nat) : Int → Nat × Nat
  | .ofNat e => (num * Nat.pow 2 e, den)
  | .negSucc e => (num, den * Nat.pow 2 (e + 1))

/-- The exponent that gives the quotient of two positive numbers a significand of 53 bits, or the
least exponent there is. -/
def exponentFor (num den : Nat) : Int :=
  let guess : Int := (Nat.log2 num : Int) - Nat.log2 den - 52
  let (n, d) := scale num den (-guess)
  let e := if n < d * Nat.pow 2 52 then guess - 1 else guess
  max e (-1074)

/-- The magnitude bits nearest to the quotient of two positive numbers, up to infinity. -/
def magnitudeOfRatio (num den : Nat) : Nat :=
  let e := exponentFor num den
  let (n, d) := scale num den (-e)
  let m := roundDiv n d
  let bits := if m < Nat.pow 2 52 then m else (e + 1074).toNat * Nat.pow 2 52 + m
  min bits (2047 * Nat.pow 2 52)

def ofRatio (negative : Bool) (num den : Nat) : Binary64 :=
  ofParts negative (if num = 0 then 0 else magnitudeOfRatio num den)

/-- The value of digits times a power of ten. Far beyond the range of the format the power itself
is not computed. -/
def ofDecimal (negative : Bool) (digits : Nat) (exponent : Int) : Binary64 :=
  if digits = 0 then ofParts negative 0
  else if 400 < exponent then infinity negative
  else if (Nat.log2 digits : Int) + exponent < -400 then ofParts negative 0
  else match exponent with
    | .ofNat e => ofRatio negative (digits * Nat.pow 10 e) 1
    | .negSucc e => ofRatio negative digits (Nat.pow 10 (e + 1))

/-- The nearest value to an integer, if that is finite. -/
def ofInt? (n : Int) : Option Binary64 :=
  let x := ofRatio (n < 0) n.natAbs 1
  if x.isInfinite then none else some x

def ofNat (n : Nat) : Binary64 := ofRatio false n 1

/-- The integer that a value is, if it is one. -/
def toInt? (x : Binary64) : Option Int :=
  if x.biasedExponent = 2047 then none
  else
    let (m, e) := x.parts
    let magnitude? : Option Nat := match e with
      | .ofNat k => some (m * Nat.pow 2 k)
      | .negSucc k => if m % Nat.pow 2 (k + 1) = 0 then some (m / Nat.pow 2 (k + 1)) else none
    magnitude?.map fun n => if x.isNegative then -(n : Int) else n

end Binary64

end ClassVerification
