import ClassVerification.Number.Binary64

/-!
The fewest decimal digits that read back as the same binary value, and of those the nearest.
Candidates are the two neighbours of the value on each decimal grid, tested in exact arithmetic.
-/

namespace ClassVerification

/-- A positive decimal: digits d₁d₂…dₙ and a point, with the value 0.d₁d₂…dₙ · 10 ^ point. -/
structure Decimal where
  digits : Nat
  count : Nat
  point : Int
deriving DecidableEq, Repr

namespace Binary64

/-- Four times the value of a positive finite number and of the ends of the interval that rounds
to it, over a common denominator. -/
structure Interval where
  low : Nat
  value : Nat
  high : Nat
  den : Nat
  closed : Bool

def interval (x : Binary64) : Interval :=
  let (m, e) := x.parts
  let low := if x.fraction = 0 && 1 < x.biasedExponent then 4 * m - 1 else 4 * m - 2
  let (up, down) := scale 1 4 e
  ⟨low * up, 4 * m * up, (4 * m + 2) * up, down, m % 2 = 0⟩

def Interval.holds (i : Interval) (num den : Nat) : Bool :=
  if i.closed then i.low * den ≤ num * i.den && num * i.den ≤ i.high * den
  else i.low * den < num * i.den && num * i.den < i.high * den

/-- Ten to a power, as a quotient. -/
def tenTo : Int → Nat × Nat
  | .ofNat e => (Nat.pow 10 e, 1)
  | .negSucc e => (1, Nat.pow 10 (e + 1))

/-- The least p with value < 10 ^ p, found upward from a lower bound. -/
def pointFrom (num den : Nat) : Nat → Int → Int
  | 0, p => p
  | fuel + 1, p =>
    let (up, down) := tenTo p
    if num * down < up * den then p else pointFrom num den fuel (p + 1)

/-- The neighbours of the value on the grid of a digit count, the nearer one first. -/
def Interval.onGrid (i : Interval) (point : Int) (count : Nat) : List Nat :=
  let (up, down) := tenTo (point - count)
  let num := i.value * down
  let den := i.den * up
  let below := num / den
  let rest := num % den
  if 2 * rest < den || (2 * rest = den && below % 2 = 0) then [below, below + 1]
  else [below + 1, below]

/-- The first grid, from a digit count on, with a neighbour inside the interval. -/
def Interval.shortestFrom (i : Interval) (point : Int) : Nat → Nat → Decimal
  | 0, count => ⟨i.value, count, point⟩
  | fuel + 1, count =>
    let (up, down) := tenTo (point - count)
    match (i.onGrid point count).find? (fun d => i.holds (d * up) down) with
    | some d => if d = Nat.pow 10 count then ⟨1, 1, point + 1⟩ else ⟨d, count, point⟩
    | none => i.shortestFrom point fuel (count + 1)

/-- The shortest decimal of a positive finite number. -/
def shortest (x : Binary64) : Decimal :=
  let i := x.interval
  let (m, e) := x.parts
  let floor := ((Nat.log2 m : Int) + e) * 30103 / 100000 - 1
  i.shortestFrom (pointFrom i.value i.den 8 floor) 17 1

/-- Text of a number: positional from 10⁻⁴ up to 10¹⁶, with at least one digit on either side of
the point, and beyond that with a signed exponent of at least two digits. -/
def text (x : Binary64) : Text :=
  let sign : Text := if x.isNegative then "-" else ""
  if x.isNaN then "nan"
  else if x.isInfinite then sign ++ "inf"
  else if x.parts.1 = 0 then sign ++ "0.0"
  else
    let d := x.shortest
    let digits := Text.ofNat d.digits
    let zeros (n : Nat) : Text := List.replicate n (.char '0')
    sign ++
      if d.point ≤ -4 || 16 < d.point then
        let e := d.point - 1
        let fraction : Text := if d.count = 1 then [] else "." ++ digits.drop 1
        let exponent := Text.ofNat e.natAbs
        digits.take 1 ++ fraction ++ "e" ++ (if e < 0 then "-" else "+") ++
          zeros (2 - exponent.length) ++ exponent
      else if d.point ≤ 0 then "0." ++ zeros d.point.natAbs ++ digits
      else
        let whole := d.point.toNat
        if d.count ≤ whole then digits ++ zeros (whole - d.count) ++ ".0"
        else digits.take whole ++ "." ++ digits.drop whole

end Binary64

end ClassVerification
