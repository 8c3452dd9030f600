import ClassVerification.Text.Basic

/-!
Punycode: the spelling of a host label in basic letters and digits. The basic characters come first;
the others follow as differences, in rising order, with digits to the base 36 whose weights adapt.
Reading undoes writing one difference at a time.
-/

namespace ClassVerification.Punycode

def digit (d : Nat) : CodePoint :=
  .char (Char.ofNat (if d < 26 then 0x61 + d else 0x30 + d - 26))

/-- The threshold of the digit at a weight position, between 1 and 26. -/
def threshold (position bias : Nat) : Nat := min 26 (max 1 (position - bias))

theorem threshold_pos (position bias : Nat) : 1 ≤ threshold position bias := by
  unfold threshold
  omega

theorem threshold_le (position bias : Nat) : threshold position bias ≤ 26 := by
  unfold threshold
  omega

def shrink (delta steps : Nat) : Nat × Nat :=
  if 455 < delta then shrink (delta / 35) (steps + 36) else (delta, steps)
termination_by delta
decreasing_by omega

/-- The bias after a difference has been written. -/
def adapt (delta count : Nat) (first : Bool) : Nat :=
  let halved := if first then delta / 700 else delta / 2
  let (delta, steps) := shrink (halved + halved / count) 0
  steps + 36 * delta / (delta + 38)

/-- The digits of one difference. -/
def digits (bias position delta : Nat) : Text :=
  let t := threshold position bias
  if delta < t then [digit delta]
  else digit (t + (delta - t) % (36 - t)) :: digits bias (position + 36) ((delta - t) / (36 - t))
termination_by delta
decreasing_by
  have hp := threshold_pos position bias
  have hl := threshold_le position bias
  calc (delta - threshold position bias) / (36 - threshold position bias)
      ≤ delta - threshold position bias := Nat.div_le_self _ _
    _ < delta := by omega

/-- What has been written, and what the next difference starts from. -/
structure Progress where
  written : Text
  delta : Nat
  bias : Nat
  done : Nat

/-- Passes one code point of the label while differences up to a number are being written. -/
def pass (basics number : Nat) (p : Progress) (c : CodePoint) : Progress :=
  if c.value < number then { p with delta := p.delta + 1 }
  else if c.value = number then
    { written := p.written ++ digits p.bias 36 p.delta
      delta := 0
      bias := adapt p.delta (p.done + 1) (p.done = basics)
      done := p.done + 1 }
  else p

/-- Writes the differences for the numbers that are left, in rising order. -/
def writeFrom (label : Text) (basics : Nat) : Nat → List Nat → Progress → Text
  | _, [], p => p.written
  | start, number :: rest, p =>
    let p := { p with delta := p.delta + (number - start) * (p.done + 1) }
    let p := label.foldl (pass basics number) p
    writeFrom label basics (number + 1) rest { p with delta := p.delta + 1 }

/-- The basic spelling of a label. -/
def encode (label : Text) : Text :=
  let basic := label.filter (·.value < 0x80)
  let numbers := ((label.map CodePoint.value).filter (0x80 ≤ ·)).mergeSort.eraseDups
  let start := if basic.isEmpty then basic else basic ++ [.char '-']
  writeFrom label basic.length 0x80 numbers ⟨start, 0, 72, basic.length⟩

/-- The value of a digit, in either case. -/
def digitValue? (c : CodePoint) : Option Nat :=
  let n := c.value
  if 0x61 ≤ n && n ≤ 0x7A then some (n - 0x61)
  else if 0x41 ≤ n && n ≤ 0x5A then some (n - 0x41)
  else if 0x30 ≤ n && n ≤ 0x39 then some (n - 0x30 + 26)
  else none

/-- Reads one difference from a digit on: its weight and what the digits before it add up to are
known. -/
def readDigits? (bias : Nat) : Nat → Nat → Nat → Text → Option (Nat × Text)
  | _, _, _, [] => none
  | position, weight, sum, c :: rest =>
    match digitValue? c with
    | none => none
    | some d =>
      if d < threshold position bias then some (sum + d * weight, rest)
      else
        readDigits? bias (position + 36) (weight * (36 - threshold position bias))
          (sum + d * weight) rest

/-- A difference takes up at least one digit. -/
theorem length_lt_of_readDigits? {bias position weight sum delta : Nat} {t rest : Text}
    (h : readDigits? bias position weight sum t = some (delta, rest)) :
    rest.length < t.length := by
  induction t generalizing position weight sum with
  | nil => simp [readDigits?] at h
  | cons c t ih =>
    rw [readDigits?] at h
    split at h
    · simp at h
    · split at h
      · simp only [Option.some.injEq, Prod.mk.injEq] at h
        simp [h.2]
      · have := ih h
        simp only [List.length_cons]
        omega

/-- Puts the code points that the differences tell into what has been read. The next one goes to a
place that is counted from the one before it. -/
def readFrom (written : Text) (number place bias : Nat) (first : Bool) (t : Text) : Option Text :=
  if t.isEmpty then some written
  else match _h : readDigits? bias 36 1 0 t with
    | none => none
    | some (delta, rest) =>
      let count := written.length + 1
      let place := place + delta
      let number := number + place / count
      match CodePoint.ofNat? number with
      | none => none
      | some c =>
        let written := written.take (place % count) ++ c :: written.drop (place % count)
        readFrom written number (place % count + 1) (adapt delta count first) false rest
termination_by t.length
decreasing_by exact length_lt_of_readDigits? _h

/-- Puts in the code points that differences tell, up to the first that tells none. A number beyond
all code points is put in as a question mark. -/
def readLossyFrom (written : Text) (number place bias : Nat) (first : Bool) (t : Text) : Text :=
  if t.isEmpty then written
  else match _h : readDigits? bias 36 1 0 t with
    | none => written
    | some (delta, rest) =>
      let count := written.length + 1
      let place := place + delta
      let number := number + place / count
      let (c, number) := match CodePoint.ofNat? number with
        | some c => (c, number)
        | none => (.char '?', 0x3F)
      let written := written.take (place % count) ++ c :: written.drop (place % count)
      readLossyFrom written number (place % count + 1) (adapt delta count first) false rest
termination_by t.length
decreasing_by exact length_lt_of_readDigits? _h

/-- The label of a basic spelling, if it is one. -/
def decode? (t : Text) : Option Text :=
  let (back, front) := t.reverse.span (· != .char '-')
  readFrom (front.drop 1).reverse 0x80 0 72 true back.reverse

end ClassVerification.Punycode
