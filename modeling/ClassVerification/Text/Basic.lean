/-!
Text as the wire and the file system carry it: a list of code points, where half of a surrogate
pair may stand alone.
-/

namespace ClassVerification

/-- One unit of text: a Unicode scalar value, or a surrogate that arrived without its partner. -/
inductive CodePoint where
  | char (c : Char)
  | surrogate (offset : Fin 2048)
deriving DecidableEq, Repr

namespace CodePoint

def value : CodePoint → Nat
  | .char c => c.toNat
  | .surrogate i => 0xD800 + i.val

/-- The code point with a number, if there is one. -/
def ofNat? (n : Nat) : Option CodePoint :=
  if h : 0xD800 ≤ n ∧ n < 0xE000 then
    some (.surrogate ⟨n - 0xD800, by omega⟩)
  else if n < 0x110000 then
    some (.char (Char.ofNat n))
  else none

/-- A decimal digit of the Latin script, as a number. -/
def digit? : CodePoint → Option Nat
  | .char c => if '0' ≤ c ∧ c ≤ '9' then some (c.toNat - '0'.toNat) else none
  | .surrogate _ => none

def isDigit (c : CodePoint) : Bool := c.digit?.isSome

/-- A hexadecimal digit in either case, as a number. -/
def hexDigit? : CodePoint → Option Nat
  | .char c =>
    if '0' ≤ c ∧ c ≤ '9' then some (c.toNat - '0'.toNat)
    else if 'a' ≤ c ∧ c ≤ 'f' then some (c.toNat - 'a'.toNat + 10)
    else if 'A' ≤ c ∧ c ≤ 'F' then some (c.toNat - 'A'.toNat + 10)
    else none
  | .surrogate _ => none

end CodePoint

/-- Text is compared, cut and counted by code points. -/
abbrev Text := List CodePoint

namespace Text

def ofChars (cs : List Char) : Text := cs.map .char

def ofString (s : String) : Text := ofChars s.toList

instance : Coe String Text := ⟨ofString⟩

/-- The characters of a text, if none of its code points is a lone surrogate. -/
def chars? : Text → Option (List Char)
  | [] => some []
  | .char c :: rest => (chars? rest).map (c :: ·)
  | .surrogate _ :: _ => none

/-- Whether every code point is a Unicode scalar value. -/
def IsScalar (t : Text) : Prop := ∀ i, CodePoint.surrogate i ∉ t

/-- Decimal digits of a natural number, most significant first. -/
def ofNat (n : Nat) : Text := ofChars (Nat.toDigits 10 n)

def ofInt : Int → Text
  | .ofNat n => ofNat n
  | .negSucc n => .char '-' :: ofNat (n + 1)

/-- Hexadecimal digits in lower case, filled up with zeros to a width. -/
def ofHex (width n : Nat) : Text :=
  let digits := Nat.toDigits 16 n
  ofChars (List.replicate (width - digits.length) '0' ++ digits)

/-- What is left of a text after an expected beginning. -/
def dropPrefix? : Text → Text → Option Text
  | rest, [] => some rest
  | [], _ :: _ => none
  | c :: cs, p :: ps => if c = p then dropPrefix? cs ps else none

theorem dropPrefix?_append (start rest : Text) : dropPrefix? (start ++ rest) start = some rest := by
  induction start with
  | nil => simp [dropPrefix?]
  | cons c start ih => simp [dropPrefix?, ih]

theorem dropPrefix?_eq_some_iff {t start rest : Text} :
    dropPrefix? t start = some rest ↔ t = start ++ rest := by
  refine ⟨fun h => ?_, fun h => h ▸ dropPrefix?_append start rest⟩
  induction start generalizing t with
  | nil => simpa [dropPrefix?] using h
  | cons p start ih =>
    cases t with
    | nil => simp [dropPrefix?] at h
    | cons c t =>
      by_cases hc : c = p
      · subst c
        simp only [dropPrefix?, if_true] at h
        simp [ih h]
      · simp [dropPrefix?, hc] at h

def startsWith (t start : Text) : Bool := (dropPrefix? t start).isSome

def endsWith (t ending : Text) : Bool := startsWith t.reverse ending.reverse

/-- Drops code points of a class from the end. -/
def dropTrailing (p : CodePoint → Bool) (t : Text) : Text := (t.reverse.dropWhile p).reverse

/-- Drops code points of a class from both ends. -/
def trim (p : CodePoint → Bool) (t : Text) : Text := dropTrailing p (t.dropWhile p)

/-- The parts between the occurrences of a separator, empty parts included. -/
def split (sep : CodePoint) : Text → List Text
  | [] => [[]]
  | c :: cs =>
    if c = sep then [] :: split sep cs
    else match split sep cs with
      | [] => [[c]]
      | part :: parts => (c :: part) :: parts

/-- Parts written one after the other with a separator between them. -/
def join (sep : Text) : List Text → Text
  | [] => []
  | [part] => part
  | part :: parts => part ++ sep ++ join sep parts

theorem split_ne_nil (sep : CodePoint) (t : Text) : split sep t ≠ [] := by
  cases t with
  | nil => simp [split]
  | cons c t =>
    simp only [split]
    split
    · simp
    · cases split sep t <;> simp

/-- Cutting at a separator loses nothing. -/
theorem join_split (sep : CodePoint) (t : Text) : join [sep] (split sep t) = t := by
  induction t with
  | nil => rfl
  | cons c t ih =>
    obtain ⟨part, parts, hs⟩ := List.exists_cons_of_ne_nil (split_ne_nil sep t)
    rw [hs] at ih
    simp only [split, hs]
    split
    · next hc => simp [join, ih, hc]
    · cases parts with
      | nil => simpa [join] using ih
      | cons next parts => simpa [join] using ih

/-- Filled up with blanks at the end to a width. -/
def padRight (width : Nat) (t : Text) : Text :=
  t ++ List.replicate (width - t.length) (.char ' ')

/-- Order by code points, a text before all its continuations. -/
def le : Text → Text → Bool
  | [], _ => true
  | _ :: _, [] => false
  | a :: as, b :: bs => a.value < b.value || (a.value = b.value && le as bs)

end Text

end ClassVerification
