import ClassVerification.Text.Quoted
import ClassVerification.Url.Label.Allowed
import ClassVerification.Url.Label.Composed
import ClassVerification.Url.Label.Direction
import ClassVerification.Url.Label.Joining

/-!
Labels of domain names in any script: which texts are labels, and what is wrong with the others.
-/

namespace ClassVerification

/-- What a label from right to left, or one with such code points in it, gets wrong. -/
inductive DirectionDefect where
  | start (label : Text)
  | rightward (position : Nat)
  | leftward (position : Nat)
  | mixedDigits
  | ending
deriving DecidableEq, Repr

inductive LabelDefect where
  | empty
  | notComposed
  | innerHyphens
  | outerHyphen
  | leadingMark
  | joiner (c : CodePoint) (position : Nat) (label : Text)
  | misplaced (c : CodePoint) (position : Nat) (label : Text)
  | notAllowed (c : CodePoint) (position : Nat) (label : Text)
  | direction (d : DirectionDefect)
deriving DecidableEq, Repr

namespace Label

def hyphen : CodePoint := .char '-'

/-- Whether a joiner that shows nothing has an effect where it stands: behind a mark that suppresses
a vowel, or, if it keeps letters apart, between letters that would join. -/
def joinerFits (c : CodePoint) (before after : Text) : Bool :=
  before.head?.any (fun b => combiningClass b.value = viramaClass) ||
    (c.value = 0x200C && joinsAcross before after)

def isJoiner (c : CodePoint) : Bool := c.value = 0x200C || c.value = 0x200D

def isArabicDigit (c : CodePoint) : Bool := 0x660 ≤ c.value && c.value ≤ 0x669

def isEasternDigit (c : CodePoint) : Bool := 0x6F0 ≤ c.value && c.value ≤ 0x6F9

/-- Whether a sign that is bound to its surroundings fits them; nothing for any other sign. The
middle dot stands between two l, and digits of two Arabic kinds are not mixed. -/
def fits? (c : CodePoint) (before after label : Text) : Option Bool :=
  let n := c.value
  if n = 0xB7 then some (before.head? = some (.char 'l') && after.head? = some (.char 'l'))
  else if n = 0x375 then some (after.head?.any fun d => Ranges.has greek d.value)
  else if n = 0x5F3 || n = 0x5F4 then some (before.head?.any fun b => Ranges.has hebrew b.value)
  else if n = 0x30FB then some (label.any fun d => Ranges.has eastAsian d.value)
  else if isArabicDigit c then some (!label.any isEasternDigit)
  else if isEasternDigit c then some (!label.any isArabicDigit)
  else none

/-- Checks each code point of a label in its place, with what stands before it, nearest first. -/
def checkPlaces (label before : Text) : Text → Except LabelDefect Unit
  | [] => .ok ()
  | c :: after =>
    let position := before.length + 1
    if !isAllowed c then .error (.notAllowed c position label)
    else if isJoiner c && !joinerFits c before after then .error (.joiner c position label)
    else if fits? c before after label = some false then .error (.misplaced c position label)
    else checkPlaces label (c :: before) after

/-- Whether a label runs from right to left, by its first code point. -/
def runsLeft? : List Direction → Option Bool
  | .right :: _ | .arabic :: _ => some true
  | .left :: _ => some false
  | _ => none

/-- The directions that end a label of each kind well. -/
def endsWell (rightToLeft : Bool) (d : Direction) : Bool :=
  if rightToLeft then [.right, .arabic, .digit, .arabicDigit].contains d
  else [.left, .digit].contains d

/-- Whether a direction may occur in a label of each kind. -/
def mayOccur (rightToLeft : Bool) (d : Direction) : Bool :=
  if rightToLeft then d != .left else d != .right && d != .arabic && d != .arabicDigit

def isDigitKind (d : Direction) : Bool := d = .digit || d = .arabicDigit

/-- Checks the directions in a label of each kind from a position on. Digits in a label from right
to left are of the kind of the first ones. -/
def checkRun (rightToLeft : Bool) (digits : Option Direction) (position : Nat) :
    List Direction → Except DirectionDefect Unit
  | [] => .ok ()
  | d :: rest =>
    if !mayOccur rightToLeft d then
      .error (if rightToLeft then .leftward position else .rightward position)
    else if rightToLeft && isDigitKind d then
      if digits.any (· != d) then .error .mixedDigits
      else checkRun rightToLeft (some d) (position + 1) rest
    else checkRun rightToLeft digits (position + 1) rest

/-- Checks a label in which something runs from right to left. Marks at its end do not count. -/
def checkDirections (label : Text) : Except DirectionDefect Unit :=
  let directions := label.map direction
  if !directions.any fun d => [.right, .arabic, .arabicDigit].contains d then .ok ()
  else match runsLeft? directions with
    | none => .error (.start label)
    | some rightToLeft =>
      match checkRun rightToLeft none 1 directions with
      | .error d => .error d
      | .ok () =>
        if (directions.reverse.dropWhile (· = .mark)).head?.any (endsWell rightToLeft) then .ok ()
        else .error .ending

/-- Checks a label as a whole. -/
def check (label : Text) : Except LabelDefect Unit :=
  if label.isEmpty then .error .empty
  else if !isComposed label then .error .notComposed
  else if (label.drop 2).take 2 = [hyphen, hyphen] then .error .innerHyphens
  else if label.head? = some hyphen || label.getLast? = some hyphen then .error .outerHyphen
  else if label.head?.any isMark then .error .leadingMark
  else match checkPlaces label [] label with
    | .error d => .error d
    | .ok () => (checkDirections label).mapError .direction

end Label

def DirectionDefect.message : DirectionDefect → Text
  | .start label =>
    "First codepoint in label " ++ label.quoted ++ " must be directionality L, R or AL"
  | .leftward position =>
    "Invalid direction for codepoint at position " ++ Text.ofNat position ++
      " in a right-to-left label"
  | .rightward position =>
    "Invalid direction for codepoint at position " ++ Text.ofNat position ++
      " in a left-to-right label"
  | .mixedDigits => "Can not mix numeral types in a right-to-left label"
  | .ending => "Label ends with illegal codepoint directionality"

namespace LabelDefect

/-- A code point by its number, in at least four hexadecimal capitals. -/
def pointName (c : CodePoint) : Text :=
  let digits := (Nat.toDigits 16 c.value).map Char.toUpper
  "U+" ++ Text.ofChars (List.replicate (4 - digits.length) '0' ++ digits)

def message : LabelDefect → Text
  | .empty => "Empty Label"
  | .notComposed => "Label must be in Normalization Form C"
  | .innerHyphens => "Label has disallowed hyphens in 3rd and 4th position"
  | .outerHyphen => "Label must not start or end with a hyphen"
  | .leadingMark => "Label begins with an illegal combining character"
  | .joiner c position label =>
    "Joiner " ++ pointName c ++ " not allowed at position " ++ Text.ofNat position ++ " in " ++
      label.quoted
  | .misplaced c position label =>
    "Codepoint " ++ pointName c ++ " not allowed at position " ++ Text.ofNat position ++ " in " ++
      label.quoted
  | .notAllowed c position label =>
    "Codepoint " ++ pointName c ++ " at position " ++ Text.ofNat position ++ " of " ++
      label.quoted ++ " not allowed"
  | .direction d => d.message

end LabelDefect

end ClassVerification
