import ClassVerification.Defect
import ClassVerification.Number.Read

/-!
Typed fields from loose data. Text may spell a number or a truth value, numbers and truth values
stand for each other where nothing is lost, and text comes from text alone.
-/

namespace ClassVerification.Field

abbrev Reading (α : Type) := Except DefectKind α

def text : Json → Reading Text
  | .text t => .ok t
  | _ => .error .notText

def trueNames : List Text := ["true", "t", "yes", "y", "on", "1"]

def falseNames : List Text := ["false", "f", "no", "n", "off", "0"]

/-- A truth value by its name, in any case. -/
def boolOfText? (t : Text) : Option Bool :=
  let name := Text.lowerBasic t
  if trueNames.contains name then some true
  else if falseNames.contains name then some false
  else none

/-- Text that spells a value of another kind. It has to be Unicode. -/
def spelled {α : Type} (read : Text → Reading α) (t : Text) : Reading α :=
  if t.all CodePoint.isScalar then read t else .error .brokenText

/-- Whether an integer fits into a word of 64 bits. -/
def fitsWord (n : Int) : Bool := -(Nat.pow 2 63 : Int) ≤ n && n < (Nat.pow 2 63 : Int)

/-- Whether an integer that a binary number stands for is exact there. The least word is left
out. -/
def fitsInside (n : Int) : Bool := n.natAbs < Nat.pow 2 63

/-- A truth value from a word: zero or one. -/
def boolOfInt (n : Int) : Reading Bool :=
  if n = 0 then .ok false else if n = 1 then .ok true else .error .unreadableBool

def bool : Json → Reading Bool
  | .bool b => .ok b
  | .text t => spelled (fun t => (boolOfText? t).elim (.error .unreadableBool) .ok) t
  | .int n => if fitsWord n then boolOfInt n else .error .notBool
  | .float x =>
    match x.toInt? with
    | some n => if fitsInside n then boolOfInt n else .error .notBool
    | none => .error .notBool
  | _ => .error .notBool

/-- An integer from text. -/
def intOfText (t : Text) : Reading Int :=
  match Number.looseInt t with
  | .ok n => .ok n
  | .error .unreadable => .error .unreadableInt
  | .error .tooLong => .error .oversizedInt

def int : Json → Reading Int
  | .int n => .ok n
  | .bool b => .ok (if b then 1 else 0)
  | .text t => spelled intOfText t
  | .float x =>
    if x.isNaN || x.isInfinite then .error .notFinite
    else match x.toInt? with
      | some n => if fitsInside n then .ok n else .error .oversizedInt
      | none => .error .fractionalInt
  | _ => .error .notInt

/-- An integer and nothing that stands for one. -/
def strictInt : Json → Reading Int
  | .int n => .ok n
  | _ => .error .notInt

def float : Json → Reading Binary64
  | .float x => .ok x
  | .int n => (Binary64.ofInt? n).elim (.error .notFloat) .ok
  | .bool b => .ok (Binary64.ofNat (if b then 1 else 0))
  | .text t => spelled (fun t => (Number.looseDecimal? t).elim (.error .unreadableFloat) .ok) t
  | _ => .error .notFloat

/-- A value that may be null. -/
def optional {α : Type} (read : Json → Reading α) : Json → Reading (Option α)
  | .null => .ok none
  | value => (read value).map some

/-- A field that has to be there. -/
def required {α : Type} (read : Json → Reading α) (members : Members Json) (name : Text) :
    Except FieldDefect α :=
  match members.get? name with
  | none => .error ⟨name, .missing⟩
  | some value =>
    match read value with
    | .ok a => .ok a
    | .error kind => .error ⟨name, kind⟩

/-- A field that has a default. -/
def withDefault {α : Type} (default : α) (read : Json → Reading α) (members : Members Json)
    (name : Text) : Except FieldDefect α :=
  match members.get? name with
  | none => .ok default
  | some value =>
    match read value with
    | .ok a => .ok a
    | .error kind => .error ⟨name, kind⟩

/-- The defect of a field, if it has one. -/
def defect? {α : Type} : Except FieldDefect α → List FieldDefect
  | .ok _ => []
  | .error d => [d]

end ClassVerification.Field
