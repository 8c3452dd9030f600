import ClassVerification.Json.Basic

/-!
Why data does not fit the record that it should fill: a field, and what is wrong with it.
-/

namespace ClassVerification

inductive DefectKind where
  | missing
  | notText
  | notInt
  | unreadableInt
  | oversizedInt
  | fractionalInt
  | notFinite
  | notFloat
  | unreadableFloat
  | notBool
  | unreadableBool
  | brokenText
  | notARecord
deriving DecidableEq, Repr

/-- What is wrong with a field. A defect of the whole record has the empty name. -/
structure FieldDefect where
  field : Text
  kind : DefectKind
deriving DecidableEq, Repr

end ClassVerification
