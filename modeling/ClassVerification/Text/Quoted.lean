import ClassVerification.Text.Printable

/-!
Quoted text: between single quotes, or between double quotes when only single ones occur inside.
Whatever cannot be shown as it is stands as an escape.
-/

namespace ClassVerification

/-- The escape of a code point by its number, in the shortest of three widths. -/
def CodePoint.numericEscape (n : Nat) : Text :=
  if n < 0x100 then "\\x" ++ Text.ofHex 2 n
  else if n < 0x10000 then "\\u" ++ Text.ofHex 4 n
  else "\\U" ++ Text.ofHex 8 n

namespace Quoted

/-- How a code point stands between quotes of one kind. -/
def escape (quote : CodePoint) (c : CodePoint) : Text :=
  if c = quote || c = .char '\\' then [.char '\\', c]
  else if c = .char '\t' then "\\t"
  else if c = .char '\n' then "\\n"
  else if c = .char '\r' then "\\r"
  else if c.isPrintable then [c]
  else CodePoint.numericEscape c.value

/-- The kind of quote that a text is put between. -/
def quoteFor (t : Text) : CodePoint :=
  if t.contains (.char '\'') && !t.contains (.char '"') then .char '"' else .char '\''

end Quoted

def Text.quoted (t : Text) : Text :=
  let quote := Quoted.quoteFor t
  [quote] ++ t.flatMap (Quoted.escape quote) ++ [quote]

end ClassVerification
