import ClassVerification.Text.Basic

/-!
Line ends. However a file marks them, text that is read from it has a line feed there.
-/

namespace ClassVerification.Text

/-- Every line end becomes one line feed: carriage returns, alone or before a line feed, too. -/
def unifyLineEnds : Text → Text
  | [] => []
  | [c] => [if c = .char '\r' then .char '\n' else c]
  | c :: d :: rest =>
    if c = .char '\r' then
      if d = .char '\n' then .char '\n' :: unifyLineEnds rest
      else .char '\n' :: unifyLineEnds (d :: rest)
    else c :: unifyLineEnds (d :: rest)

end ClassVerification.Text
