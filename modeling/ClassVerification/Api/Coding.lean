import ClassVerification.Api.Header
import ClassVerification.Compressed.Envelope

/-!
Codings that the body of a response comes in, as its headers tell.
-/

namespace ClassVerification

inductive Coding where
  | gzip
  | deflate
deriving DecidableEq, Repr

namespace Coding

/-- The coding of a name. Names of other codings are passed over. -/
def ofName? (name : Text) : Option Coding :=
  let name := Text.lowerBasic name
  if name = "gzip" then some .gzip
  else if name = "deflate" then some .deflate
  else none

def decode : Coding → List UInt8 → Except Compressed.Flaw (List UInt8)
  | .gzip, body => Compressed.gunzip body
  | .deflate, body => Compressed.inflate body

/-- The codings that headers name, in the order in which they were applied. -/
def ofHeaders (headers : Members Text) : List Coding :=
  ((Header.values headers "content-encoding").flatMap Header.items).filterMap ofName?

/-- A body with its codings undone, the last one first. -/
def decodeAll (codings : List Coding) (body : List UInt8) :
    Except Compressed.Flaw (List UInt8) :=
  codings.reverse.foldlM (fun body coding => coding.decode body) body

end Coding

end ClassVerification
