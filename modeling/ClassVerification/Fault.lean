import ClassVerification.Charset.Basic
import ClassVerification.FileTree
import ClassVerification.JobStatus
import ClassVerification.Network
import ClassVerification.Defect
import ClassVerification.Failure
import ClassVerification.Url.Domain

/-!
Faults: ways to stop that are not declared as failures of a verification. They come from arguments
of the wrong kind, from paths and texts that the system refuses, and from connections that break in
a way that no request accounts for.
-/

namespace ClassVerification

/-- The encodings that a text may fail to be written in. -/
inductive Encoding where
  | utf8
  | ascii
deriving DecidableEq, Repr

inductive Fault where
  | unknownNetworkName (name : Text)
  | notANetwork (value : Json)
  | notAJobStatus (value : Json)
  | unknownLabel (value : Json)
  | unknownStatusKey (value : Json)
  | notAKey (kind : Text)
  | noMember (kind member : Text)
  | notIterable (kind : Text)
  | notAPathPart (kind : Text)
  | parameterNotText
  | negativeCeiling (ceiling : Int)
  | embeddedNull
  | path (error : PathError) (path : Text)
  | undecodable (flaw : Utf8.Undecodable)
  | unreadable (defect : CharsetDefect)
  | unencodable (encoding : Encoding) (flaw : Unencodable)
  | tooManyDigits (count : Nat)
  | clientClosed
  | transition (event : Text) (status : JobStatus)
  | invalidUrl (reason : Text)
  | badBrackets (reason : Text)
  | notADomain (d : DomainDefect)
  | brokenStream (reason : Text)
  | relativeUrl (url : Text)
  | noReplyLeft
  | noToolRunLeft
deriving Repr

namespace Fault

def pathErrorNumber : PathError → Nat
  | .notFound => 2
  | .notAFolder => 20
  | .isAFolder => 21
  | .nameTooLong => 36
  | .tooManyLinks => 40

def pathErrorText : PathError → Text
  | .notFound => "No such file or directory"
  | .notAFolder => "Not a directory"
  | .isAFolder => "Is a directory"
  | .nameTooLong => "File name too long"
  | .tooManyLinks => "Too many levels of symbolic links"

def pathMessage (error : PathError) (path : Text) : Text :=
  "[Errno " ++ Text.ofNat (pathErrorNumber error) ++ "] " ++ pathErrorText error ++ ": " ++
    path.quoted

def flawText : Utf8.Flaw → Text
  | .startByte => "invalid start byte"
  | .continuation => "invalid continuation byte"
  | .endOfData => "unexpected end of data"

/-- Positions, first and last. -/
def span (start width : Nat) : Text :=
  Text.ofNat start ++ "-" ++ Text.ofNat (start + width - 1)

def undecodableMessage (f : Utf8.Undecodable) : Text :=
  "'utf-8' codec can't decode " ++
    (if f.width = 1 then
      "byte 0x" ++ Text.ofHex 2 f.lead.toNat ++ " in position " ++ Text.ofNat f.start
    else "bytes in position " ++ span f.start f.width) ++
    ": " ++ flawText f.flaw

def encodingName : Encoding → Text
  | .utf8 => "utf-8"
  | .ascii => "ascii"

def encodingReason : Encoding → Text
  | .utf8 => "surrogates not allowed"
  | .ascii => "ordinal not in range(128)"

def unencodableMessage (encoding : Encoding) (f : Unencodable) : Text :=
  "'" ++ encodingName encoding ++ "' codec can't encode " ++
    (match f.run with
    | [c] =>
      "character '" ++ CodePoint.numericEscape c.value ++ "' in position " ++ Text.ofNat f.start
    | run => "characters in position " ++ span f.start run.length) ++
    ": " ++ encodingReason encoding

def message : Fault → Text
  | .unknownNetworkName name =>
    "Unknown network: " ++ name.quoted ++ ". Valid networks: " ++
      Text.join ", " (Network.all.map Network.name)
  | .notANetwork value => value.inline ++ " is not a valid Network"
  | .notAJobStatus value => value.inline ++ " is not a valid VerifyJobStatus"
  | .unknownLabel value => "Unknown status label: " ++ value.inline
  | .unknownStatusKey value => value.inline
  | .notAKey kind => "unhashable type: '" ++ kind ++ "'"
  | .noMember kind member => "'" ++ kind ++ "' object has no attribute '" ++ member ++ "'"
  | .notIterable kind => "'" ++ kind ++ "' object is not iterable"
  | .notAPathPart kind => "unsupported operand type(s) for /: 'PosixPath' and '" ++ kind ++ "'"
  | .parameterNotText => "quote_from_bytes() expected bytes"
  | .negativeCeiling ceiling => "max_retries must be >= 0, got " ++ Text.ofInt ceiling
  | .embeddedNull => "embedded null byte"
  | .path error name => pathMessage error name
  | .undecodable flaw => undecodableMessage flaw
  | .unreadable defect => defect.message
  | .unencodable encoding flaw => unencodableMessage encoding flaw
  | .tooManyDigits count => Number.tooManyDigitsMessage count
  | .clientClosed => "Cannot send a request, as the client has been closed."
  | .transition event status => "Can't " ++ event ++ " when in " ++ status.label ++ "."
  | .invalidUrl reason => reason
  | .badBrackets reason => reason
  | .notADomain d => d.message
  | .brokenStream reason => reason
  | .relativeUrl url => "unknown url type: " ++ url.quoted
  | .noReplyLeft => "no scripted response left"
  | .noToolRunLeft => "no scripted process left"

end Fault

/-- Why an operation did not give its result. -/
inductive Error where
  | failure (f : Failure)
  | malformed (defects : List FieldDefect)
  | fault (f : Fault)
deriving Repr

end ClassVerification
