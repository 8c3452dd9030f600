import ClassVerification.Json.Basic

/-!
The status of a verification job as the service reports it.
-/

namespace ClassVerification

inductive JobStatus where
  | submitted
  | compiled
  | compileFailed
  | failed
  | succeeded
deriving DecidableEq, Repr

namespace JobStatus

def all : List JobStatus := [.submitted, .compiled, .compileFailed, .failed, .succeeded]

/-- The number that stands for a status on the wire. -/
def code : JobStatus → Int
  | .submitted => 0
  | .compiled => 1
  | .compileFailed => 2
  | .failed => 3
  | .succeeded => 4

def label : JobStatus → Text
  | .submitted => "Submitted"
  | .compiled => "Compiled"
  | .compileFailed => "CompileFailed"
  | .failed => "Fail"
  | .succeeded => "Success"

/-- The label in capitals, words apart. -/
def symbol : JobStatus → Text
  | .submitted => "SUBMITTED"
  | .compiled => "COMPILED"
  | .compileFailed => "COMPILE_FAILED"
  | .failed => "FAIL"
  | .succeeded => "SUCCESS"

/-- The event that brings a job into a status. -/
def event : JobStatus → Text
  | .submitted => "submitted"
  | .compiled => "compiled"
  | .compileFailed => "compile_failed"
  | .failed => "failed"
  | .succeeded => "succeeded"

/-- A job in one of these states does not change any more. -/
def isTerminal : JobStatus → Bool
  | .submitted | .compiled => false
  | .compileFailed | .failed | .succeeded => true

def ofCode? (n : Int) : Option JobStatus := all.find? (·.code = n)

def ofLabel? (t : Text) : Option JobStatus := all.find? (·.label = t)

def ofEvent? (t : Text) : Option JobStatus := all.find? (·.event = t)

@[simp]
theorem ofCode?_code (s : JobStatus) : ofCode? s.code = some s := by cases s <;> rfl

@[simp]
theorem ofLabel?_label (s : JobStatus) : ofLabel? s.label = some s := by cases s <;> rfl

@[simp]
theorem ofEvent?_event (s : JobStatus) : ofEvent? s.event = some s := by cases s <;> rfl

/-- No other number stands for a status. -/
theorem code_eq_of_ofCode? {n : Int} {s : JobStatus} (h : ofCode? n = some s) : s.code = n := by
  simpa using List.find?_some h

end JobStatus

end ClassVerification
