import ClassVerification.Json.Basic

/-!
Values of a TOML document, and tables as association lists that are extended along dotted keys.
-/

namespace ClassVerification

/-- The kinds of dates and times. -/
inductive Moment where
  | date
  | time
  | dateTime
deriving DecidableEq, Repr

inductive Toml where
  | text (t : Text)
  | int (n : Int)
  | float (x : Binary64)
  | bool (b : Bool)
  | moment (kind : Moment) (written : Text)
  | list (items : List Toml)
  | table (members : List (Text × Toml))
deriving Repr

namespace Toml

instance : Inhabited Toml := ⟨.table []⟩

/-- The name of a value's kind in messages. -/
def kind : Toml → Text
  | .text _ => "str"
  | .int _ => "int"
  | .float _ => "float"
  | .bool _ => "bool"
  | .moment .date _ => "datetime.date"
  | .moment .time _ => "datetime.time"
  | .moment .dateTime _ => "datetime.datetime"
  | .list _ => "list"
  | .table _ => "dict"

/-- Whether a value is empty, zero or false. -/
def isBlank : Toml → Bool
  | .text t => t.isEmpty
  | .int n => n = 0
  | .float x => !x.isNaN && x.parts.1 = 0
  | .bool b => !b
  | .moment _ _ => false
  | .list items => items.isEmpty
  | .table members => members.isEmpty

/-- A dotted key: the names from the root of the document down. -/
abbrev Key := List Text

/-- Changes the table that a key leads to, making the tables on the way that are missing. With
`lastOf`, a list on the way stands for its last item. -/
def within (lastOf : Bool) (change : Members Toml → Option (Members Toml)) :
    Key → Members Toml → Option (Members Toml)
  | [], members => change members
  | name :: rest, members =>
    match members.get? name with
    | none => (within lastOf change rest []).map fun t => members.put name (.table t)
    | some (.table inner) =>
      (within lastOf change rest inner).map fun t => members.put name (.table t)
    | some (.list items) =>
      match lastOf, items.getLast? with
      | true, some (.table inner) =>
        (within lastOf change rest inner).map fun t =>
          members.put name (.list (items.dropLast ++ [.table t]))
      | _, _ => none
    | some _ => none

/-- Puts a value under a name that is still free. -/
def addNew (name : Text) (value : Toml) (members : Members Toml) : Option (Members Toml) :=
  if members.has name then none else some (members.put name value)

/-- Appends an empty table to the list under a name, or starts such a list. -/
def appendTable (name : Text) (members : Members Toml) : Option (Members Toml) :=
  match members.get? name with
  | none => some (members.put name (.list [.table []]))
  | some (.list items) => some (members.put name (.list (items ++ [.table []])))
  | some _ => none

end Toml

end ClassVerification
