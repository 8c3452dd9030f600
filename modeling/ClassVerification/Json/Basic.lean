import ClassVerification.Number.Shortest
import ClassVerification.Text.Quoted

/-!
JSON values. Integers are exact and apart from binary numbers; an object keeps its members in the
order in which their keys first came.
-/

namespace ClassVerification

inductive Json where
  | null
  | bool (b : Bool)
  | int (n : Int)
  | float (x : Binary64)
  | text (t : Text)
  | list (items : List Json)
  | object (members : List (Text × Json))
deriving Repr

/-- Association lists in which a key stands once, at the place where it came first. -/
abbrev Members (α : Type) := List (Text × α)

namespace Members

variable {α : Type}

def get? (key : Text) : Members α → Option α
  | [] => none
  | (k, v) :: rest => if k = key then some v else get? key rest

/-- Puts a value under a key: in place of the old one, or at the end. -/
def put (key : Text) (value : α) : Members α → Members α
  | [] => [(key, value)]
  | (k, v) :: rest => if k = key then (k, value) :: rest else (k, v) :: put key value rest

@[simp]
theorem get?_put_self (key : Text) (value : α) (members : Members α) :
    get? key (put key value members) = some value := by
  induction members with
  | nil => simp [put, get?]
  | cons m rest ih =>
    by_cases h : m.1 = key
    · simp [put, get?, h]
    · simp [put, get?, h, ih]

theorem get?_put_of_ne {key other : Text} (h : key ≠ other) (value : α) (members : Members α) :
    get? key (put other value members) = get? key members := by
  induction members with
  | nil => simp [put, get?, h.symm]
  | cons m rest ih =>
    by_cases hm : m.1 = other
    · simp [put, get?, hm, h.symm]
    · simp [put, get?, hm, ih]

/-- Adds a value under a key that is new. -/
def add (key : Text) (value : α) (members : Members α) : Members α := members ++ [(key, value)]

def has (key : Text) (members : Members α) : Bool := (get? key members).isSome

/-- Puts several values, the last one under a key winning. -/
def putAll (members : Members α) (more : Members α) : Members α :=
  more.foldl (fun acc (k, v) => put k v acc) members

def dropKeys (keys : List Text) (members : Members α) : Members α :=
  members.filter fun (k, _) => !keys.contains k

end Members

namespace Json

instance : Inhabited Json := ⟨.null⟩

/-- The value under a key of an object; nothing else has one. -/
def get? (key : Text) : Json → Option Json
  | .object members => Members.get? key members
  | _ => none

mutual
/-- A value inside a message, where text is quoted. -/
def inline : Json → Text
  | .null => "None"
  | .bool true => "True"
  | .bool false => "False"
  | .int n => Text.ofInt n
  | .float x => x.text
  | .text t => t.quoted
  | .list items => "[" ++ Text.join ", " (inlineItems items) ++ "]"
  | .object members => "\x7b" ++ Text.join ", " (inlineMembers members) ++ "\x7d"

def inlineItems : List Json → List Text
  | [] => []
  | item :: rest => inline item :: inlineItems rest

def inlineMembers : List (Text × Json) → List Text
  | [] => []
  | (key, value) :: rest => (key.quoted ++ ": " ++ inline value) :: inlineMembers rest
end

/-- A value as a message of its own, where text stands bare. -/
def plain : Json → Text
  | .text t => t
  | v => v.inline

/-- Whether a value counts as true: it is not null, zero or empty. -/
def isTruthy : Json → Bool
  | .null => false
  | .bool b => b
  | .int n => n != 0
  | .float x => x.isNaN || x.toInt? != some 0
  | .text t => !t.isEmpty
  | .list items => !items.isEmpty
  | .object members => !members.isEmpty

/-- The name of a value's kind in messages. -/
def kind : Json → Text
  | .null => "NoneType"
  | .bool _ => "bool"
  | .int _ => "int"
  | .float _ => "float"
  | .text _ => "str"
  | .list _ => "list"
  | .object _ => "dict"

/-- The integer that a value equals as a key: truth values count as 1 and 0, and a binary number as
the integer that it is. -/
def keyInt? : Json → Option Int
  | .bool b => some (if b then 1 else 0)
  | .int n => some n
  | .float x => x.toInt?
  | _ => none

/-- Whether a value can be a key at all. -/
def isKey : Json → Bool
  | .list _ | .object _ => false
  | _ => true

end Json

end ClassVerification
