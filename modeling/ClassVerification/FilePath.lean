import ClassVerification.Text.Quoted

/-!
Paths to files: a root, or none for a path that starts at the working directory, and names. Single
dots and repeated slashes are dropped; a double dot stays, because a link may stand before it.
-/

namespace ClassVerification

inductive PathRoot where
  | relative
  | slash
  | doubleSlash
deriving DecidableEq, Repr

structure FilePath where
  root : PathRoot
  names : List Text
deriving DecidableEq, Repr

namespace FilePath

def slash : CodePoint := .char '/'

/-- The names of a path text. -/
def namesOf (t : Text) : List Text := (t.split slash).filter fun name => name != [] && name != "."

/-- Exactly two slashes in front are a root of their own; three or more count as one. -/
def rootOf (t : Text) : PathRoot :=
  if !t.startsWith "/" then .relative
  else if t.startsWith "//" && !t.startsWith "///" then .doubleSlash
  else .slash

def ofText (t : Text) : FilePath := ⟨rootOf t, namesOf t⟩

/-- An absolute path from the names below the root. -/
def absolute (names : List Text) : FilePath := ⟨.slash, names⟩

def rootText : PathRoot → Text
  | .relative => ""
  | .slash => "/"
  | .doubleSlash => "//"

def text (p : FilePath) : Text :=
  if p.root = .relative && p.names = [] then "."
  else rootText p.root ++ Text.join "/" p.names

/-- One path below another; an absolute path stands for itself. -/
def join (p q : FilePath) : FilePath :=
  if q.root = .relative then ⟨p.root, p.names ++ q.names⟩ else q

def child (p : FilePath) (name : Text) : FilePath := ⟨p.root, p.names ++ [name]⟩

def below (p : FilePath) (names : List Text) : FilePath := ⟨p.root, p.names ++ names⟩

end FilePath

end ClassVerification
