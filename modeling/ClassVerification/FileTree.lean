import ClassVerification.FilePath
import ClassVerification.Text.Utf8

/-!
A tree of files, folders and symbolic links, and what a path names in it. A place is the list of
names from the root down, none of them a link; looking a path up walks from place to place.
-/

namespace ClassVerification

abbrev Place := List Text

inductive Node where
  | file (bytes : List UInt8)
  | link (target : Text)
  | folder
deriving DecidableEq, Repr

/-- The nodes below the root, each with its place. -/
abbrev FileTree := List (Place × Node)

/-- Why a path names nothing that can be used. -/
inductive PathError where
  | notFound
  | notAFolder
  | isAFolder
  | nameTooLong
  | tooManyLinks
deriving DecidableEq, Repr

namespace FileTree

/-- The node at a place; the root is a folder. -/
def node? (tree : FileTree) (place : Place) : Option Node :=
  if place = [] then some .folder else (tree.find? (·.1 = place)).map (·.2)

def isFolder (tree : FileTree) (place : Place) : Bool := tree.node? place = some .folder

def parent (place : Place) : Place := place.dropLast

/-- The most bytes in one name. -/
def nameLimit : Nat := 255

/-- The most bytes in a whole path, counted with the one that ends it. -/
def pathLimit : Nat := 4096

/-- The most links that one look-up follows. -/
def linkLimit : Nat := 40

/-- The steps that a link's target asks for. A slash at the end asks for a folder, as a dot does. -/
def stepsOf (target : Text) : List Text :=
  let names := (target.split FilePath.slash).filter (· != [])
  if target.endsWith "/" then names ++ [Text.ofString "."] else names

/-- What one step from a folder leads to. -/
inductive Landing where
  | at (place : Place)
  | through (target : Text)
deriving DecidableEq, Repr

/-- One step from a place, which has to be a folder. -/
def step (tree : FileTree) (current : Place) (name : Text) : Except PathError Landing :=
  if !tree.isFolder current then .error .notAFolder
  else if name = "." then .ok (.at current)
  else if name = ".." then .ok (.at (parent current))
  else if nameLimit < (Utf8.bytesOf name).length then .error .nameTooLong
  else match tree.node? (current ++ [name]) with
    | none => .error .notFound
    | some (.link target) => .ok (.through target)
    | some _ => .ok (.at (current ++ [name]))

/-- Walks steps from a place. The budget counts the links that may still be followed. -/
def walk (tree : FileTree) (budget : Nat) (current : Place) (steps : List Text) :
    Except PathError Place :=
  match steps with
  | [] => .ok current
  | name :: rest =>
    match tree.step current name with
    | .error e => .error e
    | .ok (.at place) => walk tree budget place rest
    | .ok (.through target) =>
      match budget with
      | 0 => .error .tooManyLinks
      | budget + 1 =>
        if target = [] then .error .notFound
        else
          let start := if target.startsWith "/" then [] else current
          walk tree budget start (stepsOf target ++ rest)
termination_by (budget, steps.length)

/-- The place that a path names from a working directory. -/
def resolve (tree : FileTree) (here : Place) (path : FilePath) : Except PathError Place :=
  if pathLimit ≤ (Utf8.bytesOf path.text).length then .error .nameTooLong
  else walk tree linkLimit (if path.root = .relative then here else []) path.names

/-- The place and the node that a path names, links followed. -/
def find (tree : FileTree) (here : Place) (path : FilePath) : Except PathError (Place × Node) :=
  match tree.resolve here path with
  | .error e => .error e
  | .ok place =>
    match tree.node? place with
    | some node => .ok (place, node)
    | none => .error .notFound

def readBytes (tree : FileTree) (here : Place) (path : FilePath) :
    Except PathError (List UInt8) :=
  match tree.find here path with
  | .error e => .error e
  | .ok (_, .file bytes) => .ok bytes
  | .ok (_, .folder) => .error .isAFolder
  | .ok (_, .link _) => .error .notFound

/-- Whether every folder on the way from a place down to some names is a folder, not a link. -/
def reachedByFolders (tree : FileTree) (base : Place) (names : List Text) : Bool :=
  (List.range names.length).all fun depth => tree.isFolder (base ++ names.take depth)

/-- The names, relative to a folder, of all nodes below it; links are not entered. -/
def namesBelow (tree : FileTree) (base : Place) : List (List Text) :=
  tree.filterMap fun (place, _) =>
    if base.isPrefixOf place then
      let names := place.drop base.length
      if names != [] && tree.reachedByFolders base names then some names else none
    else none

/-- The same tree with another node at a place. -/
def put (tree : FileTree) (place : Place) (node : Node) : FileTree :=
  if place = [] then tree else tree.filter (·.1 != place) ++ [(place, node)]

/-- The same tree without what stands at a place and below it. -/
def remove (tree : FileTree) (place : Place) : FileTree :=
  tree.filter fun (p, _) => !place.isPrefixOf p

/-- The folder that steps lead to, made where it is missing. -/
def ensureFolders (tree : FileTree) : Place → List Text → FileTree × Place
  | current, [] => (tree, current)
  | current, name :: rest =>
    match tree.walk linkLimit current [name] with
    | .ok place => ensureFolders tree place rest
    | .error _ =>
      let place := current ++ [name]
      ensureFolders (tree.put place .folder) place rest

/-- What is to be written to a tree. -/
inductive Edit where
  | write (bytes : List UInt8)
  | makeFolder
  | link (target : Text)
  | remove
deriving DecidableEq, Repr

/-- Carries out an edit at a path, making the folders above it. -/
def edit (tree : FileTree) (here : Place) (path : FilePath) (edit : Edit) : FileTree :=
  let start := if path.root = .relative then here else []
  match edit with
  | .makeFolder => (tree.ensureFolders start path.names).1
  | _ =>
    let (tree, folder) := tree.ensureFolders start path.names.dropLast
    match path.names.getLast? with
    | none => tree
    | some name =>
      let place := folder ++ [name]
      match edit with
      | .write bytes =>
        match tree.walk linkLimit folder [name] with
        | .ok target => tree.put target (.file bytes)
        | .error _ => tree.put place (.file bytes)
      | .link target => tree.put place (.link target)
      | .remove => tree.remove place
      | .makeFolder => tree

end FileTree

end ClassVerification
