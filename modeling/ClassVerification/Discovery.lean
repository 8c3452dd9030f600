import ClassVerification.Session
import ClassVerification.Toml.Document

/-!
Looking for the contract sources of a project: those of a package, or those of every member of a
workspace. A project is a folder with a manifest.
-/

namespace ClassVerification.Discovery

abbrev Search (α : Type) := Except Error α

def invalid {α : Type} (path : FilePath) (defect : ProjectDefect) : Search α :=
  .error (.failure (.invalidProject path.text defect))

def fault {α : Type} (f : Fault) : Search α := .error (.fault f)

def orFault {α : Type} : Except Fault α → Search α
  | .ok a => .ok a
  | .error f => fault f

def malformedDocument : Text := "malformed document"

/-- The manifest of a project. -/
def manifest (s : Session) (project : FilePath) : Search (Members Toml) := do
  let path := project.child manifestName
  if !(← orFault (s.isFile path)) then invalid project .noManifest
  else match s.readText path with
    | .error (.path e) =>
      invalid project (.unreadableManifest (Fault.pathMessage e path.text))
    | .error (.undecodable flaw) => fault (.undecodable flaw)
    | .error (.refused f) => fault f
    | .ok t =>
      match Toml.ofText t with
      | .ok members => .ok members
      | .error .malformed => invalid project (.unreadableManifest malformedDocument)
      | .error (.tooManyDigits count) => fault (.tooManyDigits count)

/-- Whether a manifest declares a contract target. A target that is blank declares none. -/
def hasContractTarget (manifest : Members Toml) : Except Fault Bool :=
  match manifest.get? "target" with
  | none => .ok false
  | some (.table target) => .ok ((Members.get? "starknet-contract" target).any (!Toml.isBlank ·))
  | some other => .error (.noMember other.kind "get")

/-- Order of paths, name by name. -/
def namesLe : List Text → List Text → Bool
  | [], _ => true
  | _ :: _, [] => false
  | a :: as, b :: bs => if a = b then namesLe as bs else Text.le a b

def sourceSuffix : Text := ".cairo"

/-- Whether the last of some names is that of a source file. -/
def isSource (names : List Text) : Bool := names.getLast?.any (·.endsWith sourceSuffix)

/-- The sources at any depth below a place, in order. -/
def sourcesBelow (tree : FileTree) (base : Place) : List (List Text) :=
  ((tree.namesBelow base).filter isSource).mergeSort namesLe

/-- Whether a path has as many bytes as the system does not take. -/
def isTooLong (path : FilePath) : Bool := FileTree.pathLimit ≤ (Utf8.bytesOf path.text).length

/-- The folders below a place, by their paths from a path to that place on. -/
def foldersBelow (tree : FileTree) (base : Place) (folder : FilePath) : List FilePath :=
  ((tree.namesBelow base).filter fun names => tree.isFolder (base ++ names)).map folder.below

/-- The sources of a folder that a path names, none if it names no folder. All folders below it are
opened, which the system refuses for a path that is too long. -/
def sources (s : Session) (folder : FilePath) : Search (List FilePath) := do
  if !(← orFault (s.isFolder folder)) then return []
  match s.files.resolve s.here folder with
  | .ok base =>
    match (foldersBelow s.files base folder).find? isTooLong with
    | some path => fault (.path .nameTooLong path.text)
    | none => return (sourcesBelow s.files base).map folder.below
  | .error _ => return []

/-- The sources of a package with a manifest. -/
def packageSources (s : Session) (project : FilePath) (manifest : Members Toml) :
    Search (List FilePath) := do
  if !manifest.has "package" then invalid project .noPackage
  else if !(← orFault (hasContractTarget manifest)) then invalid project .noContractTarget
  else sources s (project.child "src")

/-- The members that a workspace lists: the items of a list, the keys of a table or the characters
of a text. -/
def membersOf (workspace : Members Toml) : Except Fault (List Toml) :=
  match workspace.get? "members" with
  | none => .ok []
  | some (.list items) => .ok items
  | some (.table members) => .ok (members.map fun (k, _) => .text k)
  | some (.text t) => .ok (t.map fun c => .text [c])
  | some other => .error (.notIterable other.kind)

/-- The sources of one member of a workspace. -/
def memberSources (s : Session) (project : FilePath) : Toml → Search (List FilePath)
  | .text t => do
    let member := project.join (FilePath.ofText t)
    packageSources s member (← manifest s member)
  | other => fault (.notAPathPart other.kind)

/-- The sources of members, one after the other, up to the first that has a defect. -/
def allMemberSources (s : Session) (project : FilePath) : List Toml → Search (List FilePath)
  | [] => .ok []
  | member :: rest => do
    let here ← memberSources s project member
    return here ++ (← allMemberSources s project rest)

/-- The sources of a project before it is asked that there be some. -/
def candidates (s : Session) (project : FilePath) : Search (List FilePath) := do
  let manifest ← manifest s project
  match manifest.get? "workspace", manifest.has "package" with
  | some (.table workspace), false =>
    allMemberSources s project (← orFault (membersOf workspace))
  | some other, false => fault (.noMember other.kind "get")
  | _, _ => packageSources s project manifest

/-- The contract sources of a project. -/
def contracts (s : Session) (project : FilePath) : Search (List FilePath) := do
  let found ← candidates s project
  if found.isEmpty then invalid project .noSources else return found

/-- The places above a place, the nearest first. -/
def placesAbove (place : Place) : List Place :=
  (List.range place.length).map fun i => place.take (place.length - 1 - i)

/-- The first of some folders that holds a manifest. -/
def firstWithManifest (s : Session) : List Place → Except Fault (Option Place)
  | [] => .ok none
  | place :: rest =>
    match s.isFile ((FilePath.absolute place).child manifestName) with
    | .error f => .error f
    | .ok true => .ok (some place)
    | .ok false => firstWithManifest s rest

/-- The nearest folder above a file that holds a manifest. -/
def projectRoot (s : Session) (file : FilePath) : Search FilePath := do
  if !(← orFault (s.isFile file)) then invalid file .noSuchFile
  else match s.files.resolve s.here file with
    | .error _ => invalid file .noSuchFile
    | .ok place =>
      match ← orFault (firstWithManifest s (placesAbove place)) with
      | some root => return .absolute root
      | none => invalid file .noManifestAbove

end ClassVerification.Discovery
