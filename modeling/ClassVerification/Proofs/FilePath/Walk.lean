import ClassVerification.Session

/-! Where paths lead in a tree of files. -/
namespace ClassVerification

namespace FileTree

variable {tree : FileTree} {budget : Nat} {here current place : Place} {name : Text}
  {rest : List Text} {path : FilePath} {e : PathError}

theorem walk_nil : tree.walk budget current [] = .ok current := by
  rw [walk]

theorem walk_at (h : tree.step current name = .ok (.at place)) :
    tree.walk budget current (name :: rest) = tree.walk budget place rest := by
  rw [walk, h]

theorem walk_error (h : tree.step current name = .error e) :
    tree.walk budget current (name :: rest) = .error e := by
  rw [walk, h]

/-- A path that is not too long leads where its names do, from the root or the working directory. -/
theorem resolve_of_walk (hlimit : (Utf8.bytesOf path.text).length < pathLimit)
    (h : tree.walk linkLimit (if path.root = .relative then here else []) path.names = .ok place) :
    tree.resolve here path = .ok place := by
  rw [resolve, if_neg (by omega), h]

theorem walk_of_resolve (h : tree.resolve here path = .ok place) :
    tree.walk linkLimit (if path.root = .relative then here else []) path.names = .ok place := by
  rw [resolve] at h
  split at h
  · cases h
  · exact h

/-- A path, read in a folder, names the entry of some name directly inside a folder. Links on the
way there are followed, the entry itself may be a link. -/
def Denotes (tree : FileTree) (here : Place) (path : FilePath) (folder : Place)
    (name : Text) : Prop :=
  ∃ names, path.names = names ++ [name] ∧
    tree.walk linkLimit (if path.root = .relative then here else []) names = .ok folder

end FileTree

namespace Session

variable {s : Session} {path : FilePath} {place : Place}

/-- A folder is one that its path leads to. -/
theorem exists_place_of_isFolder (h : s.isFolder path = .ok true) :
    ∃ place, s.files.resolve s.here path = .ok place := by
  cases hplace : s.files.resolve s.here path with
  | ok place => exact ⟨place, rfl⟩
  | error e =>
    have hfind : s.files.find s.here path = .error e := by simp [FileTree.find, hplace]
    simp only [isFolder, kindOf, hfind] at h
    cases hcheck : path.check <;> cases e <;> simp [hcheck, Except.map] at h

/-- A path that leads to a folder is one of a folder. -/
theorem isFolder_of_resolve (hcheck : path.check = .ok ())
    (hplace : s.files.resolve s.here path = .ok place)
    (hnode : s.files.node? place = some .folder) : s.isFolder path = .ok true := by
  have hfind : s.files.find s.here path = .ok (place, .folder) := by
    simp [FileTree.find, hplace, hnode]
  simp [isFolder, kindOf, hcheck, hfind, Except.map]

end Session

end ClassVerification
