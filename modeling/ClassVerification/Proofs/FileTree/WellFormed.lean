import Mathlib.Data.List.Induction
import ClassVerification.Proofs.FilePath.Text
import ClassVerification.Proofs.FilePath.Walk
import ClassVerification.Proofs.FileTree.Below

/-! Trees in which every node stands in a folder under a name that the system allows. In these, a
place without links on the way to it is reached by its own names. -/
namespace ClassVerification

/-- A name that a node may have in its folder: neither too long nor a dot or two, without a slash or
NUL, and each code point is a character or stands for a byte. -/
structure FilePath.IsEntryName (name : Text) : Prop where
  isName : IsName name
  notAbove : name ≠ ".."
  short : (Utf8.bytesOf name).length ≤ FileTree.nameLimit
  noNull : .char '\x00' ∉ name
  stands : ∀ c ∈ name, c.isScalar || (0xDC80 ≤ c.value && c.value ≤ 0xDCFF)

theorem FilePath.isEntryName_iff {name : Text} : IsEntryName name ↔
    (name ≠ [] ∧ name ≠ "." ∧ slash ∉ name) ∧ name ≠ ".." ∧
      (Utf8.bytesOf name).length ≤ FileTree.nameLimit ∧ .char '\x00' ∉ name ∧
      ∀ c ∈ name, c.isScalar || (0xDC80 ≤ c.value && c.value ≤ 0xDCFF) :=
  ⟨fun h => ⟨h.isName, h.notAbove, h.short, h.noNull, h.stands⟩,
    fun h => ⟨h.1, h.2.1, h.2.2.1, h.2.2.2.1, h.2.2.2.2⟩⟩

instance (name : Text) : Decidable (FilePath.IsEntryName name) :=
  decidable_of_iff' _ FilePath.isEntryName_iff

namespace FileTree

open FilePath (IsEntryName)

variable {tree : FileTree} {budget : Nat} {base folder place : Place} {names rest : List Text}
  {name : Text} {node : Node}

/-- Every node has a name that the system allows, and stands in a folder. -/
structure WellFormed (tree : FileTree) : Prop where
  named : ∀ entry ∈ tree, ∀ name ∈ entry.1, IsEntryName name
  enclosed : ∀ entry ∈ tree, tree.isFolder (parent entry.1)

theorem wellFormed_iff : tree.WellFormed ↔
    (∀ entry ∈ tree, ∀ name ∈ entry.1, IsEntryName name) ∧
      ∀ entry ∈ tree, tree.isFolder (parent entry.1) :=
  ⟨fun h => ⟨h.named, h.enclosed⟩, fun h => ⟨h.1, h.2⟩⟩

instance (tree : FileTree) : Decidable tree.WellFormed := decidable_of_iff' _ wellFormed_iff

theorem mem_of_node? (hne : place ≠ []) (h : tree.node? place = some node) :
    ∃ entry ∈ tree, entry.1 = place := by
  have hmem : place ∈ tree.map (·.1) := (isSome_node?_iff hne).1 (by rw [h]; rfl)
  exact List.mem_map.1 hmem

theorem isFolder_iff : tree.isFolder place ↔ tree.node? place = some .folder := by
  simp [isFolder]

theorem WellFormed.isEntryName (hwell : tree.WellFormed) (h : tree.node? place = some node) :
    ∀ name ∈ place, IsEntryName name := by
  by_cases hne : place = []
  · simp [hne]
  · obtain ⟨entry, hentry, rfl⟩ := mem_of_node? hne h
    exact hwell.named entry hentry

/-- On the way to a node there are folders. -/
theorem WellFormed.isFolder_above (hwell : tree.WellFormed)
    (h : tree.node? (base ++ names) = some node) (hne : names ≠ []) : tree.isFolder base := by
  induction names using List.reverseRecOn generalizing node with
  | nil => exact (hne rfl).elim
  | append_singleton names name ih =>
    obtain ⟨entry, hentry, heq⟩ := mem_of_node? (by simp) h
    have hparent : tree.isFolder (base ++ names) := by
      have henclosed := hwell.enclosed entry hentry
      rwa [heq, parent, ← List.append_assoc, List.dropLast_concat] at henclosed
    by_cases hnames : names = []
    · rwa [hnames, List.append_nil] at hparent
    · exact ih (isFolder_iff.1 hparent) hnames

/-- What one step by a name leads to. -/
theorem step_of_isEntryName (hfolder : tree.isFolder folder) (hname : IsEntryName name) :
    tree.step folder name = match tree.node? (folder ++ [name]) with
      | none => .error .notFound
      | some (.link target) => .ok (.through target)
      | some _ => .ok (.at (folder ++ [name])) := by
  have hshort : ¬ nameLimit < (Utf8.bytesOf name).length := Nat.not_lt.2 hname.short
  have hdot : name ≠ "." := hname.isName.2.1
  cases hnode : tree.node? (folder ++ [name]) with
  | none => simp [step, hfolder, hdot, hname.notAbove, hshort, hnode]
  | some node => cases node <;> simp [step, hfolder, hdot, hname.notAbove, hshort, hnode]

/-- The names of a folder lead to it, with no link followed. -/
theorem WellFormed.walk_append (hwell : tree.WellFormed) (h : tree.isFolder (base ++ names))
    (rest : List Text) :
    tree.walk budget base (names ++ rest) = tree.walk budget (base ++ names) rest := by
  induction names generalizing base with
  | nil => simp
  | cons name names ih =>
    have hassoc : base ++ name :: names = base ++ [name] ++ names := by simp
    have hbase : tree.isFolder base := hwell.isFolder_above (isFolder_iff.1 h) (by simp)
    have hinner : tree.isFolder (base ++ [name]) := by
      by_cases hnames : names = []
      · rwa [hnames] at h
      · exact hwell.isFolder_above (isFolder_iff.1 (hassoc ▸ h)) hnames
    have hname : IsEntryName name := hwell.isEntryName (isFolder_iff.1 h) name (by simp)
    have hstep : tree.step base name = .ok (.at (base ++ [name])) := by
      rw [step_of_isEntryName hbase hname, isFolder_iff.1 hinner]
    rw [List.cons_append, walk_at hstep, ih (hassoc ▸ h), ← hassoc]

/-- An entry of a folder holds a file just if its name leads to one from there. -/
theorem holdsFile_iff (hfolder : tree.isFolder folder) (hname : IsEntryName name) :
    tree.HoldsFile (folder ++ [name]) ↔ ∃ place bytes,
      tree.walk linkLimit folder [name] = .ok place ∧ tree.node? place = some (.file bytes) := by
  constructor
  · intro h
    generalize hentry : folder ++ [name] = entry at h
    cases h with
    | @file _ bytes hnode =>
      subst hentry
      have hstep : tree.step folder name = .ok (.at (folder ++ [name])) := by
        rw [step_of_isEntryName hfolder hname, hnode]
      exact ⟨_, bytes, (walk_at hstep).trans walk_nil, hnode⟩
    | link _ hwalk hnode =>
      obtain ⟨rfl, hnames⟩ := List.append_inj' hentry rfl
      obtain rfl := List.singleton_inj.1 hnames
      exact ⟨_, _, hwalk, hnode⟩
  · rintro ⟨place, bytes, hwalk, hnode⟩
    have hstep := step_of_isEntryName hfolder hname
    cases hentry : tree.node? (folder ++ [name]) with
    | none =>
      rw [hentry] at hstep
      cases (walk_error hstep).symm.trans hwalk
    | some node =>
      rw [hentry] at hstep
      cases node with
      | link target => exact .link hentry hwalk hnode
      | file content => exact .file hentry
      | folder =>
        obtain rfl := Except.ok.inj (((walk_at hstep).trans walk_nil).symm.trans hwalk)
        cases hentry.symm.trans hnode

end FileTree

end ClassVerification
