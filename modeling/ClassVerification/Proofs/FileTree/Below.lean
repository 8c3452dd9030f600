import Mathlib.Data.List.Induction
import Mathlib.Data.List.Nodup
import ClassVerification.FileTree

/-! What lies below a folder, in trees that hold one node at each place. -/
namespace ClassVerification.FileTree

variable {tree : FileTree} {base here place : Place} {names : List Text} {name : Text} {node : Node}

/-- No two nodes stand at one place. -/
def Distinct (tree : FileTree) : Prop := (tree.map (·.1)).Nodup

theorem Distinct.filter (h : tree.Distinct) (p : Place × Node → Bool) :
    Distinct (tree.filter p) :=
  h.sublist (List.filter_sublist.map Prod.fst)

theorem Distinct.put (h : tree.Distinct) (place : Place) (node : Node) :
    (tree.put place node).Distinct := by
  rw [FileTree.put]
  split
  · exact h
  · rw [Distinct, List.map_append]
    refine (h.filter _).append (List.nodup_singleton place) ?_
    intro other hother hplace
    obtain ⟨entry, hentry, rfl⟩ := List.mem_map.1 hother
    have hne : entry.1 ≠ place := by simpa using (List.mem_filter.1 hentry).2
    exact hne (List.mem_singleton.1 hplace)

theorem Distinct.ensureFolders (h : tree.Distinct) (current : Place) (names : List Text) :
    (tree.ensureFolders current names).1.Distinct := by
  induction names generalizing tree current with
  | nil => exact h
  | cons name rest ih =>
    rw [FileTree.ensureFolders]
    split
    · exact ih h _
    · exact ih (h.put _ _) _

theorem Distinct.edit (h : tree.Distinct) (here : Place) (path : FilePath) (edit : Edit) :
    (tree.edit here path edit).Distinct := by
  have hfolders := h.ensureFolders (if path.root = .relative then here else []) path.names.dropLast
  cases edit with
  | makeFolder => exact h.ensureFolders _ _
  | write bytes =>
    simp only [FileTree.edit]
    split
    · exact hfolders
    · split
      · exact hfolders.put _ _
      · exact hfolders.put _ _
  | link target =>
    simp only [FileTree.edit]
    split
    · exact hfolders
    · exact hfolders.put _ _
  | remove =>
    simp only [FileTree.edit]
    split
    · exact hfolders
    · exact hfolders.filter _

/-- Every tree that is made by edits holds one node at each place. -/
theorem distinct_of_edits (here : Place) (edits : List (FilePath × Edit)) :
    Distinct (edits.foldl (fun tree entry => tree.edit here entry.1 entry.2) []) := by
  induction edits using List.reverseRecOn with
  | nil => exact List.nodup_nil
  | append_singleton edits entry ih =>
    rw [List.foldl_append]
    exact ih.edit here entry.1 entry.2

/-- The entries at any depth below a folder, by the names that lead to them. Folders are entered,
links are not. -/
inductive Below (tree : FileTree) (base : Place) : List Text → Prop where
  | child {name : Text} : tree.isFolder base → (tree.node? (base ++ [name])).isSome →
      Below tree base [name]
  | deeper {names : List Text} {name : Text} : Below tree base names →
      tree.isFolder (base ++ names) → (tree.node? (base ++ (names ++ [name]))).isSome →
      Below tree base (names ++ [name])

/-- A file stands at a place, or a link that leads to one. -/
inductive HoldsFile (tree : FileTree) : Place → Prop where
  | file {place : Place} {bytes : List UInt8} : tree.node? place = some (.file bytes) →
      HoldsFile tree place
  | link {folder place : Place} {name target : Text} {bytes : List UInt8} :
      tree.node? (folder ++ [name]) = some (.link target) →
      tree.walk linkLimit folder [name] = .ok place → tree.node? place = some (.file bytes) →
      HoldsFile tree (folder ++ [name])

theorem reachedByFolders_concat : tree.reachedByFolders base (names ++ [name]) ↔
    tree.reachedByFolders base names ∧ tree.isFolder (base ++ names) := by
  have hfront : ∀ depth ∈ List.range names.length,
      (names ++ [name]).take depth = names.take depth := by
    intro depth hdepth
    exact List.take_append_of_le_length (Nat.le_of_lt (List.mem_range.1 hdepth))
  have hlast : (names ++ [name]).take names.length = names := List.take_left
  simp only [reachedByFolders, List.length_append, List.length_singleton, List.range_succ,
    List.all_append, Bool.and_eq_true, List.all_cons, List.all_nil, Bool.and_true, hlast,
    List.all_eq_true]
  refine and_congr_left fun _ => forall₂_congr fun depth hdepth => ?_
  rw [hfront depth hdepth]

theorem below_iff : tree.Below base names ↔
    names ≠ [] ∧ tree.reachedByFolders base names ∧ (tree.node? (base ++ names)).isSome := by
  constructor
  · intro h
    induction h with
    | @child name hbase hnode =>
      have hreached : tree.reachedByFolders base ([] ++ [name]) :=
        reachedByFolders_concat.2 ⟨rfl, by simpa using hbase⟩
      exact ⟨by simp, hreached, hnode⟩
    | deeper _ hfolder hnode ih =>
      exact ⟨by simp, reachedByFolders_concat.2 ⟨ih.2.1, hfolder⟩, hnode⟩
  · rintro ⟨hne, hreached, hnode⟩
    induction names using List.reverseRecOn with
    | nil => exact (hne rfl).elim
    | append_singleton names name ih =>
      obtain ⟨hreached, hfolder⟩ := reachedByFolders_concat.1 hreached
      by_cases hnames : names = []
      · subst hnames
        exact .child (by simpa using hfolder) hnode
      · have hinner : (tree.node? (base ++ names)).isSome := by
          rw [isFolder, decide_eq_true_eq] at hfolder
          rw [hfolder]
          rfl
        exact .deeper (ih hnames hreached hinner) hfolder hnode

theorem isSome_node?_iff (hplace : place ≠ []) :
    (tree.node? place).isSome ↔ place ∈ tree.map (·.1) := by
  rw [node?, if_neg hplace, Option.isSome_map, List.find?_isSome]
  simp [List.mem_map]

/-- The names relative to a folder, if a place lies below it and folders lead there. -/
def relative? (tree : FileTree) (base place : Place) : Option (List Text) :=
  if base.isPrefixOf place then
    let names := place.drop base.length
    if names != [] && tree.reachedByFolders base names then some names else none
  else none

theorem relative?_eq_some_iff : tree.relative? base place = some names ↔
    place = base ++ names ∧ names ≠ [] ∧ tree.reachedByFolders base names := by
  rw [relative?]
  split
  · next hstarts =>
    obtain ⟨rest, rfl⟩ := List.isPrefixOf_iff_prefix.1 hstarts
    simp only [List.drop_left]
    split
    · next hrest =>
      simp only [Bool.and_eq_true, bne_iff_ne] at hrest
      constructor
      · intro h
        obtain rfl := Option.some.inj h
        exact ⟨rfl, hrest⟩
      · rintro ⟨heq, -⟩
        rw [List.append_cancel_left heq]
    · next hrest =>
      simp only [Bool.and_eq_true, bne_iff_ne] at hrest
      refine ⟨by simp, ?_⟩
      rintro ⟨heq, hnames⟩
      exact (hrest (List.append_cancel_left heq ▸ hnames)).elim
  · next hstarts =>
    refine ⟨by simp, ?_⟩
    rintro ⟨rfl, -⟩
    exact (hstarts (List.isPrefixOf_iff_prefix.2 (List.prefix_append _ _))).elim

theorem namesBelow_eq (tree : FileTree) (base : Place) :
    tree.namesBelow base = (tree.map (·.1)).filterMap (tree.relative? base) := by
  rw [List.filterMap_map]
  rfl

/-- A search goes through all entries below a folder and through nothing else. -/
theorem mem_namesBelow_iff : names ∈ tree.namesBelow base ↔ tree.Below base names := by
  rw [namesBelow_eq, List.mem_filterMap, below_iff]
  simp only [relative?_eq_some_iff]
  constructor
  · rintro ⟨_, hplace, rfl, hne, hreached⟩
    exact ⟨hne, hreached, (isSome_node?_iff (by simp [hne])).2 hplace⟩
  · rintro ⟨hne, hreached, hnode⟩
    exact ⟨_, (isSome_node?_iff (by simp [hne])).1 hnode, rfl, hne, hreached⟩

/-- It comes to each entry once. -/
theorem nodup_namesBelow (h : tree.Distinct) (base : Place) : (tree.namesBelow base).Nodup := by
  rw [namesBelow_eq]
  refine h.filterMap fun first second names hfirst hsecond => ?_
  rw [(relative?_eq_some_iff.1 hfirst).1, (relative?_eq_some_iff.1 hsecond).1]

end ClassVerification.FileTree
