import ClassVerification.Proofs.Discovery.Stops
import ClassVerification.Proofs.FileTree.WellFormed
import ClassVerification.Proofs.Submission.Writable

/-! The project that a file belongs to: the nearest folder above it that holds a manifest. -/
namespace ClassVerification

namespace Text

variable {sep part : Text} {parts : List Text} {c : CodePoint}

theorem mem_join (h : c ∈ join sep parts) : c ∈ sep ∨ ∃ part ∈ parts, c ∈ part := by
  induction parts with
  | nil => cases h
  | cons part parts ih =>
    cases parts with
    | nil => exact Or.inr ⟨part, by simp, h⟩
    | cons next parts =>
      rw [join, List.mem_append, List.mem_append] at h
      rcases h with (h | h) | h
      · exact Or.inr ⟨part, by simp, h⟩
      · exact Or.inl h
      · rcases ih h with hsep | ⟨other, hother, hc⟩
        · exact Or.inl hsep
        · exact Or.inr ⟨other, List.mem_cons_of_mem _ hother, hc⟩
      · simp

theorem join_prefix_concat (sep part : Text) (parts : List Text) :
    join sep parts <+: join sep (parts ++ [part]) := by
  induction parts with
  | nil => exact List.nil_prefix
  | cons first parts ih =>
    cases parts with
    | nil => exact ⟨sep ++ part, by simp [join]⟩
    | cons next parts =>
      obtain ⟨rest, hrest⟩ := ih
      refine ⟨rest, ?_⟩
      simp only [List.cons_append] at hrest
      simp only [List.cons_append, join, ← hrest, List.append_assoc]

end Text

namespace FilePath

variable {names : List Text} {name : Text}

theorem text_absolute (names : List Text) :
    (absolute names).text = slash :: Text.join "/" names := by
  simp [absolute, text, rootText, Text.ofString, Text.ofChars, slash]

theorem isAccepted_absolute (h : ∀ name ∈ names, IsEntryName name) :
    (absolute names).IsAccepted := by
  have hcases : ∀ c ∈ (absolute names).text, c = slash ∨ ∃ name ∈ names, c ∈ name := by
    intro c hc
    rw [text_absolute] at hc
    rcases List.mem_cons.1 hc with hc | hc
    · exact Or.inl hc
    · refine (Text.mem_join hc).imp_left fun hslash => ?_
      exact List.mem_singleton.1 hslash
  refine ⟨fun hnull => ?_, fun c hc => ?_⟩
  · rcases hcases _ hnull with hslash | ⟨name, hname, hc⟩
    · cases hslash
    · exact (h name hname).noNull hc
  · rcases hcases c hc with rfl | ⟨name, hname, hc⟩
    · rfl
    · exact (h name hname).stands c hc

/-- The text of a folder is no longer than those of its entries. -/
theorem bytes_absolute_le (names : List Text) (name : Text) :
    (Utf8.bytesOf (absolute names).text).length ≤
      (Utf8.bytesOf ((absolute names).child name).text).length := by
  obtain ⟨rest, hrest⟩ := Text.join_prefix_concat "/" name names
  have hchild : ((absolute names).child name).text = (absolute names).text ++ rest := by
    rw [text_absolute, List.cons_append, hrest]
    exact text_absolute (names ++ [name])
  rw [hchild, Utf8.bytesOf, Utf8.bytesOf, List.flatMap_append, List.length_append]
  exact Nat.le_add_right _ _

theorem isEntryName_manifestName : IsEntryName manifestName := by
  decide

end FilePath

open FilePath (IsEntryName isEntryName_manifestName)

namespace FileTree

variable {tree : FileTree} {here place : Place} {path : FilePath} {bytes : List UInt8}

/-- Neither a place nor a folder on the way to it is a link. -/
def LinkFree (tree : FileTree) (place : Place) : Prop :=
  ∀ front, front <+: place → ∀ target, tree.node? front ≠ some (.link target)

theorem WellFormed.linkFree (hwell : tree.WellFormed) (h : tree.node? place = some (.file bytes)) :
    tree.LinkFree place := by
  rintro front ⟨names, rfl⟩ target hlink
  by_cases hnames : names = []
  · rw [hnames, List.append_nil] at h
    cases h.symm.trans hlink
  · cases (isFolder_iff.1 (hwell.isFolder_above h hnames)).symm.trans hlink

theorem readBytes_eq_ok_iff : tree.readBytes here path = .ok bytes ↔
    ∃ place, tree.resolve here path = .ok place ∧ tree.node? place = some (.file bytes) := by
  rw [readBytes, find]
  cases tree.resolve here path with
  | error e => simp
  | ok place =>
    cases hnode : tree.node? place with
    | none => simp [hnode]
    | some node => cases node <;> simp [hnode]

theorem length_lt_of_resolve (h : tree.resolve here path = .ok place) :
    (Utf8.bytesOf path.text).length < pathLimit := by
  rw [resolve] at h
  split at h
  · cases h
  · omega

end FileTree

namespace Discovery

variable {s : Session} {file : FilePath} {tree : FileTree} {folder place root other : Place}
  {name : Text} {bytes : List UInt8}

/-- The folders above a place are the proper beginnings of the way to it. -/
def IsAbove (folder place : Place) : Prop := folder <+: place ∧ folder ≠ place

/-- A file with the name of a manifest stands in a folder, or a link that leads to a file. -/
def HoldsManifest (tree : FileTree) (folder : Place) : Prop :=
  tree.HoldsFile (folder ++ [manifestName])

/-- The nearest folder above a place that holds a manifest: all the others lie above it. -/
structure IsNearest (tree : FileTree) (place root : Place) : Prop where
  above : IsAbove root place
  holds : HoldsManifest tree root
  deepest : ∀ folder, IsAbove folder place → HoldsManifest tree folder → folder <+: root

theorem IsNearest.unique (h : IsNearest tree place root) (h' : IsNearest tree place other) :
    root = other :=
  (h'.deepest root h.above h.holds).eq_of_length_le (h.deepest other h'.above h'.holds).length_le

theorem isAbove_concat_iff : IsAbove folder (place ++ [name]) ↔ folder <+: place := by
  rw [IsAbove, List.prefix_concat_iff]
  constructor
  · rintro ⟨rfl | h, hne⟩
    · exact (hne rfl).elim
    · exact h
  · intro h
    refine ⟨Or.inr h, ?_⟩
    rintro rfl
    have hlength := h.length_le
    simp at hlength

theorem placesAbove_concat (place : Place) (name : Text) :
    placesAbove (place ++ [name]) = place :: placesAbove place := by
  rw [placesAbove, List.length_append, List.length_singleton, List.range_succ_eq_map,
    List.map_cons, List.map_map, placesAbove]
  congr 1
  · simp
  · refine List.map_congr_left fun i hi => ?_
    have hi : i < place.length := List.mem_range.1 hi
    have hdepth : place.length + 1 - 1 - (i + 1) = place.length - 1 - i := by omega
    simp only [Function.comp_apply, Nat.succ_eq_add_one, hdepth]
    exact List.take_append_of_le_length (by omega)

/-- A search through the folders above a place, the nearest first, ends at the first that holds a
manifest. -/
theorem firstWithManifest_placesAbove
    (htells : ∀ folder, IsAbove folder place → ∃ found,
      s.isFile ((FilePath.absolute folder).child manifestName) = .ok found ∧
        (found = true ↔ HoldsManifest s.files folder)) :
    (∃ root, firstWithManifest s (placesAbove place) = .ok (some root) ∧
        IsNearest s.files place root) ∨
      firstWithManifest s (placesAbove place) = .ok none ∧
        ∀ folder, IsAbove folder place → ¬ HoldsManifest s.files folder := by
  induction place using List.reverseRecOn with
  | nil =>
    refine Or.inr ⟨rfl, ?_⟩
    rintro folder ⟨hfolder, hne⟩
    exact (hne (List.prefix_nil.1 hfolder)).elim
  | append_singleton place name ih =>
    obtain ⟨found, hfound, hholds⟩ := htells place (isAbove_concat_iff.2 (List.prefix_refl _))
    rw [placesAbove_concat, firstWithManifest, hfound]
    cases found with
    | true =>
      refine Or.inl ⟨place, rfl, isAbove_concat_iff.2 (List.prefix_refl _), hholds.1 rfl, ?_⟩
      intro folder habove _
      exact isAbove_concat_iff.1 habove
    | false =>
      have hno : ¬ HoldsManifest s.files place := fun h => by cases hholds.2 h
      have hhigher (folder : Place) (h : IsAbove folder (place ++ [name]))
          (hfolder : HoldsManifest s.files folder) : IsAbove folder place := by
        refine ⟨isAbove_concat_iff.1 h, ?_⟩
        rintro rfl
        exact hno hfolder
      rcases ih fun folder h => htells folder (isAbove_concat_iff.2 h.1) with
          ⟨root, hfirst, hnearest⟩ | ⟨hfirst, hnone⟩
      · refine Or.inl ⟨root, hfirst, isAbove_concat_iff.2 hnearest.above.1, hnearest.holds, ?_⟩
        intro folder habove hfolder
        exact hnearest.deepest folder (hhigher folder habove hfolder) hfolder
      · refine Or.inr ⟨hfirst, fun folder habove hfolder => ?_⟩
        exact hnone folder (hhigher folder habove hfolder) hfolder

theorem isEntryName_child (hwell : s.files.WellFormed) (hfolder : s.files.isFolder folder) :
    ∀ name ∈ folder ++ [manifestName], IsEntryName name := by
  intro name hname
  rcases List.mem_append.1 hname with hname | hname
  · exact hwell.isEntryName (FileTree.isFolder_iff.1 hfolder) name hname
  · exact List.mem_singleton.1 hname ▸ isEntryName_manifestName

/-- The question for a manifest in a folder is answered by what the folder holds, unless the path is
too long. -/
theorem isFile_manifest (hwell : s.files.WellFormed) (hfolder : s.files.isFolder folder)
    (hshort : ¬ s.TooLong ((FilePath.absolute folder).child manifestName)) :
    ∃ found, s.isFile ((FilePath.absolute folder).child manifestName) = .ok found ∧
      (found = true ↔ HoldsManifest s.files folder) := by
  have hcheck : ((FilePath.absolute folder).child manifestName).check = .ok () :=
    (FilePath.isAccepted_absolute (isEntryName_child hwell hfolder)).check
  have hresolve : s.files.resolve s.here ((FilePath.absolute folder).child manifestName) =
      s.files.walk FileTree.linkLimit folder [manifestName] := by
    have hlimit : ¬ FileTree.pathLimit ≤
        (Utf8.bytesOf ((FilePath.absolute folder).child manifestName).text).length := by
      intro hlimit
      refine hshort ⟨hcheck, ?_⟩
      rw [FileTree.find, FileTree.resolve, if_pos hlimit]
    have hroot : s.files.isFolder ([] ++ folder) := hfolder
    rw [FileTree.resolve, if_neg hlimit]
    exact hwell.walk_append hroot [manifestName]
  cases hfile : s.isFile ((FilePath.absolute folder).child manifestName) with
  | error f => exact (hshort (Session.isFile_eq_error_iff.1 ⟨f, hfile⟩)).elim
  | ok found =>
    refine ⟨found, rfl, ?_⟩
    have htrue : found = true ↔
        s.isFile ((FilePath.absolute folder).child manifestName) = .ok true := by
      rw [hfile, Except.ok.injEq]
    rw [htrue, Session.isFile_eq_true_iff, HoldsManifest,
      FileTree.holdsFile_iff hfolder isEntryName_manifestName]
    simp only [Session.Holds, hcheck, true_and, FileTree.readBytes_eq_ok_iff, hresolve]
    exact exists_comm

/-- The path of a folder with a manifest, if that of the manifest is not too long, leads to it. -/
theorem resolve_absolute (hwell : s.files.WellFormed) (hfolder : s.files.isFolder folder)
    (hshort : ¬ s.TooLong ((FilePath.absolute folder).child manifestName))
    (hholds : HoldsManifest s.files folder) :
    s.files.resolve s.here (.absolute folder) = .ok folder ∧
      s.isFolder (.absolute folder) = .ok true := by
  obtain ⟨found, hfile, htrue⟩ := isFile_manifest hwell hfolder hshort
  rw [htrue.2 hholds] at hfile
  obtain ⟨bytes, -, hread⟩ := Session.isFile_eq_true_iff.1 hfile
  obtain ⟨place, hchild, -⟩ := FileTree.readBytes_eq_ok_iff.1 hread
  have hlimit : (Utf8.bytesOf (FilePath.absolute folder).text).length < FileTree.pathLimit :=
    (FilePath.bytes_absolute_le folder manifestName).trans_lt (FileTree.length_lt_of_resolve hchild)
  have hroot : s.files.isFolder ([] ++ folder) := hfolder
  have hwalk : s.files.walk FileTree.linkLimit [] (folder ++ []) =
      s.files.walk FileTree.linkLimit ([] ++ folder) [] := hwell.walk_append hroot []
  rw [List.append_nil, FileTree.walk_nil] at hwalk
  have hplace : s.files.resolve s.here (.absolute folder) = .ok folder :=
    FileTree.resolve_of_walk hlimit hwalk
  have hcheck : (FilePath.absolute folder).check = .ok () :=
    (FilePath.isAccepted_absolute (hwell.isEntryName (FileTree.isFolder_iff.1 hfolder))).check
  exact ⟨hplace, Session.isFolder_of_resolve hcheck hplace (FileTree.isFolder_iff.1 hfolder)⟩

/-- A path that names a file names one of the tree, at a place with no link on the way to it. -/
theorem exists_place_of_isFile (hwell : s.files.WellFormed) (h : s.isFile file = .ok true) :
    ∃ place bytes, s.files.resolve s.here file = .ok place ∧
      s.files.node? place = some (.file bytes) ∧ s.files.LinkFree place := by
  obtain ⟨bytes, -, hread⟩ := Session.isFile_eq_true_iff.1 h
  obtain ⟨place, hplace, hnode⟩ := FileTree.readBytes_eq_ok_iff.1 hread
  exact ⟨place, bytes, hplace, hnode, hwell.linkFree hnode⟩

theorem isFolder_of_isAbove (hwell : s.files.WellFormed)
    (hnode : s.files.node? place = some (.file bytes)) (h : IsAbove folder place) :
    s.files.isFolder folder := by
  obtain ⟨⟨names, rfl⟩, hne⟩ := h
  refine hwell.isFolder_above hnode fun hnames => hne ?_
  rw [hnames, List.append_nil]

/-- What a search for the project of a file at a place comes to: the nearest folder above the place
that holds a manifest, or the failure that there is none. -/
inductive Seeks (tree : FileTree) (file : FilePath) (place : Place) : Search FilePath → Prop where
  | found {root : Place} : IsNearest tree place root → Seeks tree file place (.ok (.absolute root))
  | missing : (∀ folder, IsAbove folder place → ¬ HoldsManifest tree folder) →
      Seeks tree file place (.error (.failure (.invalidProject file.text .noManifestAbove)))

theorem seeks_projectRoot (hwell : s.files.WellFormed) (hfile : s.isFile file = .ok true)
    (hplace : s.files.resolve s.here file = .ok place)
    (hnode : s.files.node? place = some (.file bytes))
    (hshort : ∀ folder, IsAbove folder place →
      ¬ s.TooLong ((FilePath.absolute folder).child manifestName)) :
    Seeks s.files file place (projectRoot s file) := by
  have htells (folder : Place) (habove : IsAbove folder place) :=
    isFile_manifest hwell (isFolder_of_isAbove hwell hnode habove) (hshort folder habove)
  rcases firstWithManifest_placesAbove htells with ⟨root, hfirst, hnearest⟩ | ⟨hfirst, hnone⟩
  · have hfound : projectRoot s file = .ok (.absolute root) := by
      simp only [projectRoot, hfile, hplace, hfirst, orFault]
      rfl
    rw [hfound]
    exact .found hnearest
  · have hmissing : projectRoot s file =
        .error (.failure (.invalidProject file.text .noManifestAbove)) := by
      simp only [projectRoot, hfile, hplace, hfirst, orFault]
      rfl
    rw [hmissing]
    exact .missing hnone

namespace Seeks

variable {outcome : Search FilePath}

theorem eq_ok_iff (h : Seeks tree file place outcome) (path : FilePath) :
    outcome = .ok path ↔ ∃ root, path = .absolute root ∧ IsNearest tree place root := by
  cases h with
  | found hnearest =>
    constructor
    · rintro ⟨⟩
      exact ⟨_, rfl, hnearest⟩
    · rintro ⟨other, rfl, hother⟩
      rw [hnearest.unique hother]
  | missing hnone =>
    refine iff_of_false (by simp) ?_
    rintro ⟨root, -, hnearest⟩
    exact hnone root hnearest.above hnearest.holds

theorem eq_error_iff (h : Seeks tree file place outcome) (e : Error) :
    outcome = .error e ↔ e = .failure (.invalidProject file.text .noManifestAbove) ∧
      ∀ folder, IsAbove folder place → ¬ HoldsManifest tree folder := by
  cases h with
  | found hnearest =>
    refine iff_of_false (by simp) ?_
    rintro ⟨-, hnone⟩
    exact hnone _ hnearest.above hnearest.holds
  | missing hnone =>
    constructor
    · rintro ⟨⟩
      exact ⟨rfl, hnone⟩
    · rintro ⟨rfl, -⟩
      rfl

end Seeks

end Discovery

end ClassVerification
