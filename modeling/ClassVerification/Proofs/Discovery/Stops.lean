import ClassVerification.Proofs.Discovery.Candidates

/-! Where a search for contract sources stops with a fault, and not with the failure that it
declares. -/
namespace ClassVerification

/-- A path that the system takes, but that is too long or leads through a name that is. -/
def Session.TooLong (s : Session) (path : FilePath) : Prop :=
  path.check = .ok () ∧ s.files.find s.here path = .error .nameTooLong

/-- A path that the system takes, and that leads to a file with some bytes. -/
def Session.Holds (s : Session) (path : FilePath) (bytes : List UInt8) : Prop :=
  path.check = .ok () ∧ s.files.readBytes s.here path = .ok bytes

namespace Session

variable {s : Session} {path : FilePath} {bytes : List UInt8}

theorem kindOf_eq_error_iff : (∃ f, s.kindOf path = .error f) ↔ s.TooLong path := by
  rw [kindOf, TooLong]
  cases path.check with
  | error f => simp
  | ok _ =>
    cases s.files.find s.here path with
    | ok found => simp
    | error e => cases e <;> simp

theorem isFile_eq_error_iff : (∃ f, s.isFile path = .error f) ↔ s.TooLong path := by
  rw [← kindOf_eq_error_iff, isFile]
  cases s.kindOf path <;> simp [Except.map]

theorem isFolder_eq_error_iff : (∃ f, s.isFolder path = .error f) ↔ s.TooLong path := by
  rw [← kindOf_eq_error_iff, isFolder]
  cases s.kindOf path <;> simp [Except.map]

theorem isFile_eq_true_iff : s.isFile path = .ok true ↔ ∃ bytes, s.Holds path bytes := by
  simp only [isFile, kindOf, Holds, FileTree.readBytes]
  cases path.check with
  | error f => simp [Except.map]
  | ok _ =>
    cases s.files.find s.here path with
    | error e => cases e <;> simp [Except.map]
    | ok found =>
      obtain ⟨place, node⟩ := found
      cases node <;> simp [Except.map]

/-- What a file reads as, once it is there. -/
theorem readText_of_holds (h : s.Holds path bytes) :
    s.readText path = match Utf8.decode bytes with
      | .error flaw => .error (.undecodable flaw)
      | .ok t => .ok t.unifyLineEnds := by
  cases hdecode : Utf8.decode bytes <;> simp [readText, h.1, h.2, hdecode]

end Session

namespace Toml

def IsTable (v : Toml) : Prop := ∃ members, v = .table members

/-- A value that members can be taken from. -/
def IsIterable (v : Toml) : Prop := v.IsTable ∨ (∃ items, v = .list items) ∨ ∃ t, v = .text t

end Toml

namespace Discovery

variable {α β : Type} {s : Session} {project folder : FilePath} {items : List Toml}
  {members : Members Toml}

/-- A search that ends in a fault. -/
def Faults (x : Search α) : Prop := ∃ f, x = .error (.fault f)

theorem faults_bind_iff {x : Search α} {f : α → Search β} :
    Faults (x >>= f) ↔ Faults x ∨ ∃ a, x = .ok a ∧ Faults (f a) := by
  cases x <;> simp [Faults, bind, Except.bind]

theorem faults_orFault_iff {x : Except Fault α} : Faults (orFault x) ↔ ∃ f, x = .error f := by
  cases x <;> simp [Faults, orFault, fault]

@[simp]
theorem not_faults_ok (a : α) : ¬ Faults (.ok a) := by
  simp [Faults]

@[simp]
theorem not_faults_invalid (path : FilePath) (defect : ProjectDefect) :
    ¬ Faults (invalid path defect : Search α) := by
  simp [Faults, invalid]

@[simp]
theorem faults_fault (f : Fault) : Faults (fault f : Search α) := ⟨f, rfl⟩

/-- A manifest that stops a search: its path is too long, its bytes are no text, or an integer in it
has more digits than can be read. -/
inductive ManifestStops (s : Session) (project : FilePath) : Prop where
  | tooLong : s.TooLong (project.child manifestName) → ManifestStops s project
  | notText {bytes : List UInt8} {flaw : Utf8.Undecodable} :
      s.Holds (project.child manifestName) bytes → Utf8.decode bytes = .error flaw →
      ManifestStops s project
  | digits {bytes : List UInt8} {t : Text} {count : Nat} :
      s.Holds (project.child manifestName) bytes → Utf8.decode bytes = .ok t →
      Toml.ofText t.unifyLineEnds = .error (.tooManyDigits count) → ManifestStops s project

/-- A manifest that is there is refused or told, as its bytes say. -/
theorem manifest_of_holds {bytes : List UInt8}
    (h : s.Holds (project.child manifestName) bytes) :
    manifest s project = match Utf8.decode bytes with
      | .error flaw => fault (.undecodable flaw)
      | .ok t =>
        match Toml.ofText t.unifyLineEnds with
        | .ok members => .ok members
        | .error .malformed => invalid project (.unreadableManifest malformedDocument)
        | .error (.tooManyDigits count) => fault (.tooManyDigits count) := by
  have hfile : s.isFile (project.child manifestName) = .ok true :=
    Session.isFile_eq_true_iff.2 ⟨bytes, h⟩
  rw [manifest]
  simp only [hfile, orFault, Session.readText_of_holds h]
  cases Utf8.decode bytes <;> rfl

theorem faults_manifest_of_tooLong (h : s.TooLong (project.child manifestName)) :
    Faults (manifest s project) := by
  obtain ⟨f, hfile⟩ := Session.isFile_eq_error_iff.2 h
  refine ⟨f, ?_⟩
  rw [manifest]
  simp only [hfile, orFault]
  rfl

/-- Where there is no manifest, the search fails, unless the path is too long to tell. -/
theorem manifest_of_not_holds (h : ∀ bytes, ¬ s.Holds (project.child manifestName) bytes)
    (hlong : ¬ s.TooLong (project.child manifestName)) :
    manifest s project = invalid project .noManifest := by
  have hfile : s.isFile (project.child manifestName) = .ok false := by
    cases hfile : s.isFile (project.child manifestName) with
    | error f => exact (hlong (Session.isFile_eq_error_iff.1 ⟨f, hfile⟩)).elim
    | ok found =>
      cases found with
      | true => exact (not_exists.2 h (Session.isFile_eq_true_iff.1 hfile)).elim
      | false => rfl
  rw [manifest]
  simp only [hfile, orFault]
  rfl

theorem faults_manifest_iff : Faults (manifest s project) ↔ ManifestStops s project := by
  constructor
  · intro h
    by_cases hlong : s.TooLong (project.child manifestName)
    · exact .tooLong hlong
    by_cases hholds : ∃ bytes, s.Holds (project.child manifestName) bytes
    · obtain ⟨bytes, hholds⟩ := hholds
      rw [manifest_of_holds hholds] at h
      cases hdecode : Utf8.decode bytes with
      | error flaw => exact .notText hholds hdecode
      | ok t =>
        simp only [hdecode] at h
        split at h
        · exact (not_faults_ok _ h).elim
        · exact (not_faults_invalid _ _ h).elim
        · next hdigits => exact .digits hholds hdecode hdigits
    · rw [manifest_of_not_holds (not_exists.1 hholds) hlong] at h
      exact (not_faults_invalid _ _ h).elim
  · intro h
    cases h with
    | tooLong hlong => exact faults_manifest_of_tooLong hlong
    | notText hholds hflaw =>
      rw [manifest_of_holds hholds, hflaw]
      exact faults_fault _
    | digits hholds hdecode hdigits =>
      rw [manifest_of_holds hholds, hdecode]
      simp only [hdigits, faults_fault]

/-- A folder is too far away to be looked through: its own path is too long or leads through a name
that is, or the path of a folder at some depth below it is too long. No link is passed below it. -/
inductive TooFar (s : Session) (folder : FilePath) : Prop where
  | itself : s.TooLong folder → TooFar s folder
  | below {base : Place} {names : List Text} : s.isFolder folder = .ok true →
      s.files.resolve s.here folder = .ok base → s.files.Below base names →
      s.files.isFolder (base ++ names) →
      FileTree.pathLimit ≤ (Utf8.bytesOf (folder.below names).text).length → TooFar s folder

/-- A package that stops a search: its manifest has a target that is no table, or its sources are
too far away. -/
inductive PackageStops (s : Session) (package : FilePath) (manifest : Members Toml) : Prop where
  | target {v : Toml} : manifest.has "package" → manifest.get? "target" = some v → ¬ v.IsTable →
      PackageStops s package manifest
  | tooFar : manifest.has "package" → hasContractTarget manifest = .ok true →
      TooFar s (package.child "src") → PackageStops s package manifest

theorem PackageStops.has {package : FilePath} {manifest : Members Toml}
    (h : PackageStops s package manifest) : manifest.has "package" := by
  cases h <;> assumption

theorem hasContractTarget_eq_error_iff {manifest : Members Toml} :
    (∃ f, hasContractTarget manifest = .error f) ↔
      ∃ v, manifest.get? "target" = some v ∧ ¬ v.IsTable := by
  rw [hasContractTarget]
  cases manifest.get? "target" with
  | none => simp
  | some v => cases v <;> simp [Toml.IsTable]

theorem mem_foldersBelow_iff {base : Place} {path : FilePath} :
    path ∈ foldersBelow s.files base folder ↔ ∃ names, s.files.Below base names ∧
      s.files.isFolder (base ++ names) ∧ path = folder.below names := by
  simp only [foldersBelow, List.mem_map, List.mem_filter, FileTree.mem_namesBelow_iff, and_assoc,
    eq_comm]

theorem tooFar_iff_of_isFolder {base : Place} (hfolder : s.isFolder folder = .ok true)
    (hbase : s.files.resolve s.here folder = .ok base) :
    TooFar s folder ↔ ∃ path ∈ foldersBelow s.files base folder, isTooLong path := by
  simp only [mem_foldersBelow_iff, isTooLong, decide_eq_true_eq]
  constructor
  · intro h
    cases h with
    | itself hlong =>
      obtain ⟨f, hf⟩ := Session.isFolder_eq_error_iff.2 hlong
      cases hfolder.symm.trans hf
    | below _ hother hbelow hinner hlong =>
      obtain rfl := Except.ok.inj (hbase.symm.trans hother)
      exact ⟨_, ⟨_, hbelow, hinner, rfl⟩, hlong⟩
  · rintro ⟨_, ⟨names, hbelow, hinner, rfl⟩, hlong⟩
    exact .below hfolder hbase hbelow hinner hlong

theorem sources_of_isFolder {base : Place} (hfolder : s.isFolder folder = .ok true)
    (hbase : s.files.resolve s.here folder = .ok base) : sources s folder =
      match (foldersBelow s.files base folder).find? isTooLong with
      | some path => fault (.path .nameTooLong path.text)
      | none => .ok ((sourcesBelow s.files base).map folder.below) := by
  rw [sources, hfolder, hbase]
  rfl

theorem sources_of_not_isFolder (hfolder : s.isFolder folder = .ok false) :
    sources s folder = .ok [] := by
  rw [sources, hfolder]
  rfl

theorem sources_of_isFolder_error {f : Fault} (hfolder : s.isFolder folder = .error f) :
    sources s folder = fault f := by
  rw [sources, hfolder]
  rfl

theorem faults_sources_iff : Faults (sources s folder) ↔ TooFar s folder := by
  cases hfolder : s.isFolder folder with
  | error f =>
    rw [sources_of_isFolder_error hfolder]
    exact iff_of_true (faults_fault f) (.itself (Session.isFolder_eq_error_iff.1 ⟨f, hfolder⟩))
  | ok found =>
    cases found with
    | false =>
      rw [sources_of_not_isFolder hfolder]
      refine iff_of_false (not_faults_ok _) fun h => ?_
      cases h with
      | itself hlong =>
        obtain ⟨f, hf⟩ := Session.isFolder_eq_error_iff.2 hlong
        cases hfolder.symm.trans hf
      | below hother => cases hfolder.symm.trans hother
    | true =>
      obtain ⟨base, hbase⟩ := Session.exists_place_of_isFolder hfolder
      rw [sources_of_isFolder hfolder hbase, tooFar_iff_of_isFolder hfolder hbase,
        ← List.find?_isSome]
      cases (foldersBelow s.files base folder).find? isTooLong <;> simp

/-- A folder that is not too far away can be looked through. -/
theorem exists_sources_of_near (h : ¬ TooFar s folder) : ∃ paths, sources s folder = .ok paths := by
  rw [← faults_sources_iff] at h
  cases hfolder : s.isFolder folder with
  | error f =>
    rw [sources_of_isFolder_error hfolder] at h
    exact (h (faults_fault f)).elim
  | ok found =>
    cases found with
    | false => exact ⟨[], sources_of_not_isFolder hfolder⟩
    | true =>
      obtain ⟨base, hbase⟩ := Session.exists_place_of_isFolder hfolder
      rw [sources_of_isFolder hfolder hbase] at h ⊢
      cases hlong : (foldersBelow s.files base folder).find? isTooLong with
      | some path =>
        rw [hlong] at h
        exact (h (faults_fault _)).elim
      | none => exact ⟨_, rfl⟩

theorem faults_packageSources_iff {package : FilePath} {manifest : Members Toml} :
    Faults (packageSources s package manifest) ↔ PackageStops s package manifest := by
  have hbody (hpackage : manifest.has "package") : packageSources s package manifest =
      orFault (hasContractTarget manifest) >>= fun declared =>
        if !declared then invalid package .noContractTarget
        else sources s (package.child "src") := by
    rw [packageSources, if_neg (by simp [hpackage])]
  constructor
  · intro h
    by_cases hpackage : manifest.has "package"
    · rw [hbody hpackage, faults_bind_iff, faults_orFault_iff, hasContractTarget_eq_error_iff] at h
      rcases h with ⟨v, hv, hkind⟩ | ⟨declared, hdeclared, h⟩
      · exact .target hpackage hv hkind
      · cases declared with
        | false => exact (not_faults_invalid _ _ h).elim
        | true =>
          exact .tooFar hpackage (orFault_eq_ok_iff.1 hdeclared) (faults_sources_iff.1 h)
    · rw [packageSources, if_pos (by simp [hpackage])] at h
      exact (not_faults_invalid _ _ h).elim
  · intro h
    cases h with
    | target hpackage hv hkind =>
      rw [hbody hpackage, faults_bind_iff, faults_orFault_iff]
      exact Or.inl (hasContractTarget_eq_error_iff.2 ⟨_, hv, hkind⟩)
    | tooFar hpackage hdeclared hfar =>
      rw [hbody hpackage, faults_bind_iff]
      exact Or.inr ⟨true, orFault_eq_ok_iff.2 hdeclared, faults_sources_iff.2 hfar⟩

/-- A member that stops a search: it is no text, or its manifest does, or the package does. -/
inductive MemberStops (s : Session) (project : FilePath) : Toml → Prop where
  | notText {item : Toml} : (∀ t, item ≠ .text t) → MemberStops s project item
  | manifest {t : Text} : ManifestStops s (project.join (.ofText t)) →
      MemberStops s project (.text t)
  | package {t : Text} {manifest : Members Toml} :
      Discovery.manifest s (project.join (.ofText t)) = .ok manifest →
      PackageStops s (project.join (.ofText t)) manifest → MemberStops s project (.text t)

theorem faults_memberSources_iff {item : Toml} :
    Faults (memberSources s project item) ↔ MemberStops s project item := by
  cases item with
  | text t =>
    rw [memberSources, faults_bind_iff, faults_manifest_iff]
    simp only [faults_packageSources_iff]
    constructor
    · rintro (h | ⟨manifest, hmanifest, h⟩)
      · exact .manifest h
      · exact .package hmanifest h
    · intro h
      cases h with
      | notText hkind => exact (hkind t rfl).elim
      | manifest h => exact Or.inl h
      | package hmanifest h => exact Or.inr ⟨_, hmanifest, h⟩
  | _ => exact iff_of_true (faults_fault _) (.notText (by simp))

/-- The first member that is not passed stops a search. -/
inductive MembersStop (s : Session) (project : FilePath) : List Toml → Prop where
  | here {item : Toml} {rest : List Toml} : MemberStops s project item →
      MembersStop s project (item :: rest)
  | later {item : Toml} {rest : List Toml} {found : List FilePath} :
      memberSources s project item = .ok found → MembersStop s project rest →
      MembersStop s project (item :: rest)

theorem faults_allMemberSources_iff :
    Faults (allMemberSources s project items) ↔ MembersStop s project items := by
  induction items with
  | nil => exact iff_of_false (not_faults_ok _) (by rintro ⟨⟩)
  | cons item rest ih =>
    have hrest (found : List FilePath) :
        Faults (do return found ++ (← allMemberSources s project rest)) ↔
          MembersStop s project rest := by
      rw [faults_bind_iff, ih]
      exact or_iff_left fun ⟨_, _, h⟩ => not_faults_ok _ h
    rw [allMemberSources, faults_bind_iff, faults_memberSources_iff]
    simp only [hrest]
    constructor
    · rintro (h | ⟨found, hfound, h⟩)
      · exact .here h
      · exact .later hfound h
    · intro h
      cases h with
      | here h => exact Or.inl h
      | later hfound h => exact Or.inr ⟨_, hfound, h⟩

theorem membersOf_eq_error_iff {table : Members Toml} :
    (∃ f, membersOf table = .error f) ↔
      ∃ v, table.get? "members" = some v ∧ ¬ v.IsIterable := by
  rw [membersOf]
  cases table.get? "members" with
  | none => simp
  | some v => cases v <;> simp [Toml.IsIterable, Toml.IsTable]

/-- A project that stops a search once its manifest is told: its package does, or a value of the
wrong kind stands where a table or a list of members is taken for granted, or a member stops it. -/
inductive LayoutStops (s : Session) (project : FilePath) (manifest : Members Toml) : Prop where
  | package : PackageStops s project manifest → LayoutStops s project manifest
  | workspace {v : Toml} : manifest.has "package" = false → manifest.get? "workspace" = some v →
      ¬ v.IsTable → LayoutStops s project manifest
  | members {table : Members Toml} {v : Toml} : manifest.has "package" = false →
      manifest.get? "workspace" = some (.table table) → table.get? "members" = some v →
      ¬ v.IsIterable → LayoutStops s project manifest
  | member {table : Members Toml} {items : List Toml} : manifest.has "package" = false →
      manifest.get? "workspace" = some (.table table) → membersOf table = .ok items →
      MembersStop s project items → LayoutStops s project manifest

/-- What stops a search. -/
inductive Stops (s : Session) (project : FilePath) : Prop where
  | manifest : ManifestStops s project → Stops s project
  | layout {manifest : Members Toml} : Discovery.manifest s project = .ok manifest →
      LayoutStops s project manifest → Stops s project

/-- The sources of a project whose manifest is told. -/
def sourcesOf (s : Session) (project : FilePath) (manifest : Members Toml) :
    Search (List FilePath) :=
  match manifest.get? "workspace", manifest.has "package" with
  | some (.table workspace), false =>
    orFault (membersOf workspace) >>= fun items => allMemberSources s project items
  | some other, false => fault (.noMember other.kind "get")
  | _, _ => packageSources s project manifest

theorem candidates_eq :
    candidates s project = manifest s project >>= fun m => sourcesOf s project m := rfl

theorem faults_sourcesOf_workspace_iff {manifest table : Members Toml}
    (hpackage : manifest.has "package" = false)
    (htable : manifest.get? "workspace" = some (.table table)) :
    Faults (sourcesOf s project manifest) ↔ LayoutStops s project manifest := by
  have hsources : sourcesOf s project manifest =
      orFault (membersOf table) >>= fun items => allMemberSources s project items := by
    simp only [sourcesOf, hpackage, htable]
  rw [hsources, faults_bind_iff, faults_orFault_iff, membersOf_eq_error_iff]
  simp only [orFault_eq_ok_iff, faults_allMemberSources_iff]
  constructor
  · rintro (⟨v, hv, hkind⟩ | ⟨items, hitems, h⟩)
    · exact .members hpackage htable hv hkind
    · exact .member hpackage htable hitems h
  · intro h
    cases h with
    | package h => simp [h.has] at hpackage
    | workspace _ hv hkind =>
      obtain rfl := Option.some.inj (htable.symm.trans hv)
      exact (hkind ⟨table, rfl⟩).elim
    | members _ hother hv hkind =>
      cases htable.symm.trans hother
      exact Or.inl ⟨_, hv, hkind⟩
    | member _ hother hitems h =>
      cases htable.symm.trans hother
      exact Or.inr ⟨_, hitems, h⟩

theorem faults_sourcesOf_iff {manifest : Members Toml} :
    Faults (sourcesOf s project manifest) ↔ LayoutStops s project manifest := by
  cases hpackage : manifest.has "package" with
  | true =>
    have hsources : sourcesOf s project manifest = packageSources s project manifest := by
      rw [sourcesOf, hpackage]
      split <;> simp_all
    rw [hsources, faults_packageSources_iff]
    refine ⟨.package, fun h => ?_⟩
    cases h with
    | package h => exact h
    | workspace hno | members hno | member hno => simp [hpackage] at hno
  | false =>
    have hno : ¬ PackageStops s project manifest := fun h => by simp [h.has] at hpackage
    cases hworkspace : manifest.get? "workspace" with
    | none =>
      have hsources : sourcesOf s project manifest = packageSources s project manifest := by
        simp only [sourcesOf, hworkspace]
      rw [hsources, faults_packageSources_iff]
      refine iff_of_false hno fun h => ?_
      cases h with
      | package h => exact hno h
      | workspace _ hv | members _ hv | member _ hv => simp [hworkspace] at hv
    | some v =>
      by_cases htable : v.IsTable
      · obtain ⟨table, rfl⟩ := htable
        exact faults_sourcesOf_workspace_iff hpackage hworkspace
      · refine iff_of_true ?_ (.workspace hpackage hworkspace htable)
        have hsources : sourcesOf s project manifest = fault (.noMember v.kind "get") := by
          rw [sourcesOf, hpackage, hworkspace]
          cases v <;> simp_all [Toml.IsTable]
        rw [hsources]
        exact faults_fault _

theorem faults_candidates_iff : Faults (candidates s project) ↔ Stops s project := by
  rw [candidates_eq, faults_bind_iff, faults_manifest_iff]
  simp only [faults_sourcesOf_iff]
  constructor
  · rintro (h | ⟨manifest, hmanifest, h⟩)
    · exact .manifest h
    · exact .layout hmanifest h
  · intro h
    cases h with
    | manifest h => exact Or.inl h
    | layout hmanifest h => exact Or.inr ⟨_, hmanifest, h⟩

theorem faults_contracts_iff : Faults (contracts s project) ↔ Stops s project := by
  rw [contracts, faults_bind_iff, faults_candidates_iff]
  refine or_iff_left ?_
  rintro ⟨found, -, h⟩
  split at h
  · exact not_faults_invalid _ _ h
  · exact not_faults_ok _ h

/-- A search that, unless it ends in a fault, fails only for a project that is invalid. -/
def FailsAsDeclared (x : Search α) : Prop :=
  ∀ e, x = .error e →
    (∃ f, e = .fault f) ∨ ∃ path defect, e = .failure (.invalidProject path defect)

theorem failsAsDeclared_ok (a : α) : FailsAsDeclared (.ok a) := by
  rintro e ⟨⟩

theorem failsAsDeclared_invalid (path : FilePath) (defect : ProjectDefect) :
    FailsAsDeclared (invalid path defect : Search α) := by
  rintro e ⟨⟩
  exact Or.inr ⟨_, _, rfl⟩

theorem failsAsDeclared_fault (f : Fault) : FailsAsDeclared (fault f : Search α) := by
  rintro e ⟨⟩
  exact Or.inl ⟨f, rfl⟩

theorem failsAsDeclared_orFault (x : Except Fault α) : FailsAsDeclared (orFault x) := by
  cases x with
  | ok a => exact failsAsDeclared_ok a
  | error f => exact failsAsDeclared_fault f

theorem FailsAsDeclared.bind {x : Search α} {f : α → Search β} (hx : FailsAsDeclared x)
    (hf : ∀ a, FailsAsDeclared (f a)) : FailsAsDeclared (x >>= f) := by
  cases x with
  | ok a => exact hf a
  | error e =>
    rintro e ⟨⟩
    exact hx _ rfl

theorem failsAsDeclared_manifest (s : Session) (project : FilePath) :
    FailsAsDeclared (manifest s project) := by
  refine (failsAsDeclared_orFault _).bind fun found => ?_
  split
  · exact failsAsDeclared_invalid _ _
  · split
    · exact failsAsDeclared_invalid _ _
    · exact failsAsDeclared_fault _
    · exact failsAsDeclared_fault _
    · split
      · exact failsAsDeclared_ok _
      · exact failsAsDeclared_invalid _ _
      · exact failsAsDeclared_fault _

theorem failsAsDeclared_sources (s : Session) (folder : FilePath) :
    FailsAsDeclared (sources s folder) := by
  by_cases hfar : TooFar s folder
  · obtain ⟨f, hf⟩ := faults_sources_iff.2 hfar
    rw [hf]
    exact failsAsDeclared_fault f
  · obtain ⟨paths, hpaths⟩ := exists_sources_of_near hfar
    rw [hpaths]
    exact failsAsDeclared_ok paths

theorem failsAsDeclared_packageSources (s : Session) (package : FilePath)
    (manifest : Members Toml) : FailsAsDeclared (packageSources s package manifest) := by
  rw [packageSources]
  split
  · exact failsAsDeclared_invalid _ _
  · refine (failsAsDeclared_orFault _).bind fun declared => ?_
    split
    · exact failsAsDeclared_invalid _ _
    · exact failsAsDeclared_sources s _

theorem failsAsDeclared_memberSources (s : Session) (project : FilePath) (item : Toml) :
    FailsAsDeclared (memberSources s project item) := by
  cases item with
  | text t =>
    exact (failsAsDeclared_manifest s _).bind fun _ => failsAsDeclared_packageSources s _ _
  | _ => exact failsAsDeclared_fault _

theorem failsAsDeclared_allMemberSources (s : Session) (project : FilePath) (items : List Toml) :
    FailsAsDeclared (allMemberSources s project items) := by
  induction items with
  | nil => exact failsAsDeclared_ok _
  | cons item rest ih =>
    exact (failsAsDeclared_memberSources s project item).bind fun _ =>
      ih.bind fun _ => failsAsDeclared_ok _

theorem failsAsDeclared_contracts (s : Session) (project : FilePath) :
    FailsAsDeclared (contracts s project) := by
  have hcandidates : FailsAsDeclared (candidates s project) := by
    rw [candidates_eq]
    refine (failsAsDeclared_manifest s project).bind fun manifest => ?_
    rw [sourcesOf]
    split
    · exact (failsAsDeclared_orFault _).bind fun _ => failsAsDeclared_allMemberSources s project _
    · exact failsAsDeclared_fault _
    · exact failsAsDeclared_packageSources s project manifest
  refine hcandidates.bind fun found => ?_
  split
  · exact failsAsDeclared_invalid _ _
  · exact failsAsDeclared_ok _

theorem ne_nil_of_contracts {found : List FilePath} (h : contracts s project = .ok found) :
    found ≠ [] := by
  obtain ⟨candidates, -, h⟩ := Outcome.bind_eq_ok_iff.1 h
  split at h
  · cases h
  · next hempty =>
    obtain rfl := Except.ok.inj h
    simpa using hempty

/-- A project whose manifest is one byte that is no text. -/
def undecodableSession : Session where
  files := [(["work"], .folder), (["work", "Scarb.toml"], .file [0xff])]
  here := ["work"]

end Discovery

end ClassVerification
