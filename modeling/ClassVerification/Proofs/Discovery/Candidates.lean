import Mathlib
import ClassVerification.Discovery
import ClassVerification.Proofs.FilePath.Walk
import ClassVerification.Proofs.FileTree.Below
import ClassVerification.Proofs.Outcome

/-! What a search for contract sources finds: the listings of the packages, one after the other. -/
namespace ClassVerification.Discovery

variable {s : Session} {project package folder : FilePath} {paths found : List FilePath}
  {names : List Text} {base : Place}

/-- The packages whose sources are asked for: the project itself, or the members of its workspace as
they are listed. -/
inductive Packages (project : FilePath) (manifest : Members Toml) : List FilePath → Prop where
  | package : manifest.has "package" → Packages project manifest [project]
  | workspace {table : Members Toml} {members : List Text} :
      manifest.get? "workspace" = some (.table table) → manifest.has "package" = false →
      membersOf table = .ok (members.map .text) →
      Packages project manifest (members.map fun member => project.join (.ofText member))

/-- A path to a place below the sources folder of a package, with a name like that of a source. No
link is passed below the folder. -/
def Offers (s : Session) (package path : FilePath) (place : Place) : Prop :=
  s.isFolder (package.child "src") = .ok true ∧ ∃ base names,
    s.files.resolve s.here (package.child "src") = .ok base ∧ s.files.Below base names ∧
    isSource names ∧ path = (package.child "src").below names ∧ place = base ++ names

/-- The sources of a package, none where they cannot be looked for. -/
def listing (s : Session) (package : FilePath) : List FilePath :=
  (sources s (package.child "src")).toOption.getD []

/-- What a package is listed with: each file that it offers, once, and nothing that it does not
offer. -/
structure Lists (s : Session) (package : FilePath) (paths : List FilePath) : Prop where
  nodup : paths.Nodup
  complete : ∀ path place, Offers s package path place → s.files.HoldsFile place → path ∈ paths
  sound : ∀ path ∈ paths, ∃ place, Offers s package path place

@[simp]
theorem orFault_eq_ok_iff {α : Type} {x : Except Fault α} {a : α} :
    orFault x = .ok a ↔ x = .ok a := by
  cases x <;> simp [orFault, fault]

theorem mem_sourcesBelow_iff :
    names ∈ sourcesBelow s.files base ↔ s.files.Below base names ∧ isSource names := by
  rw [sourcesBelow, List.mem_mergeSort, List.mem_filter, FileTree.mem_namesBelow_iff]

theorem nodup_sourcesBelow (h : s.files.Distinct) : (sourcesBelow s.files base).Nodup :=
  (List.mergeSort_perm _ _).nodup_iff.2 ((FileTree.nodup_namesBelow h base).filter _)

/-- The sources of a folder are those below it, and where there is no folder there are none. -/
theorem sources_cases (h : sources s folder = .ok paths) :
    (s.isFolder folder = .ok false ∧ paths = []) ∨
      s.isFolder folder = .ok true ∧ ∃ base, s.files.resolve s.here folder = .ok base ∧
        paths = (sourcesBelow s.files base).map folder.below := by
  obtain ⟨isFolder, hfolder, h⟩ := Outcome.bind_eq_ok_iff.1 h
  rw [orFault_eq_ok_iff] at hfolder
  cases isFolder with
  | false => exact Or.inl ⟨hfolder, (Except.ok.inj h).symm⟩
  | true =>
    obtain ⟨base, hbase⟩ := Session.exists_place_of_isFolder hfolder
    simp only [Bool.not_true, Bool.false_eq_true, if_false, hbase] at h
    split at h
    · cases h
    · exact Or.inr ⟨hfolder, base, hbase, (Except.ok.inj h).symm⟩

theorem lists_sources (hdistinct : s.files.Distinct)
    (h : sources s (package.child "src") = .ok paths) : Lists s package paths := by
  rcases sources_cases h with ⟨hnone, rfl⟩ | ⟨hfolder, base, hbase, rfl⟩
  · refine ⟨List.nodup_nil, fun path place hoffers => ?_, by simp⟩
    rw [hoffers.1] at hnone
    cases hnone
  · have hinjective : Function.Injective (package.child "src").below := by
      intro first second heq
      exact List.append_cancel_left (congrArg FilePath.names heq)
    refine ⟨(nodup_sourcesBelow hdistinct).map hinjective, ?_, ?_⟩
    · rintro path place ⟨-, other, names, hother, hbelow, hsource, rfl, rfl⟩ -
      obtain rfl := Except.ok.inj (hbase.symm.trans hother)
      exact List.mem_map_of_mem (mem_sourcesBelow_iff.2 ⟨hbelow, hsource⟩)
    · intro path hpath
      obtain ⟨names, hnames, rfl⟩ := List.mem_map.1 hpath
      obtain ⟨hbelow, hsource⟩ := mem_sourcesBelow_iff.1 hnames
      exact ⟨_, hfolder, base, names, hbase, hbelow, hsource, rfl, rfl⟩

theorem packageSources_eq_ok {manifest : Members Toml}
    (h : packageSources s package manifest = .ok paths) :
    manifest.has "package" ∧ sources s (package.child "src") = .ok paths := by
  rw [packageSources] at h
  split at h
  · cases h
  · next hpackage =>
    obtain ⟨target, -, h⟩ := Outcome.bind_eq_ok_iff.1 h
    split at h
    · cases h
    · exact ⟨by simpa using hpackage, h⟩

theorem listing_of_sources
    (h : sources s (package.child "src") = .ok paths) : listing s package = paths := by
  rw [listing, h]
  rfl

/-- The sources of members are their listings, in the order of the members. -/
theorem allMemberSources_eq_ok (hdistinct : s.files.Distinct) {items : List Toml}
    (h : allMemberSources s project items = .ok found) :
    ∃ members : List Text, items = members.map .text ∧
      found = (members.map fun member => project.join (.ofText member)).flatMap (listing s) ∧
      ∀ member ∈ members,
        Lists s (project.join (.ofText member)) (listing s (project.join (.ofText member))) := by
  induction items generalizing found with
  | nil =>
    cases h
    exact ⟨[], rfl, rfl, by simp⟩
  | cons item items ih =>
    obtain ⟨here, hhere, h⟩ := Outcome.bind_eq_ok_iff.1 h
    obtain ⟨later, hlater, h⟩ := Outcome.bind_eq_ok_iff.1 h
    obtain ⟨members, rfl, rfl, hlists⟩ := ih hlater
    obtain rfl := Except.ok.inj h
    cases item with
    | text member =>
      obtain ⟨manifest, -, hsources⟩ := Outcome.bind_eq_ok_iff.1 hhere
      have hpaths := (packageSources_eq_ok hsources).2
      have hmember := lists_sources hdistinct hpaths
      rw [← listing_of_sources hpaths] at hmember ⊢
      exact ⟨member :: members, rfl, rfl, List.forall_mem_cons.2 ⟨hmember, hlists⟩⟩
    | _ => cases hhere

theorem candidates_eq_ok (hdistinct : s.files.Distinct) (h : candidates s project = .ok found) :
    ∃ manifest packages, Discovery.manifest s project = .ok manifest ∧
      Packages project manifest packages ∧ found = packages.flatMap (listing s) ∧
      ∀ package ∈ packages, Lists s package (listing s package) := by
  obtain ⟨manifest, hmanifest, h⟩ := Outcome.bind_eq_ok_iff.1 h
  have hpackage (hsources : packageSources s project manifest = .ok found) :
      ∃ manifest packages, Discovery.manifest s project = .ok manifest ∧
        Packages project manifest packages ∧ found = packages.flatMap (listing s) ∧
        ∀ package ∈ packages, Lists s package (listing s package) := by
    obtain ⟨hhas, hpaths⟩ := packageSources_eq_ok hsources
    have hlists := lists_sources hdistinct hpaths
    rw [← listing_of_sources hpaths] at hlists ⊢
    exact ⟨manifest, [project], hmanifest, .package hhas, by simp, by simpa using hlists⟩
  split at h
  · next table htable hhas =>
    obtain ⟨items, hitems, h⟩ := Outcome.bind_eq_ok_iff.1 h
    obtain ⟨members, rfl, hfound, hlists⟩ := allMemberSources_eq_ok hdistinct h
    have hmembers : membersOf table = .ok (members.map .text) := orFault_eq_ok_iff.1 hitems
    exact ⟨manifest, _, hmanifest, .workspace htable hhas hmembers, hfound, by simpa using hlists⟩
  · cases h
  · exact hpackage h

/-- The exact candidates of a project. They are the listings of its packages, which are the project
itself or the members of its workspace, one listing after the other and as often as a member is
listed. A listing holds each file with the name of a source below the sources folder of its package
once, and nothing but entries of such names there. So no path is found twice where no two packages
offer the same. -/
theorem contracts_exact (hdistinct : s.files.Distinct) (hfound : contracts s project = .ok found) :
    ∃ manifest packages, Discovery.manifest s project = .ok manifest ∧
      Packages project manifest packages ∧ found = packages.flatMap (listing s) ∧
      (∀ package ∈ packages, (listing s package).Nodup ∧
        (∀ path place, Offers s package path place → s.files.HoldsFile place →
          path ∈ listing s package) ∧
        ∀ path ∈ listing s package, ∃ place, Offers s package path place) ∧
      ((packages.Pairwise fun first second => ∀ path place other,
          Offers s first path place → ¬ Offers s second path other) → found.Nodup) := by
  obtain ⟨candidates, hcandidates, h⟩ := Outcome.bind_eq_ok_iff.1 hfound
  split at h
  · cases h
  obtain rfl := Except.ok.inj h
  obtain ⟨manifest, packages, hmanifest, hpackages, rfl, hlists⟩ :=
    candidates_eq_ok hdistinct hcandidates
  refine ⟨manifest, packages, hmanifest, hpackages, rfl, ?_, ?_⟩
  · intro package hpackage
    have hlisted := hlists package hpackage
    exact ⟨hlisted.nodup, hlisted.complete, hlisted.sound⟩
  · intro hapart
    refine List.nodup_flatMap.2 ⟨fun package hpackage => (hlists package hpackage).nodup, ?_⟩
    refine hapart.imp_of_mem fun {first second} hfirst hsecond hno path hpath hother => ?_
    obtain ⟨place, hoffers⟩ := (hlists first hfirst).sound path hpath
    obtain ⟨other, hoffers'⟩ := (hlists second hsecond).sound path hother
    exact hno path place other hoffers hoffers'

/-- The manifest of a package with a contract target. -/
def packageManifest : List UInt8 := Utf8.bytesOf "[package]\n[[target.starknet-contract]]\n"

def packageMembers : Members Toml :=
  [("package", .table []), ("target", .table [("starknet-contract", .list [.table []])])]

/-- A package with two sources, of which one is a link to the other, and with a file of notes. -/
def packageSession : Session where
  files := [
    (["work"], .folder),
    (["work", "Scarb.toml"], .file packageManifest),
    (["work", "src"], .folder),
    (["work", "src", "lib.cairo"], .file []),
    (["work", "src", "sub"], .folder),
    (["work", "src", "sub", "a.cairo"], .link "../lib.cairo"),
    (["work", "src", "notes.md"], .file [])]
  here := ["work"]

/-- The sources of the package. -/
def packagePaths : List FilePath := [.ofText "src/lib.cairo", .ofText "src/sub/a.cairo"]

theorem contracts_packageSession :
    contracts packageSession (.ofText "") = .ok packagePaths := by
  have hmanifest : manifest packageSession (.ofText "") = .ok packageMembers := by cbv
  have hsources : sources packageSession (.ofText "src") = .ok packagePaths := by cbv
  have hpackage : packageSources packageSession (.ofText "") packageMembers = .ok packagePaths :=
    hsources
  have hcandidates : candidates packageSession (.ofText "") = .ok packagePaths :=
    Outcome.bind_eq_ok_iff.2 ⟨packageMembers, hmanifest, hpackage⟩
  exact Outcome.bind_eq_ok_iff.2 ⟨_, hcandidates, rfl⟩

/-- The sources of the package are found once each. -/
theorem package_sources_found_once :
    ∃ packages : List FilePath, packagePaths = packages.flatMap (listing packageSession) ∧
      ∀ package ∈ packages, (listing packageSession package).Nodup := by
  have hdistinct : packageSession.files.Distinct := by
    rw [FileTree.Distinct]
    decide
  obtain ⟨_, packages, -, -, hfound, hlists, -⟩ :=
    contracts_exact hdistinct contracts_packageSession
  exact ⟨packages, hfound, fun package hpackage => (hlists package hpackage).1⟩

/-- A workspace that lists its one member twice. -/
def workspaceSession : Session where
  files := [
    (["work"], .folder),
    (["work", "Scarb.toml"], .file (Utf8.bytesOf "[workspace]\nmembers = [\"a\", \"a\"]\n")),
    (["work", "a"], .folder),
    (["work", "a", "Scarb.toml"], .file packageManifest),
    (["work", "a", "src"], .folder),
    (["work", "a", "src", "lib.cairo"], .file [])]
  here := ["work"]

/-- What is listed twice is found twice. -/
theorem member_listed_twice_is_found_twice :
    contracts workspaceSession (.ofText "") =
        .ok [.ofText "a/src/lib.cairo", .ofText "a/src/lib.cairo"] ∧
      ¬ [FilePath.ofText "a/src/lib.cairo", .ofText "a/src/lib.cairo"].Nodup := by
  refine ⟨?_, by simp⟩
  have hroot : manifest workspaceSession (.ofText "") =
      .ok [("workspace", .table [("members", .list [.text "a", .text "a"])])] := by cbv
  have hmanifest : manifest workspaceSession (.ofText "a") = .ok packageMembers := by cbv
  have hsources : sources workspaceSession (.ofText "a/src") = .ok [.ofText "a/src/lib.cairo"] := by
    cbv
  have hpackage : packageSources workspaceSession (.ofText "a") packageMembers =
      .ok [.ofText "a/src/lib.cairo"] := hsources
  have hmember : memberSources workspaceSession (.ofText "") (.text "a") =
      .ok [.ofText "a/src/lib.cairo"] :=
    Outcome.bind_eq_ok_iff.2 ⟨packageMembers, hmanifest, hpackage⟩
  have hmembers : allMemberSources workspaceSession (.ofText "") [.text "a", .text "a"] =
      .ok [.ofText "a/src/lib.cairo", .ofText "a/src/lib.cairo"] := by
    simp only [allMemberSources, hmember]
    rfl
  have hcandidates : candidates workspaceSession (.ofText "") =
      .ok [.ofText "a/src/lib.cairo", .ofText "a/src/lib.cairo"] :=
    Outcome.bind_eq_ok_iff.2 ⟨_, hroot, hmembers⟩
  exact Outcome.bind_eq_ok_iff.2 ⟨_, hcandidates, rfl⟩

end ClassVerification.Discovery
