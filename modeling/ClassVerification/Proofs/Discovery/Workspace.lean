import ClassVerification.Proofs.Discovery.Sorted
import ClassVerification.Proofs.Discovery.Stops
import ClassVerification.Proofs.Submission.Read
import ClassVerification.Proofs.Text.Utf8
import ClassVerification.Proofs.Toml.Digits

/-! The sources of a workspace, member by member: those of all members, or the failure of the first
member that is no package with a contract target. -/
namespace ClassVerification.Discovery

variable {s other : Session} {project package : FilePath} {packages front rest : List FilePath}
  {manifest told : Members Toml} {found : List FilePath} {e : Error}

/-- The text of the manifest of a project, with its line ends unified. -/
def Reads (s : Session) (project : FilePath) (t : Text) : Prop :=
  ∃ bytes written, s.Holds (project.child manifestName) bytes ∧
    Utf8.decode bytes = .ok written ∧ t = written.unifyLineEnds

/-- A project has a manifest that tells its members. -/
def Tells (s : Session) (project : FilePath) (manifest : Members Toml) : Prop :=
  ∃ t, Reads s project t ∧ Toml.ofText t = .ok manifest

/-- A manifest declares a contract target that is not blank. -/
def DeclaresTarget (manifest : Members Toml) : Prop :=
  ∃ target v, manifest.get? "target" = some (.table target) ∧
    Members.get? "starknet-contract" target = some v ∧ v.isBlank = false

/-- A package with a contract target, as its manifest tells. -/
def Fit (s : Session) (package : FilePath) : Prop :=
  ∃ manifest, Tells s package manifest ∧ manifest.has "package" ∧ DeclaresTarget manifest

/-- What is said of a project that is no package with a contract target. An integer with too many
digits is no failure of the project but a fault. -/
inductive Unfit (s : Session) (package : FilePath) : Error → Prop where
  | missing : (∀ bytes, ¬ s.Holds (package.child manifestName) bytes) →
      Unfit s package (.failure (.invalidProject package.text .noManifest))
  | malformed {t : Text} : Reads s package t → Toml.ofText t = .error .malformed →
      Unfit s package
        (.failure (.invalidProject package.text (.unreadableManifest malformedDocument)))
  | digits {t : Text} {count : Nat} : Reads s package t →
      Toml.ofText t = .error (.tooManyDigits count) →
      Unfit s package (.fault (.tooManyDigits count))
  | noPackage {manifest : Members Toml} : Tells s package manifest →
      manifest.has "package" = false →
      Unfit s package (.failure (.invalidProject package.text .noPackage))
  | noTarget {manifest : Members Toml} : Tells s package manifest → manifest.has "package" →
      ¬ DeclaresTarget manifest →
      Unfit s package (.failure (.invalidProject package.text .noContractTarget))

/-- The surroundings that are taken for granted of a package: its manifest, if there is one, is
text, its target, if it has one, is a table, and no path to the manifest, to the sources or to a
folder below them is too long. -/
structure Regular (s : Session) (package : FilePath) : Prop where
  manifestNear : ¬ s.TooLong (package.child manifestName)
  sourcesNear : ¬ TooFar s (package.child "src")
  isText : ∀ bytes, s.Holds (package.child manifestName) bytes → ∃ t, Utf8.decode bytes = .ok t
  targetIsTable : ∀ manifest v, Tells s package manifest → manifest.get? "target" = some v →
    v.IsTable

/-- The first package that is unfit, and what is said of it. -/
def FirstUnfit (s : Session) (packages : List FilePath) (e : Error) : Prop :=
  ∃ front package rest, packages = front ++ package :: rest ∧ (∀ p ∈ front, Fit s p) ∧
    Unfit s package e

/-- What a search for the sources of some packages comes to, package by package. It returns their
listings, one after the other and each of them sorted, or what is said of the first unfit package.
Only if all packages are fit and their listings are empty, the project is said to have no
sources. -/
structure PackageWise (s : Session) (project : FilePath) (packages : List FilePath)
    (outcome : Search (List FilePath)) : Prop where
  returns : ∀ found, outcome = .ok found ↔
    (∀ p ∈ packages, Fit s p) ∧ found = packages.flatMap (listing s) ∧ found ≠ []
  sorted : ∀ p ∈ packages, (listing s p).Pairwise fun first second => ¬ second.Before first
  fails : ∀ e, FirstUnfit s packages e → outcome = .error e
  empty : outcome = .error (.failure (.invalidProject project.text .noSources)) ↔
    (∀ p ∈ packages, Fit s p) ∧ ∀ p ∈ packages, listing s p = []
  otherwise : ∀ e, outcome = .error e →
    FirstUnfit s packages e ∨ e = .failure (.invalidProject project.text .noSources)

theorem manifest_of_reads {t : Text} (h : Reads s project t) :
    Discovery.manifest s project = match Toml.ofText t with
      | .ok members => .ok members
      | .error .malformed => invalid project (.unreadableManifest malformedDocument)
      | .error (.tooManyDigits count) => fault (.tooManyDigits count) := by
  obtain ⟨bytes, written, hholds, hdecode, rfl⟩ := h
  cases hread : Toml.ofText written.unifyLineEnds with
  | ok members => simp [manifest_of_holds hholds, hdecode, hread]
  | error defect => cases defect <;> simp [manifest_of_holds hholds, hdecode, hread]

theorem manifest_of_tells (h : Tells s project manifest) :
    Discovery.manifest s project = .ok manifest := by
  obtain ⟨t, hreads, ht⟩ := h
  rw [manifest_of_reads hreads, ht]

theorem tells_of_manifest (h : Discovery.manifest s project = .ok manifest) :
    Tells s project manifest := by
  have hnear : ¬ s.TooLong (project.child manifestName) := by
    intro hlong
    obtain ⟨f, hf⟩ := faults_manifest_of_tooLong hlong
    cases h.symm.trans hf
  by_cases hholds : ∃ bytes, s.Holds (project.child manifestName) bytes
  · obtain ⟨bytes, hholds⟩ := hholds
    rw [manifest_of_holds hholds] at h
    split at h
    · cases h
    · next written hdecode =>
      refine ⟨_, ⟨bytes, written, hholds, hdecode, rfl⟩, ?_⟩
      split at h
      · next members hread => exact hread.trans (congrArg Except.ok (Except.ok.inj h))
      · cases h
      · cases h
  · cases h.symm.trans (manifest_of_not_holds (not_exists.1 hholds) hnear)

/-- Where the target is a table, the question for a contract target has an answer. -/
theorem exists_hasContractTarget (htable : ∀ v, manifest.get? "target" = some v → v.IsTable) :
    ∃ declared, hasContractTarget manifest = .ok declared ∧
      (declared = true ↔ DeclaresTarget manifest) := by
  rw [hasContractTarget]
  cases htarget : manifest.get? "target" with
  | none => exact ⟨false, rfl, by simp [DeclaresTarget, htarget]⟩
  | some v =>
    obtain ⟨target, rfl⟩ := htable v htarget
    refine ⟨_, rfl, ?_⟩
    cases hdeclared : Members.get? "starknet-contract" target <;>
      simp [DeclaresTarget, htarget, hdeclared]

theorem sources_of_near (h : ¬ TooFar s (package.child "src")) :
    sources s (package.child "src") = .ok (listing s package) := by
  obtain ⟨paths, hpaths⟩ := exists_sources_of_near h
  rw [hpaths, listing_of_sources hpaths]

theorem packageSources_of_declared {declared : Bool} (hpackage : manifest.has "package")
    (hdeclared : hasContractTarget manifest = .ok declared) :
    packageSources s package manifest =
      if declared then sources s (package.child "src")
      else invalid package .noContractTarget := by
  rw [packageSources, if_neg (by simp [hpackage]), hdeclared]
  cases declared <;> rfl

theorem packageSources_of_no_package (hpackage : manifest.has "package" = false) :
    packageSources s package manifest = invalid package .noPackage := by
  rw [packageSources, if_pos (by simp [hpackage])]

/-- The sources of one package, by its own manifest. -/
def sourcesOfOne (s : Session) (package : FilePath) : Search (List FilePath) :=
  Discovery.manifest s package >>= fun m => packageSources s package m

theorem sourcesOfOne_of_tells (h : Tells s package manifest) :
    sourcesOfOne s package = packageSources s package manifest := by
  rw [sourcesOfOne, manifest_of_tells h]
  rfl

theorem sourcesOfOne_of_fit (hregular : Regular s package) (h : Fit s package) :
    sourcesOfOne s package = .ok (listing s package) := by
  obtain ⟨manifest, htells, hpackage, hdeclares⟩ := h
  obtain ⟨declared, hdeclared, hiff⟩ :=
    exists_hasContractTarget fun v => hregular.targetIsTable manifest v htells
  rw [sourcesOfOne_of_tells htells, packageSources_of_declared hpackage hdeclared,
    if_pos (hiff.2 hdeclares), sources_of_near hregular.sourcesNear]

theorem sourcesOfOne_of_unfit (hregular : Regular s package) (h : Unfit s package e) :
    sourcesOfOne s package = .error e := by
  cases h with
  | missing hnone =>
    rw [sourcesOfOne, manifest_of_not_holds hnone hregular.manifestNear]
    rfl
  | malformed hreads ht =>
    rw [sourcesOfOne, manifest_of_reads hreads, ht]
    rfl
  | digits hreads ht =>
    rw [sourcesOfOne, manifest_of_reads hreads, ht]
    rfl
  | noPackage htells hpackage =>
    rw [sourcesOfOne_of_tells htells, packageSources_of_no_package hpackage]
    rfl
  | noTarget htells hpackage hno =>
    obtain ⟨declared, hdeclared, hiff⟩ :=
      exists_hasContractTarget fun v => hregular.targetIsTable _ v htells
    rw [sourcesOfOne_of_tells htells, packageSources_of_declared hpackage hdeclared,
      if_neg fun h => hno (hiff.1 h)]
    rfl

theorem fit_or_unfit (hregular : Regular s package) : Fit s package ∨ ∃ e, Unfit s package e := by
  by_cases hholds : ∃ bytes, s.Holds (package.child manifestName) bytes
  · obtain ⟨bytes, hholds⟩ := hholds
    obtain ⟨written, hdecode⟩ := hregular.isText bytes hholds
    have hreads : Reads s package written.unifyLineEnds := ⟨bytes, written, hholds, hdecode, rfl⟩
    cases hread : Toml.ofText written.unifyLineEnds with
    | error defect =>
      cases defect with
      | malformed => exact Or.inr ⟨_, .malformed hreads hread⟩
      | tooManyDigits count => exact Or.inr ⟨_, .digits hreads hread⟩
    | ok manifest =>
      have htells : Tells s package manifest := ⟨_, hreads, hread⟩
      cases hpackage : manifest.has "package" with
      | false => exact Or.inr ⟨_, .noPackage htells hpackage⟩
      | true =>
        by_cases hdeclares : DeclaresTarget manifest
        · exact Or.inl ⟨manifest, htells, hpackage, hdeclares⟩
        · exact Or.inr ⟨_, .noTarget htells hpackage hdeclares⟩
  · exact Or.inr ⟨_, .missing (not_exists.1 hholds)⟩

/-- The sources of packages, one after the other, up to the first that is unfit. -/
def sourcesOfAll (s : Session) : List FilePath → Search (List FilePath)
  | [] => .ok []
  | package :: rest => do
    let here ← sourcesOfOne s package
    return here ++ (← sourcesOfAll s rest)

theorem sourcesOfAll_of_fit (hregular : ∀ p ∈ packages, Regular s p)
    (h : ∀ p ∈ packages, Fit s p) :
    sourcesOfAll s packages = .ok (packages.flatMap (listing s)) := by
  induction packages with
  | nil => rfl
  | cons package rest ih =>
    obtain ⟨hpackage, hrest⟩ := List.forall_mem_cons.1 hregular
    obtain ⟨hfit, hfits⟩ := List.forall_mem_cons.1 h
    rw [sourcesOfAll, sourcesOfOne_of_fit hpackage hfit, ih hrest hfits]
    rfl

theorem sourcesOfAll_of_firstUnfit (hregular : ∀ p ∈ packages, Regular s p)
    (h : FirstUnfit s packages e) : sourcesOfAll s packages = .error e := by
  obtain ⟨front, package, rest, rfl, hfront, hunfit⟩ := h
  induction front with
  | nil =>
    have hpackage : Regular s package := hregular package (by simp)
    rw [List.nil_append, sourcesOfAll, sourcesOfOne_of_unfit hpackage hunfit]
    rfl
  | cons first front ih =>
    obtain ⟨hfirst, hothers⟩ := List.forall_mem_cons.1 hregular
    obtain ⟨hfit, hfits⟩ := List.forall_mem_cons.1 hfront
    rw [List.cons_append, sourcesOfAll, sourcesOfOne_of_fit hfirst hfit, ih hothers hfits]
    rfl

theorem fit_or_firstUnfit (hregular : ∀ p ∈ packages, Regular s p) :
    (∀ p ∈ packages, Fit s p) ∨ ∃ e, FirstUnfit s packages e := by
  induction packages with
  | nil => exact Or.inl (by simp)
  | cons package rest ih =>
    obtain ⟨hpackage, hrest⟩ := List.forall_mem_cons.1 hregular
    rcases fit_or_unfit hpackage with hfit | ⟨e, hunfit⟩
    · rcases ih hrest with hfits | ⟨e, front, other, later, rfl, hfront, hunfit⟩
      · exact Or.inl (List.forall_mem_cons.2 ⟨hfit, hfits⟩)
      · exact Or.inr ⟨e, package :: front, other, later, rfl,
          List.forall_mem_cons.2 ⟨hfit, hfront⟩, hunfit⟩
    · exact Or.inr ⟨e, [], package, rest, rfl, by simp, hunfit⟩

/-- No unfit package is said to have no sources. -/
theorem ne_noSources_of_firstUnfit (h : FirstUnfit s packages e) (path : Text) :
    e ≠ .failure (.invalidProject path .noSources) := by
  obtain ⟨_, _, _, -, -, hunfit⟩ := h
  cases hunfit <;> simp

theorem allMemberSources_eq (members : List Text) :
    allMemberSources s project (members.map .text) =
      sourcesOfAll s (members.map fun member => project.join (.ofText member)) := by
  induction members with
  | nil => rfl
  | cons member members ih =>
    rw [List.map_cons, List.map_cons, allMemberSources, sourcesOfAll, ih]
    rfl

/-- Some sources, or what is said of a project that has none. -/
def orNoSources (project : FilePath) (found : List FilePath) : Search (List FilePath) :=
  if found.isEmpty then invalid project .noSources else .ok found

theorem orNoSources_eq_ok_iff {paths : List FilePath} :
    orNoSources project found = .ok paths ↔ paths = found ∧ found ≠ [] := by
  cases found with
  | nil => simp [orNoSources, invalid]
  | cons path found => simp [orNoSources, eq_comm]

theorem orNoSources_eq_error_iff : orNoSources project found = .error e ↔
    found = [] ∧ e = .failure (.invalidProject project.text .noSources) := by
  cases found with
  | nil => simp [orNoSources, invalid, eq_comm]
  | cons path found => simp [orNoSources]

/-- A search looks through the packages of its project. -/
theorem contracts_eq (htells : Tells s project manifest)
    (hpackages : Packages project manifest packages) :
    contracts s project = sourcesOfAll s packages >>= orNoSources project := by
  have hcandidates : candidates s project = sourcesOfAll s packages := by
    rw [candidates_eq, manifest_of_tells htells]
    cases hpackages with
    | package hpackage =>
      have hone : sourcesOf s project manifest = packageSources s project manifest := by
        rw [sourcesOf, hpackage]
        split <;> simp_all
      rw [sourcesOfAll, sourcesOfOne_of_tells htells]
      refine hone.trans ?_
      cases packageSources s project manifest with
      | error e => rfl
      | ok paths => exact congrArg Except.ok (List.append_nil paths).symm
    | @workspace table members hworkspace hpackage hmembers =>
      have hall : sourcesOf s project manifest =
          allMemberSources s project (members.map .text) := by
        simp only [sourcesOf, hworkspace, hpackage, hmembers]
        rfl
      exact hall.trans (allMemberSources_eq members)
  rw [contracts, hcandidates]
  rfl

theorem not_firstUnfit_of_fit (hregular : ∀ p ∈ packages, Regular s p)
    (h : ∀ p ∈ packages, Fit s p) : ¬ FirstUnfit s packages e := by
  intro hfirst
  cases (sourcesOfAll_of_fit hregular h).symm.trans (sourcesOfAll_of_firstUnfit hregular hfirst)

theorem packageWise_of_fit (hregular : ∀ p ∈ packages, Regular s p)
    (hfits : ∀ p ∈ packages, Fit s p) :
    PackageWise s project packages (sourcesOfAll s packages >>= orNoSources project) := by
  have hno (e : Error) : ¬ FirstUnfit s packages e := not_firstUnfit_of_fit hregular hfits
  have houtcome : (sourcesOfAll s packages >>= orNoSources project) =
      orNoSources project (packages.flatMap (listing s)) := by
    rw [sourcesOfAll_of_fit hregular hfits]
    rfl
  have hempty : packages.flatMap (listing s) = [] ↔ ∀ p ∈ packages, listing s p = [] :=
    List.flatMap_eq_nil_iff
  rw [houtcome]
  refine ⟨fun found => ?_, fun p _ => pairwise_listing s p, fun e h => (hno e h).elim, ?_, ?_⟩
  · rw [orNoSources_eq_ok_iff]
    constructor
    · rintro ⟨rfl, hne⟩
      exact ⟨hfits, rfl, hne⟩
    · rintro ⟨-, rfl, hne⟩
      exact ⟨rfl, hne⟩
  · rw [orNoSources_eq_error_iff, hempty]
    exact ⟨fun h => ⟨hfits, h.1⟩, fun h => ⟨h.2, rfl⟩⟩
  · exact fun e h => Or.inr (orNoSources_eq_error_iff.1 h).2

theorem packageWise_of_firstUnfit (hregular : ∀ p ∈ packages, Regular s p)
    (hfirst : FirstUnfit s packages e) :
    PackageWise s project packages (sourcesOfAll s packages >>= orNoSources project) := by
  have hunfit : ¬ ∀ p ∈ packages, Fit s p := fun h => not_firstUnfit_of_fit hregular h hfirst
  have hsources := sourcesOfAll_of_firstUnfit hregular hfirst
  have houtcome : (sourcesOfAll s packages >>= orNoSources project) = .error e := by
    rw [hsources]
    rfl
  rw [houtcome]
  refine ⟨fun found => iff_of_false (by simp) fun h => hunfit h.1, fun p _ => pairwise_listing s p,
    fun other h => ?_, iff_of_false (fun h => ?_) fun h => hunfit h.1, ?_⟩
  · exact hsources.symm.trans (sourcesOfAll_of_firstUnfit hregular h)
  · exact ne_noSources_of_firstUnfit hfirst _ (Except.error.inj h)
  · rintro other ⟨⟩
    exact Or.inl hfirst

/-- A package is looked through with no regard to the rest of its manifest. -/
theorem contracts_congr (htells : Tells s project manifest) (htold : Tells other project told)
    (hpackage : manifest.has "package") (hsame : told.has "package")
    (htarget : told.get? "target" = manifest.get? "target")
    (hsources : sources other (project.child "src") = sources s (project.child "src")) :
    contracts other project = contracts s project := by
  have hdeclared : hasContractTarget told = hasContractTarget manifest := by
    rw [hasContractTarget, htarget, hasContractTarget]
  have hone : sourcesOfOne other project = sourcesOfOne s project := by
    rw [sourcesOfOne_of_tells htells, sourcesOfOne_of_tells htold, packageSources, packageSources,
      hpackage, hsame, hdeclared, hsources]
  rw [contracts_eq htells (.package hpackage), contracts_eq htold (.package hsame), sourcesOfAll,
    sourcesOfAll, hone]
  rfl

/-- A search goes package by package, for every tree and every list of members. A project that is a
package, whether it is a workspace as well or not, is its only one, and all that counts of its
manifest is then the target. -/
theorem contracts_package_by_package (htells : Tells s project manifest)
    (hpackages : Packages project manifest packages) (hregular : ∀ p ∈ packages, Regular s p) :
    PackageWise s project packages (contracts s project) ∧
      (manifest.has "package" → packages = [project] ∧
        ∀ other told, Tells other project told → told.has "package" →
          told.get? "target" = manifest.get? "target" →
          sources other (project.child "src") = sources s (project.child "src") →
          contracts other project = contracts s project) := by
  refine ⟨?_, fun hpackage => ⟨?_, ?_⟩⟩
  · rw [contracts_eq htells hpackages]
    rcases fit_or_firstUnfit hregular with hfits | ⟨e, hfirst⟩
    · exact packageWise_of_fit hregular hfits
    · exact packageWise_of_firstUnfit hregular hfirst
  · cases hpackages with
    | package => rfl
    | workspace _ hno =>
      rw [hno] at hpackage
      cases hpackage
  · intro other told htold hsame htarget hsources
    exact contracts_congr htells htold hpackage hsame htarget hsources

theorem Reads.unique {t u : Text} (h : Reads s project t) (h' : Reads s project u) : t = u := by
  obtain ⟨bytes, written, hholds, hdecode, rfl⟩ := h
  obtain ⟨other, told, hother, htold, rfl⟩ := h'
  obtain rfl := Except.ok.inj (hholds.2.symm.trans hother.2)
  rw [Except.ok.inj (hdecode.symm.trans htold)]

/-- The surroundings of a package are regular if its manifest is text, its target a table, and its
sources can be looked through. -/
theorem regular_of_reads {t : Text} {paths : List FilePath} (hreads : Reads s package t)
    (htarget : ∀ manifest v, Toml.ofText t = .ok manifest → manifest.get? "target" = some v →
      v.IsTable)
    (hsources : sources s (package.child "src") = .ok paths) : Regular s package := by
  have ⟨bytes, written, hholds, hdecode, _⟩ := hreads
  refine ⟨fun hlong => ?_, fun hfar => ?_, fun other hother => ⟨written, ?_⟩, ?_⟩
  · obtain ⟨f, hf⟩ := Session.isFile_eq_error_iff.2 hlong
    cases hf.symm.trans (Session.isFile_eq_true_iff.2 ⟨bytes, hholds⟩)
  · obtain ⟨f, hf⟩ := faults_sources_iff.2 hfar
    cases hf.symm.trans hsources
  · rw [Except.ok.inj (hother.2.symm.trans hholds.2), hdecode]
  · rintro manifest v ⟨u, hu, hread⟩ hv
    exact htarget manifest v (hreads.unique hu ▸ hread) hv

/-- A workspace of two packages, the first without sources. -/
def mixedSession : Session where
  files := [
    (["work"], .folder),
    (["work", "Scarb.toml"], .file (Utf8.bytesOf "[workspace]\nmembers = [\"a\", \"b\"]\n")),
    (["work", "a"], .folder),
    (["work", "a", "Scarb.toml"], .file packageManifest),
    (["work", "b"], .folder),
    (["work", "b", "Scarb.toml"], .file packageManifest),
    (["work", "b", "src"], .folder),
    (["work", "b", "src", "lib.cairo"], .file [])]
  here := ["work"]

/-- The manifest of the workspace. -/
def mixedMembers : Members Toml :=
  [("workspace", .table [("members", .list [.text "a", .text "b"])])]

theorem fit_packageMembers (h : Tells s package packageMembers) : Fit s package :=
  ⟨packageMembers, h, rfl, _, _, rfl, rfl, rfl⟩

theorem regular_packageMembers (h : Tells s package packageMembers)
    {paths : List FilePath} (hsources : sources s (package.child "src") = .ok paths) :
    Regular s package := by
  obtain ⟨t, hreads, hread⟩ := h
  refine regular_of_reads hreads (fun manifest v hother hv => ?_) hsources
  obtain rfl := Except.ok.inj (hread.symm.trans hother)
  cases hv
  exact ⟨_, rfl⟩

/-- A member without sources is passed over, as long as another has some. -/
theorem empty_member_is_passed_over :
    Tells mixedSession (.ofText "") mixedMembers ∧
      Packages (.ofText "") mixedMembers [.ofText "a", .ofText "b"] ∧
      (∀ p ∈ [FilePath.ofText "a", .ofText "b"], Regular mixedSession p) ∧
      contracts mixedSession (.ofText "") = .ok [.ofText "b/src/lib.cairo"] := by
  have hroot : Tells mixedSession (.ofText "") mixedMembers := tells_of_manifest (by cbv)
  have hpackages : Packages (.ofText "") mixedMembers [.ofText "a", .ofText "b"] :=
    @Packages.workspace _ _ _ ["a", "b"] rfl rfl rfl
  have hfirst : Tells mixedSession (.ofText "a") packageMembers := tells_of_manifest (by cbv)
  have hsecond : Tells mixedSession (.ofText "b") packageMembers := tells_of_manifest (by cbv)
  have hempty : sources mixedSession ((FilePath.ofText "a").child "src") = .ok [] := by cbv
  have hlib : sources mixedSession ((FilePath.ofText "b").child "src") =
      .ok [.ofText "b/src/lib.cairo"] := by cbv
  have hregular : ∀ p ∈ [FilePath.ofText "a", .ofText "b"], Regular mixedSession p := by
    have hboth := And.intro (regular_packageMembers hfirst hempty)
      (regular_packageMembers hsecond hlib)
    simpa using hboth
  have hfits : ∀ p ∈ [FilePath.ofText "a", .ofText "b"], Fit mixedSession p := by
    have hboth := And.intro (fit_packageMembers hfirst) (fit_packageMembers hsecond)
    simpa using hboth
  have hlistings : [FilePath.ofText "a", .ofText "b"].flatMap (listing mixedSession) =
      [.ofText "b/src/lib.cairo"] := by
    simp [listing_of_sources hempty, listing_of_sources hlib]
  have hwise := (contracts_package_by_package hroot hpackages hregular).1
  exact ⟨hroot, hpackages, hregular, (hwise.returns _).2 ⟨hfits, hlistings.symm, by simp⟩⟩

/-- A manifest with an integer of one digit more than are read. -/
def longManifest : Text := .char 'n' :: .char '=' :: List.replicate 4301 (.char '1')

/-- A workspace with one member, whose manifest has some bytes. -/
def memberSession (bytes : List UInt8) : Session where
  files := [
    (["work"], .folder),
    (["work", "Scarb.toml"], .file (Utf8.bytesOf "[workspace]\nmembers = [\"a\"]\n")),
    (["work", "a"], .folder),
    (["work", "a", "Scarb.toml"], .file bytes)]
  here := ["work"]

theorem ofText_longManifest : Toml.ofText longManifest = .error (.tooManyDigits 4301) := by
  have hlong : Toml.TooLong (List.replicate 4301 (.char '1')) := by
    refine ⟨fun c hc => ?_, fun rest h => ?_, ?_⟩
    · rw [List.eq_of_mem_replicate hc]
      rfl
    · rw [List.replicate_succ] at h
      cases h
    · rw [List.length_replicate]
      decide
  rw [longManifest, hlong.ofText_pair, List.length_replicate]

theorem reads_longManifest :
    Reads (memberSession (Utf8.bytesOf longManifest)) (.ofText "a") longManifest := by
  have hholds (bytes : List UInt8) :
      (memberSession bytes).Holds ((FilePath.ofText "a").child manifestName) bytes :=
    ⟨rfl, by cbv⟩
  have hchars : ∀ c ∈ longManifest, c = .char 'n' ∨ c = .char '=' ∨ c = .char '1' := by
    intro c hc
    rcases List.mem_cons.1 hc with rfl | hc
    · exact Or.inl rfl
    · rcases List.mem_cons.1 hc with rfl | hc
      · exact Or.inr (Or.inl rfl)
      · exact Or.inr (Or.inr (List.eq_of_mem_replicate hc))
  have hscalar : longManifest.IsScalar := by
    intro i hi
    rcases hchars _ hi with h | h | h <;> cases h
  have hreturn : .char '\r' ∉ longManifest := by
    intro hi
    rcases hchars _ hi with h | h | h <;> cases h
  exact ⟨_, longManifest, hholds _, Utf8.decode_bytesOf hscalar,
    (Text.unifyLineEnds_eq_self_iff.2 hreturn).symm⟩

/-- A workspace lists one member, in regular surroundings. Yet the search ends neither with sources
nor with a failure of the member, whose manifest has too long an integer. -/
theorem long_integer_in_member_is_not_declared :
    let s := memberSession (Utf8.bytesOf longManifest)
    ∃ manifest, Tells s (.ofText "") manifest ∧
      Packages (.ofText "") manifest [.ofText "a"] ∧ Regular s (.ofText "a") ∧
      ¬ ((∃ found, contracts s (.ofText "") = .ok found) ∨
        ∃ path defect, contracts s (.ofText "") =
          .error (.failure (.invalidProject path defect))) := by
  intro s
  have hroot (bytes : List UInt8) : manifest (memberSession bytes) (.ofText "") =
      .ok [("workspace", .table [("members", .list [.text "a"])])] := by cbv
  have hsources (bytes : List UInt8) :
      sources (memberSession bytes) ((FilePath.ofText "a").child "src") = .ok [] := by cbv
  have htells : Tells s (.ofText "") _ := tells_of_manifest (hroot _)
  have hpackages : Packages (.ofText "")
      [("workspace", .table [("members", .list [.text "a"])])] [.ofText "a"] :=
    @Packages.workspace _ _ _ ["a"] rfl rfl rfl
  have hregular : Regular s (.ofText "a") := by
    refine regular_of_reads reads_longManifest (fun manifest v hread _ => ?_) (hsources _)
    cases ofText_longManifest.symm.trans hread
  have hfirst : FirstUnfit s [.ofText "a"] (.fault (.tooManyDigits 4301)) :=
    ⟨[], .ofText "a", [], rfl, by simp, .digits reads_longManifest ofText_longManifest⟩
  have houtcome : contracts s (.ofText "") = .error (.fault (.tooManyDigits 4301)) := by
    have hall := sourcesOfAll_of_firstUnfit (by simpa using hregular) hfirst
    rw [contracts_eq htells hpackages, hall]
    rfl
  exact ⟨_, htells, hpackages, hregular, by simp [houtcome]⟩

end ClassVerification.Discovery
