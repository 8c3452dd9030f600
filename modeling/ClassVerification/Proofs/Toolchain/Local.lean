import ClassVerification.Proofs.Session.Effect
import ClassVerification.Proofs.Toolchain.Build

/-! Compilers whose builds take no account of the log, of what has been done before, or of a key. -/
namespace ClassVerification

open SessionM

/-- A compiler whose builds are local. -/
def Compiler.IsLocal (c : Compiler) : Prop :=
  ∀ project, SessionM.IsLocal (c.compileProject project)

variable {flaw : Option Unencodable}

namespace Toolchain

theorem isBlind_run (t : Toolchain) (arguments : List Text) (folder : FilePath) :
    IsBlind flaw fun _ => t.run arguments folder := by
  refine (isBlind_record (by simp)).bind fun _ => Forwards.get_bind (fun _ _ _ _ => rfl) fun s => ?_
  cases s.toolRuns with
  | nil => exact isBlind_fault _
  | cons result rest =>
    refine Forwards.bind (isBlind_modify fun _ _ _ => rfl) fun _ => ?_
    cases finish (t.toolRun arguments folder) t.settings.scarbBinary result with
    | ok finished => exact isBlind_pure finished
    | error f => exact isBlind_fail f

theorem isBlind_ensureVersion (t : Toolchain) (folder : FilePath) :
    IsBlind flaw fun _ => t.ensureVersion folder := by
  have hinstalled : IsBlind flaw fun _ => t.installedVersion folder :=
    (isBlind_run t _ folder).bind fun finished => isBlind_pure (installedVersion? finished.stdout)
  refine hinstalled.bind fun installed => ?_
  dsimp only [id_eq]
  split
  · exact isBlind_log.bind fun _ => isBlind_fail _
  · exact isBlind_pure _

theorem isBlind_build (t : Toolchain) (project : FilePath) :
    IsBlind flaw fun _ => t.build project := by
  refine isBlind_log.bind fun _ => (isBlind_run t _ _).bind fun finished => ?_
  dsimp only [id_eq]
  split
  · refine isBlind_log.bind fun _ => (isBlind_fail _).bind fun _ => ?_
    exact isBlind_log
  · exact isBlind_log

/-- A toolchain builds alike with each key in its settings. -/
theorem compiler_apiKey (release : Release) (settings : Settings) (key : Text) :
    compiler ⟨release, { settings with apiKey := key }⟩ = compiler ⟨release, settings⟩ := rfl

/-- The builds of a toolchain are local. -/
theorem isLocal_compiler (t : Toolchain) : t.compiler.IsLocal := by
  refine fun project => isLocal_of_isOffline ?_ (isOffline_compileProject t project)
  refine Forwards.get_bind (fun _ _ _ _ => rfl) fun s => (isBlind_orFault _).bind fun found => ?_
  dsimp only [id_eq]
  split
  · exact (isBlind_fail _).bind fun _ =>
      (isBlind_ensureVersion t project).bind fun _ => isBlind_build t project
  · exact (isBlind_ensureVersion t project).bind fun _ => isBlind_build t project

end Toolchain

/-- So are those of a compiler that only notes what it is asked to build. -/
theorem Compiler.isLocal_dryRun (scarbVersions cairoVersions : List Text)
    (failure : Option Failure) : (dryRun scarbVersions cairoVersions failure).IsLocal := by
  refine fun project s => ⟨failure.elim (.ok ()) fun f => .error (.failure f), s,
    [.compiled project.text], fun context actions => ?_, by simp⟩
  cases failure <;> rfl

end ClassVerification
