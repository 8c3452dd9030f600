import Mathlib.Data.List.Forall2
import ClassVerification.Proofs.Text.Utf8
import ClassVerification.Submission

/-! What is read from the files of a submission: what becomes of the bytes of each. -/
namespace ClassVerification

namespace Text

theorem not_mem_unifyLineEnds (t : Text) : .char '\r' ∉ t.unifyLineEnds := by
  fun_induction unifyLineEnds t with
  | case1 => simp
  | case2 c => split <;> simp_all [eq_comm]
  | case3 rest ih => simp [ih]
  | case4 d rest hd ih => simp [ih]
  | case5 c d rest hc ih => simpa [eq_comm, hc] using ih

/-- A text keeps its line ends just if no carriage return is among them. -/
theorem unifyLineEnds_eq_self_iff {t : Text} : t.unifyLineEnds = t ↔ .char '\r' ∉ t := by
  refine ⟨fun h => h ▸ not_mem_unifyLineEnds t, fun h => ?_⟩
  fun_induction unifyLineEnds t with
  | case1 => rfl
  | case2 c => simp_all [eq_comm]
  | case3 rest ih => simp at h
  | case4 d rest hd ih => simp at h
  | case5 c d rest hc ih => rw [ih (fun hmem => h (List.mem_cons_of_mem _ hmem))]

/-- Line ends are unified without a code point that has not been there, line feeds apart. -/
theorem mem_of_mem_unifyLineEnds {t : Text} {c : CodePoint} (h : c ∈ t.unifyLineEnds) :
    c ∈ t ∨ c = .char '\n' := by
  fun_induction unifyLineEnds t with
  | case1 => exact Or.inl h
  | case2 d => split at h <;> simp_all
  | case3 rest ih => grind
  | case4 d rest hd ih => grind
  | case5 d e rest hd ih => grind

theorem IsScalar.unifyLineEnds {t : Text} (h : t.IsScalar) : t.unifyLineEnds.IsScalar := by
  intro i hi
  rcases mem_of_mem_unifyLineEnds hi with hmem | heq
  · exact h i hmem
  · cases heq

end Text

/-- The value under which the bytes of a file are submitted are these bytes just if there is no
carriage return among them. -/
theorem Utf8.bytesOf_unifyLineEnds_iff {bytes : List UInt8} {content : Text}
    (h : Utf8.decode bytes = .ok content) :
    Utf8.bytesOf content.unifyLineEnds = bytes ↔ 0x0D ∉ bytes := by
  obtain ⟨hscalar, hbytes⟩ := bytesOf_of_decode h
  have hreturn : 0x0D ∈ bytes ↔ .char '\r' ∈ content := by
    rw [← hbytes]
    exact mem_bytesOf_iff rfl (by decide)
  rw [hreturn, ← Text.unifyLineEnds_eq_self_iff]
  constructor
  · intro heq
    exact bytesOf_inj hscalar.unifyLineEnds hscalar (heq.trans hbytes.symm)
  · intro heq
    rw [heq, hbytes]

namespace Session

variable {s : Session}

theorem readText_eq_ok_iff {path : FilePath} {t : Text} : s.readText path = .ok t ↔
    path.check = .ok () ∧ ∃ bytes content, s.files.readBytes s.here path = .ok bytes ∧
      Utf8.decode bytes = .ok content ∧ t = content.unifyLineEnds := by
  cases hcheck : path.check with
  | error fault => simp [readText, hcheck]
  | ok _ =>
    cases hbytes : s.files.readBytes s.here path with
    | error e => simp [readText, hcheck, hbytes]
    | ok bytes =>
      cases hcontent : Utf8.decode bytes with
      | error flaw => simp [readText, hcheck, hbytes, hcontent]
      | ok content => simp [readText, hcheck, hbytes, hcontent, eq_comm]

end Session

namespace Submission

variable {s : Session} {file : SourceFile} {field : Multipart.FormField}

theorem readField_eq_ok_iff : readField s file = .ok field ↔
    field.1 = file.fieldName ∧ s.readText file.path = .ok field.2 := by
  obtain ⟨name, value⟩ := field
  simp only [readField]
  split
  · next t ht => simp [ht, eq_comm]
  all_goals next ht => simp [ht]

theorem readFields_eq_ok_iff {files : List SourceFile} {fields : List Multipart.FormField} :
    readFields s files = .ok fields ↔
      List.Forall₂ (fun file field => readField s file = .ok field) files fields := by
  induction files generalizing fields with
  | nil => simp [readFields, eq_comm]
  | cons file files ih =>
    rw [List.forall₂_cons_left_iff]
    cases hfield : readField s file with
    | error e => simp [readFields, hfield]
    | ok field =>
      simp only [readFields, hfield, Outcome.map_eq_ok_iff, ih, Except.ok.injEq]
      constructor
      · rintro ⟨rest, hrest, rfl⟩
        exact ⟨field, rest, rfl, hrest, rfl⟩
      · rintro ⟨_, rest, rfl, hrest, rfl⟩
        exact ⟨rest, hrest, rfl⟩

end Submission

end ClassVerification
