import ClassVerification.Proofs.Session.Declared
import ClassVerification.Proofs.Submission.Read

/-! Submissions that can be written as a form, once their files are read. -/
namespace ClassVerification

/-- A path that the system takes: without NUL, and each code point is a character or stands for a
byte. -/
structure FilePath.IsAccepted (p : FilePath) : Prop where
  noNull : .char '\x00' ∉ p.text
  stands : ∀ c ∈ p.text, c.isScalar || (0xDC80 ≤ c.value && c.value ≤ 0xDCFF)

theorem FilePath.IsAccepted.check {p : FilePath} (h : p.IsAccepted) : p.check = .ok () := by
  have hnull : p.text.contains (.char '\x00') = false := by
    simpa using h.noNull
  simp only [FilePath.check, Unencodable.find_eq_none_iff.2 h.stands, hnull, Bool.false_eq_true,
    if_false]

theorem FilePath.isAccepted_of_check {p : FilePath} (h : p.check = .ok ()) : p.IsAccepted := by
  simp only [FilePath.check] at h
  split at h
  · cases h
  · next hstands =>
    split at h
    · cases h
    · next hnull => exact ⟨by simpa using hnull, Unencodable.find_eq_none_iff.1 hstands⟩

/-- A submission all of whose texts can be written and all of whose paths the system takes. -/
structure Submission.IsWritable (submission : Submission) : Prop where
  fields : ∀ field ∈ submission.metadataFields, field.2.IsScalar
  names : ∀ file ∈ submission.files, file.name.IsScalar
  paths : ∀ file ∈ submission.files, file.path.IsAccepted

namespace Submission

open Outcome

variable {submission : Submission} {s : Session} {form : List Multipart.FormField}

theorem isDeclared_readField {file : SourceFile} (h : file.path.IsAccepted) :
    IsDeclared (readField s file) := by
  have hread : ∀ fault, s.readText file.path ≠ .error (.refused fault) := by
    intro fault
    simp only [Session.readText, h.check]
    repeat' split
    all_goals simp
  rw [readField]
  split
  · exact isDeclared_ok _
  · exact isDeclared_failure _
  · exact isDeclared_failure _
  · next fault hrefused => exact (hread fault hrefused).elim

theorem isDeclared_readFields {files : List SourceFile}
    (h : ∀ file ∈ files, file.path.IsAccepted) : IsDeclared (readFields s files) := by
  induction files with
  | nil => exact isDeclared_ok _
  | cons file files ih =>
    have hfile := isDeclared_readField (s := s) (h file List.mem_cons_self)
    have hrest := ih fun other hother => h other (List.mem_cons_of_mem _ hother)
    rw [readFields]
    cases hfield : readField s file with
    | error e =>
      rw [hfield] at hfile
      intro e' he'
      cases he'
      exact hfile e rfl
    | ok field => exact hrest.map _

theorem isDeclared_formFields (h : submission.IsWritable) (s : Session) :
    IsDeclared (submission.formFields s) := (isDeclared_readFields h.paths).map _

theorem isScalar_of_readField {file : SourceFile} {field : Multipart.FormField}
    (hname : file.name.IsScalar) (h : readField s file = .ok field) :
    field.1.IsScalar ∧ field.2.IsScalar := by
  obtain ⟨hfield, hvalue⟩ := readField_eq_ok_iff.1 h
  obtain ⟨-, bytes, content, -, hcontent, hunified⟩ := Session.readText_eq_ok_iff.1 hvalue
  rw [hfield, hunified]
  exact ⟨Text.isScalar_append.2 ⟨Text.isScalar_ofString _, hname⟩,
    (Utf8.bytesOf_of_decode hcontent).1.unifyLineEnds⟩

theorem exists_file_of_mem {files : List SourceFile} {fields : List Multipart.FormField}
    (h : List.Forall₂ (fun file field => readField s file = .ok field) files fields)
    {field : Multipart.FormField} (hfield : field ∈ fields) :
    ∃ file ∈ files, readField s file = .ok field := by
  induction h with
  | nil => cases hfield
  | cons hread _ ih =>
    rcases List.mem_cons.1 hfield with rfl | hfield
    · exact ⟨_, List.mem_cons_self, hread⟩
    · obtain ⟨file, hfile, hread⟩ := ih hfield
      exact ⟨file, List.mem_cons_of_mem _ hfile, hread⟩

/-- A form can be written: what is read from a file always can. -/
theorem isScalar_of_formFields (h : submission.IsWritable)
    (hform : submission.formFields s = .ok form) :
    ∀ field ∈ form, field.1.IsScalar ∧ field.2.IsScalar := by
  obtain ⟨fields, hfields, rfl⟩ := Outcome.map_eq_ok_iff.1 hform
  intro field hfield
  rcases List.mem_append.1 hfield with hfield | hfield
  · refine ⟨?_, h.fields field hfield⟩
    simp only [metadataFields, List.mem_cons, List.not_mem_nil, or_false] at hfield
    rcases hfield with rfl | rfl | rfl | rfl | rfl | rfl <;> exact Text.isScalar_ofString _
  · obtain ⟨file, hfile, hread⟩ := exists_file_of_mem (readFields_eq_ok_iff.1 hfields) hfield
    exact isScalar_of_readField (h.names file hfile) hread

end Submission

end ClassVerification
