import Mathlib
import ClassVerification.Proofs.Dispatch.Sent
import ClassVerification.Proofs.Submission.Read

/-! The sources of a submission as they are sent, beside the bytes of the files. -/
namespace ClassVerification.Dispatch

variable {settings : Settings} {network address : Text} {submission : Submission}
  {s t : Session} {outcome : Except Error Text} {request : Request}

/-- A submission that is sent holds one field for each file, in order. Its value is the text of the
file with line ends unified, and this is byte for byte what the file holds just if no carriage
return is in it. -/
theorem submit_verbatim_iff
    (hrun : Session.run (submit settings network address submission) s = (outcome, t))
    (hsent : s.Sends t request) :
    ∃ fields, request.Carries (submission.metadataFields ++ fields) ∧
      List.Forall₂ (fun file field => field.1 = Text.ofString "files__" ++ file.name ∧
        ∃ bytes content, s.files.readBytes s.here file.path = .ok bytes ∧
          Utf8.decode bytes = .ok content ∧ field.2 = content.unifyLineEnds ∧
          (Utf8.bytesOf field.2 = bytes ↔ 0x0D ∉ bytes))
        submission.files fields := by
  rcases run_submit_cases hrun with
      ⟨_, -, hquiet⟩ | ⟨root, call, u, form, -, -, hu, hform, hcarries, ht, -⟩
  · exact (hquiet.not_sends hsent).elim
  obtain rfl := (Session.sends_sent_iff hu ht).1 hsent
  obtain ⟨fields, hfields, rfl⟩ := Outcome.map_eq_ok_iff.1 hform
  obtain ⟨_, _, -, rfl⟩ := hu
  refine ⟨fields, hcarries, (Submission.readFields_eq_ok_iff.1 hfields).imp fun file field h => ?_⟩
  obtain ⟨hname, hvalue⟩ := Submission.readField_eq_ok_iff.1 h
  obtain ⟨-, bytes, content, hbytes, hcontent, hunified⟩ := Session.readText_eq_ok_iff.1 hvalue
  refine ⟨hname, bytes, content, hbytes, hcontent, hunified, ?_⟩
  rw [hunified]
  exact Utf8.bytesOf_unifyLineEnds_iff hcontent

/-- A working directory with one source file in it. -/
def sampleSession (bytes : List UInt8) : Session where
  files := [(["work"], .folder), (["work", "lib.cairo"], .file bytes)]
  here := ["work"]

def sampleSubmission : Submission where
  license := "MIT"
  name := "Hello"
  metadata := ⟨"2.8.4", "2.8.4", ".", "lib.cairo"⟩
  files := [⟨"lib.cairo", .ofText "lib.cairo"⟩]

/-- The form of the sample whose file has a value. -/
def sampleForm (value : Text) : List Multipart.FormField :=
  sampleSubmission.metadataFields ++ [(Text.ofString "files__lib.cairo", value)]

/-- A form that is read from the sample and whose request can be built is sent as it is. -/
theorem exists_sample_run {bytes : List UInt8} {form : List Multipart.FormField} {client : Client}
    {call : Call} (hform : sampleSubmission.formFields (sampleSession bytes) = .ok form)
    (hclient : Client.create "https://sepolia-api.voyager.online/beta" {} = .ok client)
    (hcall : client.prepare .post .verifyClass "0x1" form = .ok call) :
    ∃ outcome t request,
      Session.run (submit {} "sepolia" "0x1" sampleSubmission) (sampleSession bytes) =
        (outcome, t) ∧ (sampleSession bytes).Sends t request ∧
      request.Carries form := by
  have hroot : Network.rootOf "sepolia" .publicApi {} =
      .ok "https://sepolia-api.voyager.online/beta" := rfl
  have hsent := run_submit_sends hroot hclient (sampleSession bytes) hform hcall
  have hcarries := (Client.prepare_eq_ok hclient hcall).2 (Submission.ne_nil_of_formFields hform)
  exact ⟨_, _, call.request, rfl, hsent, hcarries⟩

/-- A byte order mark, a letter, a NUL and two line feeds. -/
def markedBytes : List UInt8 := [0xEF, 0xBB, 0xBF, 0x6D, 0x00, 0x0A, 0x0A]

/-- Marks, NULs and line feeds at the end are kept. -/
theorem marked_source_is_verbatim :
    ∃ outcome t request fields,
      Session.run (submit {} "sepolia" "0x1" sampleSubmission) (sampleSession markedBytes) =
        (outcome, t) ∧ (sampleSession markedBytes).Sends t request ∧
      request.Carries (sampleSubmission.metadataFields ++ fields) ∧
      fields.map (Utf8.bytesOf ·.2) = [markedBytes] := by
  have hform : sampleSubmission.formFields (sampleSession markedBytes) =
      .ok (sampleForm "\uFEFFm\x00\n\n") := by cbv
  obtain ⟨outcome, t, request, hrun, hsent, -⟩ := exists_sample_run hform rfl rfl
  obtain ⟨fields, hcarries, hfields⟩ := submit_verbatim_iff hrun hsent
  refine ⟨outcome, t, request, fields, hrun, hsent, hcarries, ?_⟩
  obtain ⟨field, rest, ⟨-, bytes, content, hbytes, -, -, hverbatim⟩, hrest, rfl⟩ :=
    List.forall₂_cons_left_iff.1 hfields
  obtain rfl := List.forall₂_nil_left_iff.1 hrest
  have hread : (sampleSession markedBytes).files.readBytes (sampleSession markedBytes).here
      (.ofText "lib.cairo") = .ok markedBytes := by cbv
  obtain rfl : bytes = markedBytes := Except.ok.inj (hbytes.symm.trans hread)
  simp [hverbatim.2 (by decide)]

/-- One line that ends with a carriage return and a line feed. -/
def returnBytes : List UInt8 := Utf8.bytesOf "mod a;\r\n"

/-- The carriage return is not sent. -/
theorem carriage_return_is_not_verbatim :
    ∃ outcome t request, Session.run (submit {} "sepolia" "0x1" sampleSubmission)
        (sampleSession returnBytes) = (outcome, t) ∧
      (sampleSession returnBytes).Sends t request ∧
      (sampleSession returnBytes).files.readBytes (sampleSession returnBytes).here
        (.ofText "lib.cairo") = .ok returnBytes ∧
      Utf8.decode returnBytes = .ok "mod a;\r\n" ∧
      request.Carries (sampleForm "mod a;\n") ∧
      Utf8.bytesOf "mod a;\n" ≠ returnBytes := by
  have hform : sampleSubmission.formFields (sampleSession returnBytes) =
      .ok (sampleForm "mod a;\n") := by cbv
  obtain ⟨outcome, t, request, hrun, hsent, hcarries⟩ := exists_sample_run hform rfl rfl
  have hread : (sampleSession returnBytes).files.readBytes (sampleSession returnBytes).here
      (.ofText "lib.cairo") = .ok returnBytes := by cbv
  have hdecode : Utf8.decode returnBytes = .ok "mod a;\r\n" :=
    Utf8.decode_bytesOf (Text.isScalar_ofString _)
  exact ⟨outcome, t, request, hrun, hsent, hread, hdecode, hcarries, by decide⟩

end ClassVerification.Dispatch
