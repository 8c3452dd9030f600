import Mathlib
import ClassVerification.Proofs.Dispatch.Sent
import ClassVerification.Proofs.Multipart.Decode
import ClassVerification.Proofs.Multipart.Scalar
import ClassVerification.Proofs.Submission.Writable

/-! What the service reads from the form of a submission: the submission itself. -/
namespace ClassVerification

/-- The fields of the form that a request carries, read from its content type and from the bytes of
its body. -/
def Request.form? (request : Request) : Option (List Multipart.FormField) := do
  let boundary ← (← request.contentType).dropPrefix? "multipart/form-data; boundary="
  let body ← (Utf8.decode (Utf8.bytesOf request.body)).toOption
  Multipart.decode? boundary body

namespace Client

variable {client : Client} {method : Method} {e : Endpoint} {parameter : Text}
  {fields : List Multipart.FormField} {call : Call}

theorem isScalar_boundary : boundary.IsScalar := Text.isScalar_ofString _

/-- A request with a form tells its boundary, and its body can be written. -/
theorem form_of_prepare (h : client.prepare method e parameter fields = .ok call)
    (hne : fields ≠ []) :
    call.request.contentType = some (Multipart.contentType boundary) ∧
      call.request.body = Multipart.body boundary fields ∧ call.request.body.IsScalar := by
  simp only [prepare, Outcome.bind_eq_ok_iff] at h
  obtain ⟨_, hvalues, written, -, url, -, _, hnames, _, -, h⟩ := h
  rw [utf8_eq_ok_iff, Multipart.checkAll_eq_ok_iff, List.forall_mem_map] at hvalues hnames
  have hscalar : (Multipart.body boundary fields).IsScalar :=
    Multipart.isScalar_body isScalar_boundary hnames hvalues
  split at h
  · simp [bind, Except.bind] at h
  · cases h
    simp [hne, hscalar]

/-- The form of a request that can be built is read as it was written. -/
theorem form?_of_prepare (h : client.prepare method e parameter fields = .ok call)
    (hne : fields ≠ []) (hnames : ∀ field ∈ fields, .char '%' ∉ field.1)
    (hvalues : ∀ field ∈ fields, ¬ Multipart.delimiter boundary <:+: field.2) :
    call.request.form? = some fields := by
  obtain ⟨htype, hbody, hscalar⟩ := form_of_prepare h hne
  have hboundary : (Multipart.contentType boundary).dropPrefix? "multipart/form-data; boundary=" =
      some boundary := Text.dropPrefix?_append _ _
  have hreturn : .char '\r' ∉ boundary := by decide
  have hdecode : Multipart.decode? boundary (Multipart.body boundary fields) = some fields :=
    Multipart.decode?_body hreturn hnames hvalues
  have hbytes := Utf8.decode_bytesOf hscalar
  rw [← hbody] at hdecode
  simp [Request.form?, htype, hboundary, hbytes, Except.toOption, hdecode]

end Client

/-- The names of the fields that describe the project. -/
def Submission.metadataNames : List Text :=
  ["compiler_version", "scarb_version", "license", "name", "contract_file", "project_dir_path"]

theorem Submission.percent_not_mem_metadataNames : ∀ name ∈ metadataNames, .char '%' ∉ name := by
  decide

/-- A submission whose form can be taken apart: no file name holds a percent sign, and no value
holds the delimiter of the parts. -/
structure Submission.IsSeparable (submission : Submission) (s : Session) : Prop where
  names : ∀ file ∈ submission.files, .char '%' ∉ file.name
  described : ∀ field ∈ submission.metadataFields,
    ¬ Multipart.delimiter Client.boundary <:+: field.2
  read : ∀ file ∈ submission.files, ∀ t, s.readText file.path = .ok t →
    ¬ Multipart.delimiter Client.boundary <:+: t

namespace Submission.IsSeparable

variable {submission : Submission} {s : Session} {form : List Multipart.FormField}

theorem percent_not_mem (h : submission.IsSeparable s)
    (hform : submission.formFields s = .ok form) : ∀ field ∈ form, .char '%' ∉ field.1 := by
  obtain ⟨fields, hfields, rfl⟩ := Outcome.map_eq_ok_iff.1 hform
  intro field hfield
  rcases List.mem_append.1 hfield with hfield | hfield
  · have hname : field.1 ∈ submission.metadataFields.map (·.1) := List.mem_map_of_mem hfield
    exact percent_not_mem_metadataNames field.1 hname
  · obtain ⟨file, hfile, hread⟩ := exists_file_of_mem (readFields_eq_ok_iff.1 hfields) hfield
    obtain ⟨hname, -⟩ := readField_eq_ok_iff.1 hread
    have hmark : .char '%' ∉ Text.ofString "files__" := by decide
    rw [hname, SourceFile.fieldName, List.mem_append]
    rintro (hmem | hmem)
    · exact hmark hmem
    · exact h.names file hfile hmem

theorem delimiter_absent (h : submission.IsSeparable s)
    (hform : submission.formFields s = .ok form) :
    ∀ field ∈ form, ¬ Multipart.delimiter Client.boundary <:+: field.2 := by
  obtain ⟨fields, hfields, rfl⟩ := Outcome.map_eq_ok_iff.1 hform
  intro field hfield
  rcases List.mem_append.1 hfield with hfield | hfield
  · exact h.described field hfield
  · obtain ⟨file, hfile, hread⟩ := exists_file_of_mem (readFields_eq_ok_iff.1 hfields) hfield
    exact h.read file hfile _ (readField_eq_ok_iff.1 hread).2

end Submission.IsSeparable

namespace Dispatch

variable {settings : Settings} {network address : Text} {submission : Submission}
  {s t : Session} {outcome : Except Error Text} {request : Request}

/-- A request that a submission sends has been built from the form that was read. -/
theorem exists_prepare_of_sends
    (hrun : Session.run (submit settings network address submission) s = (outcome, t))
    (hsent : s.Sends t request) :
    ∃ client form call, submission.formFields s = .ok form ∧
      Client.prepare client .post .verifyClass address form = .ok call ∧
      call.request = request := by
  rcases run_submit_cases hrun with
      ⟨_, -, hquiet⟩ | ⟨root, sent, u, form, hroot, -, hu, hform, -, ht, -⟩
  · exact (hquiet.not_sends hsent).elim
  have hrequest : request = sent.request := (Session.sends_sent_iff hu ht).1 hsent
  have hformed : submission.formFields s = .ok form := by
    obtain ⟨_, _, -, rfl⟩ := hu
    obtain ⟨fields, hfields, rfl⟩ := Outcome.map_eq_ok_iff.1 hform
    have hread := Submission.readFields_eq_ok_iff.1 hfields
    exact Outcome.map_eq_ok_iff.2 ⟨fields, Submission.readFields_eq_ok_iff.2 hread, rfl⟩
  rcases exists_built_or_run_submit hroot s hformed with
      ⟨client, call, hclient, hcall⟩ | ⟨f, hstops⟩
  · have hsends := run_submit_sends hroot hclient s hformed hcall
    rw [hrun] at hsends
    have hcalled : call.request = sent.request := (Session.sends_sent_iff hu ht).1 hsends
    exact ⟨client, form, call, hformed, hcall, hcalled.trans hrequest.symm⟩
  · -- where the request cannot be built, the log is all that is written to
    obtain ⟨-, rfl⟩ := Prod.mk.inj (hrun.symm.trans hstops)
    exact (Session.Quiet.log.not_sends hsent).elim

/-- What the service reads from a submission that is sent: the six fields of the project, and one
field for each file, in order, with the text that was read from it. -/
theorem submit_form_decodes (hseparable : submission.IsSeparable s)
    (hrun : Session.run (submit settings network address submission) s = (outcome, t))
    (hsent : s.Sends t request) :
    ∃ fields, request.form? = some ([
        (Text.ofString "compiler_version", submission.metadata.cairoVersion),
        (Text.ofString "scarb_version", submission.metadata.scarbVersion),
        (Text.ofString "license", submission.license),
        (Text.ofString "name", submission.name),
        (Text.ofString "contract_file", submission.metadata.contractFile),
        (Text.ofString "project_dir_path", submission.metadata.folder)] ++ fields) ∧
      List.Forall₂ (fun file field => field.1 = Text.ofString "files__" ++ file.name ∧
        s.readText file.path = .ok field.2) submission.files fields := by
  obtain ⟨client, form, call, hform, hcall, rfl⟩ := exists_prepare_of_sends hrun hsent
  have hne : form ≠ [] := Submission.ne_nil_of_formFields hform
  have hread := Client.form?_of_prepare hcall hne (hseparable.percent_not_mem hform)
    (hseparable.delimiter_absent hform)
  obtain ⟨fields, hfields, rfl⟩ := Outcome.map_eq_ok_iff.1 hform
  refine ⟨fields, hread, (Submission.readFields_eq_ok_iff.1 hfields).imp fun file field h => ?_⟩
  exact Submission.readField_eq_ok_iff.1 h

/-- A text that holds line ends, the beginning of a delimiter and what looks like a header. -/
def deceptiveText : Text :=
  "mod a;\n--BOUNDAR\nContent-Disposition: form-data; name=\"license\"\n\n--\n"

/-- A working directory with a source file in it that looks like a form, and with an empty one. -/
def deceptiveSession : Session where
  files := [
    (["work"], .folder),
    (["work", "a"], .file (Utf8.bytesOf deceptiveText)),
    (["work", "b"], .file [])]
  here := ["work"]

/-- A name that holds a quote, a backslash and a line end. -/
def deceptiveName : Text := "\"\\\r\n"

/-- Both files are submitted under one name. -/
def deceptiveSubmission : Submission where
  license := "MIT\r\n\r\n--BOUNDAR"
  name := []
  metadata := ⟨"2.8.4", "2.8.4", ".", "\r\n--"⟩
  files := [⟨deceptiveName, .ofText "a"⟩, ⟨deceptiveName, .ofText "b"⟩]

theorem readText_deceptiveSession :
    deceptiveSession.readText (.ofText "a") = .ok deceptiveText ∧
      deceptiveSession.readText (.ofText "b") = .ok [] := by
  constructor <;> cbv

theorem isSeparable_deceptiveSubmission : deceptiveSubmission.IsSeparable deceptiveSession where
  names := by decide
  described := by decide +kernel
  read := by
    obtain ⟨hfirst, hsecond⟩ := readText_deceptiveSession
    intro file hfile t ht
    simp only [deceptiveSubmission, List.mem_cons, List.not_mem_nil, or_false] at hfile
    rcases hfile with rfl | rfl
    · obtain rfl := Except.ok.inj (hfirst.symm.trans ht)
      decide +kernel
    · obtain rfl := Except.ok.inj (hsecond.symm.trans ht)
      decide

/-- Two files of one name are read as two fields, and nothing in a name or a text is taken for the
end of a part. -/
theorem deceptive_form_decodes :
    ∃ outcome t request,
      Session.run (submit {} "sepolia" "0x1" deceptiveSubmission) deceptiveSession =
        (outcome, t) ∧ deceptiveSession.Sends t request ∧
      request.form? = some (deceptiveSubmission.metadataFields ++
        [(Text.ofString "files__" ++ deceptiveName, deceptiveText),
          (Text.ofString "files__" ++ deceptiveName, [])]) := by
  obtain ⟨hfirst, hsecond⟩ := readText_deceptiveSession
  have hform : deceptiveSubmission.formFields deceptiveSession =
      .ok (deceptiveSubmission.metadataFields ++
        [(Text.ofString "files__" ++ deceptiveName, deceptiveText),
          (Text.ofString "files__" ++ deceptiveName, [])]) := by
    simp only [Submission.formFields, deceptiveSubmission, Submission.readFields,
      Submission.readField, hfirst, hsecond]
    rfl
  have hroot : Network.rootOf "sepolia" .publicApi {} =
      .ok "https://sepolia-api.voyager.online/beta" := rfl
  obtain ⟨outcome, t, request, hrun, hsent⟩ : ∃ outcome t request,
      Session.run (submit {} "sepolia" "0x1" deceptiveSubmission) deceptiveSession =
        (outcome, t) ∧ deceptiveSession.Sends t request :=
    ⟨_, _, _, rfl, run_submit_sends hroot rfl deceptiveSession hform rfl⟩
  obtain ⟨fields, hread, hfields⟩ := submit_form_decodes isSeparable_deceptiveSubmission hrun hsent
  obtain ⟨⟨_, first⟩, _, ⟨rfl, hvalue⟩, hrest, rfl⟩ := List.forall₂_cons_left_iff.1 hfields
  obtain ⟨⟨_, second⟩, _, ⟨rfl, hother⟩, hnil, rfl⟩ := List.forall₂_cons_left_iff.1 hrest
  obtain rfl := List.forall₂_nil_left_iff.1 hnil
  obtain rfl : deceptiveText = first := Except.ok.inj (hfirst.symm.trans hvalue)
  obtain rfl : [] = second := Except.ok.inj (hsecond.symm.trans hother)
  exact ⟨outcome, t, request, hrun, hsent, hread⟩

end Dispatch

end ClassVerification
