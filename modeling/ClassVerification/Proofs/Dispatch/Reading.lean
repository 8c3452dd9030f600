import Mathlib
import ClassVerification.Proofs.Dispatch.Sent
import ClassVerification.Proofs.Members
import ClassVerification.Proofs.Submission.Writable

/-! A submission reads all its files before it does anything else: it does nothing at all where one
of them cannot be read, and where all can, it tells how many there are. -/
namespace ClassVerification

namespace Session

variable {s : Session} {path : FilePath} {reason : Text}

/-- A file that can be read: the system takes its path, and its bytes are those of a text. -/
def Reads (s : Session) (path : FilePath) : Prop :=
  path.IsAccepted ∧
    ∃ t : Text, t.IsScalar ∧ s.files.readBytes s.here path = .ok (Utf8.bytesOf t)

/-- A file that cannot be read and why: the system does not open it, or its bytes are no text. -/
inductive CannotRead (s : Session) (path : FilePath) : Text → Prop where
  | unopened {e : PathError} : path.IsAccepted → s.files.readBytes s.here path = .error e →
      CannotRead s path (Fault.pathMessage e path.text)
  | undecodable {bytes : List UInt8} {flaw : Utf8.Undecodable} : path.IsAccepted →
      s.files.readBytes s.here path = .ok bytes → Utf8.decode bytes = .error flaw →
      CannotRead s path (Fault.undecodableMessage flaw)

theorem reads_iff : s.Reads path ↔ ∃ t, s.readText path = .ok t := by
  constructor
  · rintro ⟨hpath, t, hscalar, hbytes⟩
    exact ⟨_, readText_eq_ok_iff.2 ⟨hpath.check, _, t, hbytes, Utf8.decode_bytesOf hscalar, rfl⟩⟩
  · rintro ⟨_, hread⟩
    obtain ⟨hcheck, bytes, content, hbytes, hcontent, -⟩ := readText_eq_ok_iff.1 hread
    obtain ⟨hscalar, rfl⟩ := Utf8.bytesOf_of_decode hcontent
    exact ⟨FilePath.isAccepted_of_check hcheck, content, hscalar, hbytes⟩

/-- Where the system takes the path, there is a reason not to read a file just if it is not read. -/
theorem exists_cannotRead_iff (hpath : path.IsAccepted) :
    (∃ reason, s.CannotRead path reason) ↔ ¬ s.Reads path := by
  constructor
  · rintro ⟨_, hcannot⟩ ⟨-, t, hscalar, hread⟩
    cases hcannot with
    | unopened _ herror => cases hread.symm.trans herror
    | undecodable _ hbytes hflaw =>
      obtain rfl := Except.ok.inj (hread.symm.trans hbytes)
      cases (Utf8.decode_bytesOf hscalar).symm.trans hflaw
  · intro hnot
    cases hbytes : s.files.readBytes s.here path with
    | error e => exact ⟨_, .unopened hpath hbytes⟩
    | ok bytes =>
      cases hcontent : Utf8.decode bytes with
      | error flaw => exact ⟨_, .undecodable hpath hbytes hcontent⟩
      | ok content =>
        obtain ⟨hscalar, rfl⟩ := Utf8.bytesOf_of_decode hcontent
        exact (hnot ⟨hpath, content, hscalar, hbytes⟩).elim

end Session

namespace Submission

variable {s : Session} {file : SourceFile} {files front rest : List SourceFile} {reason : Text}
  {submission : Submission} {fields : List Multipart.FormField}

theorem readField_of_cannotRead (h : s.CannotRead file.path reason) :
    readField s file = .error (.failure (.unreadableFile file.path.text reason)) := by
  cases h with
  | unopened hpath herror => simp [readField, Session.readText, hpath.check, herror]
  | undecodable hpath hbytes hflaw =>
    simp [readField, Session.readText, hpath.check, hbytes, hflaw]

theorem exists_readField (h : s.Reads file.path) : ∃ field, readField s file = .ok field := by
  obtain ⟨t, ht⟩ := Session.reads_iff.1 h
  exact ⟨(file.fieldName, t), readField_eq_ok_iff.2 ⟨rfl, ht⟩⟩

/-- Reading goes as far as the first file that cannot be read, and the files after it do not
count. -/
theorem readFields_of_cannotRead (hfront : ∀ f ∈ front, s.Reads f.path)
    (h : s.CannotRead file.path reason) : readFields s (front ++ file :: rest) =
      .error (.failure (.unreadableFile file.path.text reason)) := by
  induction front with
  | nil => simp [readFields, readField_of_cannotRead h]
  | cons f front ih =>
    obtain ⟨hf, hfront⟩ := List.forall_mem_cons.1 hfront
    obtain ⟨field, hfield⟩ := exists_readField hf
    simp [readFields, hfield, ih hfront, Except.map]

theorem exists_readFields (h : ∀ f ∈ files, s.Reads f.path) :
    ∃ fields, readFields s files = .ok fields := by
  induction files with
  | nil => exact ⟨[], rfl⟩
  | cons f files ih =>
    obtain ⟨hf, hfiles⟩ := List.forall_mem_cons.1 h
    obtain ⟨field, hfield⟩ := exists_readField hf
    obtain ⟨fields, hfields⟩ := ih hfiles
    exact ⟨field :: fields, by simp [readFields, hfield, hfields, Except.map]⟩

theorem length_of_readFields (h : readFields s files = .ok fields) :
    fields.length = files.length := (readFields_eq_ok_iff.1 h).length_eq.symm

/-- A form that is read has one field for each file, after those of the project. -/
theorem length_of_formFields {form : List Multipart.FormField}
    (h : submission.formFields s = .ok form) :
    form.length - submission.metadataFields.length = submission.files.length := by
  obtain ⟨fields, hfields, rfl⟩ := Outcome.map_eq_ok_iff.1 h
  rw [List.length_append, Nat.add_sub_cancel_left, length_of_readFields hfields]

end Submission

namespace Network

variable {network : Network} {settings : Settings}

theorem notConfigured_publicApi (network : Network) : network.notConfigured .publicApi =
    .configuration ("No public API endpoint configured for network '" ++ network.name ++
      "'. Set CUSTOM_PUBLIC_API_ENDPOINT_URL.") := by
  cases network <;> rfl

theorem rootOf_of_eq_nil (h : (network.addresses settings).2 = []) :
    rootOf network.name .publicApi settings =
      .error (.failure (network.notConfigured .publicApi)) := by
  simp [rootOf, ofName?_name, requireAddress, Interface.of, h]

theorem rootOf_of_ne_nil (h : (network.addresses settings).2 ≠ []) :
    rootOf network.name .publicApi settings = .ok (network.addresses settings).2 := by
  simp [rootOf, ofName?_name, requireAddress, Interface.of, h]

end Network

/-- The event of a name that an action tells the log, if it tells one. -/
def Action.event? (name : Text) : Action → Option LogEvent
  | .logged e => if e.event = name then some e else none
  | _ => none

theorem Action.event?_inContext (name : Text) (context : Members Json) (a : Action) :
    (a.inContext context).event? name = (a.event? name).map (·.inContext context) := by
  cases a with
  | logged e =>
    simp only [inContext, event?, LogEvent.inContext]
    split <;> rfl
  | requested _ | slept _ | ran _ | compiled _ | noticed _ => rfl

theorem Action.filterMap_event?_inContext (name : Text) (context : Members Json)
    (actions : List Action) : (actions.map (inContext context)).filterMap (event? name) =
      (actions.filterMap (event? name)).map (·.inContext context) := by
  rw [List.filterMap_map, List.map_filterMap]
  exact List.filterMap_congr fun a _ => event?_inContext name context a

namespace Dispatch

variable {settings : Settings} {network address root : Text} {submission : Submission}
  {s : Session} {e : Error} {form : List Multipart.FormField} {call : Call} {r : Response}
  {url : Url}

theorem no_announcement_of_receive (reply : Reply) :
    (call.receive reply).1.filterMap (Action.event? "dispatch.submitting") = [] := by
  cases reply with
  | broken reason => rfl
  | refused fault => rfl
  | response r =>
    simp only [Call.receive]
    split
    · rfl
    · split <;> rfl

theorem no_announcement_of_exchange (replies : List Reply) :
    (call.exchange replies).actions.filterMap (Action.event? "dispatch.submitting") = [] := by
  cases replies with
  | nil => rfl
  | cons reply rest => exact no_announcement_of_receive reply

theorem no_announcement_of_decide :
    (decide network address url r).1.filterMap (Action.event? "dispatch.submitting") = [] := by
  simp only [decide, accepted, rejected]
  repeat' split
  all_goals rfl

theorem run_submit_of_rootOf_error
    (hroot : Network.rootOf network .publicApi settings = .error e) :
    Session.run (submit settings network address submission) s = (.error e, s) := by
  simp [submit, Session.run_bind, hroot]

theorem run_submit_of_formFields_error
    (hroot : Network.rootOf network .publicApi settings = .ok root)
    (hform : submission.formFields s = .error e) :
    Session.run (submit settings network address submission) s = (.error e, s) := by
  simp [submit, Session.run_bind, hroot, hform]

/-- A submission whose files have been read is announced, once and before all else. -/
theorem actions_run_submit (address : Text)
    (hroot : Network.rootOf network .publicApi settings = .ok root)
    (hform : submission.formFields s = .ok form) :
    ∃ later, (Session.run (submit settings network address submission) s).2.actions =
        s.actions ++
          (submittingNote network address submission form).inContext s.context :: later ∧
      later.filterMap (Action.event? "dispatch.submitting") = [] := by
  have hstart : (s.record [submittingNote network address submission form]).actions =
      s.actions ++ [(submittingNote network address submission form).inContext s.context] :=
    Session.actions_record s _
  rcases exists_built_or_run_submit hroot s hform with
      ⟨client, call, hclient, hcall⟩ | ⟨f, hstops⟩
  · have htalk : (call.exchange s.replies).actions.filterMap
        (Action.event? "dispatch.submitting") = [] := no_announcement_of_exchange s.replies
    rw [run_submit hroot hclient s hform hcall]
    cases hout : (call.exchange s.replies).outcome with
    | error e =>
      simp only [hout, Session.actions_afterTalk_record]
      refine ⟨_, rfl, ?_⟩
      rw [Action.filterMap_event?_inContext, htalk, List.map_nil]
    | ok r =>
      simp only [hout, Session.actions_record (Session.afterTalk _ _),
        Session.actions_afterTalk_record, List.append_assoc, List.map_cons, List.cons_append]
      refine ⟨_, rfl, ?_⟩
      rw [List.filterMap_append, Action.filterMap_event?_inContext, htalk,
        Action.filterMap_event?_inContext, no_announcement_of_decide]
      rfl
  · rw [hstops]
    exact ⟨[], hstart, rfl⟩

theorem get?_file_count (network address : Text) (submission : Submission) (count : Nat)
    (context : Members Json) : Members.get? "file_count"
      (LogEvent.inContext context ⟨.info, logger, "dispatch.submitting",
        submitting network address submission count⟩).fields = some (.int count) := by
  have hown : Members.get? "file_count" (submitting network address submission count) =
      some (.int count) := rfl
  rw [LogEvent.inContext, Members.get?_append, hown]
  rfl

/-- A submission to a network without a public address, and one with a file that cannot be read, end
with the failure that says so and leave the session as it was: nothing is sent, nothing is logged.
Of the files that cannot be read it is the first that counts. A submission all of whose files can be
read is announced, once, with the number of its files. -/
theorem submit_reads_all_or_nothing (network : Network) (settings : Settings) (address : Text)
    (submission : Submission) (s : Session) :
    ((network.addresses settings).2 = [] →
      Session.run (submit settings network.name address submission) s =
        (.error (.failure (.configuration ("No public API endpoint configured for network '" ++
          network.name ++ "'. Set CUSTOM_PUBLIC_API_ENDPOINT_URL."))), s)) ∧
    ((network.addresses settings).2 ≠ [] →
      (∀ front file rest, submission.files = front ++ file :: rest →
        (∀ f ∈ front, s.Reads f.path) → file.path.IsAccepted → ¬ s.Reads file.path →
        ∃ reason, s.CannotRead file.path reason ∧
          Session.run (submit settings network.name address submission) s =
            (.error (.failure (.unreadableFile file.path.text reason)), s)) ∧
      ((∀ f ∈ submission.files, s.Reads f.path) →
        ∃ new e, (Session.run (submit settings network.name address submission) s).2.actions =
            s.actions ++ new ∧
          new.filterMap (Action.event? "dispatch.submitting") = [e] ∧
          e.fields.get? "file_count" = some (.int submission.files.length))) := by
  constructor
  · intro hempty
    have hroot := Network.rootOf_of_eq_nil hempty
    rw [← Network.notConfigured_publicApi]
    exact run_submit_of_rootOf_error hroot
  intro hne
  have hroot := Network.rootOf_of_ne_nil hne
  constructor
  · intro front file rest hfiles hfront hpath hnot
    obtain ⟨reason, hcannot⟩ := (Session.exists_cannotRead_iff hpath).2 hnot
    have hform : submission.formFields s =
        .error (.failure (.unreadableFile file.path.text reason)) := by
      rw [Submission.formFields, hfiles, Submission.readFields_of_cannotRead hfront hcannot]
      rfl
    exact ⟨reason, hcannot, run_submit_of_formFields_error hroot hform⟩
  · intro hall
    obtain ⟨fields, hfields⟩ := Submission.exists_readFields hall
    have hform : submission.formFields s = .ok (submission.metadataFields ++ fields) :=
      Outcome.map_eq_ok_iff.2 ⟨fields, hfields, rfl⟩
    obtain ⟨later, hactions, hnone⟩ := actions_run_submit address hroot hform
    rw [submittingNote, Submission.length_of_formFields hform] at hactions
    refine ⟨_, _, hactions, ?_, get?_file_count network.name address submission _ s.context⟩
    rw [List.filterMap_cons, hnone]
    rfl

/-- A working directory with two source files in it, of which the second is no text. -/
def brokenSession : Session where
  files := [
    (["work"], .folder),
    (["work", "a"], .file (Utf8.bytesOf "mod a;\n")),
    (["work", "b"], .file [0xFF])]
  here := ["work"]

def sourceAt (name : Text) : SourceFile := ⟨name, .ofText name⟩

/-- A submission of the files of some names. -/
def submissionOf (names : List Text) : Submission where
  license := "MIT"
  name := "Hello"
  metadata := ⟨"2.8.4", "2.8.4", ".", "a"⟩
  files := names.map sourceAt

theorem readBytes_brokenSession :
    brokenSession.files.readBytes brokenSession.here (.ofText "a") =
        .ok (Utf8.bytesOf "mod a;\n") ∧
      brokenSession.files.readBytes brokenSession.here (.ofText "b") = .ok [0xFF] := by
  constructor <;> cbv

theorem reads_a : brokenSession.Reads (.ofText "a") :=
  ⟨FilePath.isAccepted_of_check rfl, "mod a;\n", Text.isScalar_ofString _,
    readBytes_brokenSession.1⟩

theorem isAccepted_b : (FilePath.ofText "b").IsAccepted := FilePath.isAccepted_of_check rfl

/-- The only reason not to read the second file. -/
theorem cannotRead_b_iff {reason : Text} : brokenSession.CannotRead (.ofText "b") reason ↔
    reason = Text.ofString
      "'utf-8' codec can't decode byte 0xff in position 0: invalid start byte" := by
  have hbytes := readBytes_brokenSession.2
  have hflaw : Utf8.decode [0xFF] = .error ⟨.startByte, 0xFF, 0, 1⟩ := by cbv
  constructor
  · intro hcannot
    cases hcannot with
    | unopened _ herror => cases hbytes.symm.trans herror
    | undecodable _ hother hwrong =>
      obtain rfl := Except.ok.inj (hbytes.symm.trans hother)
      obtain rfl := Except.error.inj (hflaw.symm.trans hwrong)
      rfl
  · rintro rfl
    exact .undecodable isAccepted_b hbytes hflaw

/-- Of three files the second is no text and the third is missing: it is the second that is told of.
Without these two the first is announced. -/
theorem second_source_is_told :
    Session.run (submit {} "sepolia" "0x1" (submissionOf ["a", "b", "c"])) brokenSession =
      (.error (.failure (.unreadableFile "b"
        "'utf-8' codec can't decode byte 0xff in position 0: invalid start byte")),
        brokenSession) ∧
    ∃ e, (Session.run (submit {} "sepolia" "0x1" (submissionOf ["a"]))
        brokenSession).2.actions.filterMap (Action.event? "dispatch.submitting") = [e] ∧
      e.fields.get? "file_count" = some (.int 1) := by
  have hne : (Network.sepolia.addresses {}).2 ≠ [] := by decide
  have hnot : ¬ brokenSession.Reads (.ofText "b") :=
    (Session.exists_cannotRead_iff isAccepted_b).1 ⟨_, cannotRead_b_iff.2 rfl⟩
  constructor
  · obtain ⟨hstops, -⟩ := (submit_reads_all_or_nothing .sepolia {} "0x1"
      (submissionOf ["a", "b", "c"]) brokenSession).2 hne
    obtain ⟨reason, hreason, hrun⟩ := hstops [sourceAt "a"] (sourceAt "b") [sourceAt "c"] rfl
      (List.forall_mem_singleton.2 reads_a) isAccepted_b hnot
    rw [cannotRead_b_iff.1 hreason] at hrun
    exact hrun
  · obtain ⟨-, hall⟩ := (submit_reads_all_or_nothing .sepolia {} "0x1"
      (submissionOf ["a"]) brokenSession).2 hne
    obtain ⟨new, e, hnew, hevents, hcount⟩ := hall (List.forall_mem_singleton.2 reads_a)
    exact ⟨e, hnew ▸ hevents, hcount⟩

end Dispatch

end ClassVerification
