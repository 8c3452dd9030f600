import ClassVerification.Proofs.Api.Exchange
import ClassVerification.Proofs.Polling.Answer
import ClassVerification.Verification

/-! What a verification does to the outside: its deeds, and the sessions that they lead through. -/
namespace ClassVerification

/-- A response that takes a submission and tells the id of its job. -/
def Response.Accepts (r : Response) (jobId : Text) : Prop :=
  r.status = 200 ∧ ∃ members : Members Json, r.json? = some (.object members) ∧
    members.get? "job_id" = some (.text jobId)

theorem receiptOf_eq_ok_iff {value : Json} {jobId : Text} :
    receiptOf value = .ok jobId ↔ ∃ members : Members Json, value = .object members ∧
      members.get? "job_id" = some (.text jobId) := textField_eq_ok_iff

/-- What a response accepts can be read off its body. -/
theorem Response.accepts_iff {r : Response} {jobId : Text} :
    r.Accepts jobId ↔
      r.status = 200 ∧ (r.json?.bind fun value => (receiptOf value).toOption) = some jobId := by
  simp only [Accepts, Option.bind_eq_some_iff, Outcome.toOption_eq_some_iff, receiptOf_eq_ok_iff]
  refine and_congr_right fun _ => ⟨?_, ?_⟩
  · rintro ⟨members, hjson, hid⟩
    exact ⟨_, hjson, members, rfl, hid⟩
  · rintro ⟨_, hjson, members, rfl, hid⟩
    exact ⟨members, hjson, hid⟩

def Session.waited (s : Session) (seconds : Binary64) : Session :=
  { s with actions := s.actions ++ [.slept seconds] }

namespace Verification

/-- What a verification does to the outside, with what came of it. A request that no reply is left
for has none. -/
inductive Deed where
  | check (call : Call) (reply : Option Reply)
  | build (project : FilePath) (outcome : Except Error Unit)
  | submit (call : Call) (reply : Option Reply)
  | poll (call : Call) (reply : Option Reply)
  | wait (seconds : Binary64)

/-- A deed as it is planned: where it goes to, and nothing of what will come of it. A resource of an
interface that the network lacks has no address. -/
inductive Move where
  | check (address : Option Text)
  | build (project : FilePath)
  | submit (address : Option Text)
  | poll (address : Option Text)
  | wait (seconds : Binary64)
deriving DecidableEq

namespace Deed

/-- The move that a deed makes. The address is the one that was written, before its normal form. -/
def move : Deed → Move
  | .check call _ => .check (some call.written)
  | .build project _ => .build project
  | .submit call _ => .submit (some call.written)
  | .poll call _ => .poll (some call.written)
  | .wait seconds => .wait seconds

/-- A deed that lets the next one begin. -/
def LeadsOn (jobId : Text) : Deed → Prop
  | .check _ reply => ∃ r, reply = some (.response r) ∧ r.status = 200
  | .build _ outcome => outcome = .ok ()
  | .submit _ reply => ∃ r, reply = some (.response r) ∧ r.Accepts jobId
  | .poll _ reply => ∃ r, reply = some (.response r) ∧ r.isPending
  | .wait _ => True

end Deed

def Move.isSubmit : Move → Bool
  | .submit _ => true
  | _ => false

/-- One deed. A request is sent to the normal form of its address and takes the next reply; the
form of a submission holds all files as they are then; a build is what the compiler makes of it. -/
inductive Step (v : Verification) : Session → Deed → Session → Prop where
  | check {s : Session} {call : Call} : call.IsFor .get call.written →
      Step v s (.check call s.replies.head?) (s.sent call.request)
  | build {s t : Session} {c : Compiler} {project : FilePath} {outcome : Except Error Unit} :
      v.compiler = some c → Session.run (c.compileProject project) s = (outcome, t) →
      Step v s (.build project outcome) t
  | submit {s : Session} {call : Call} {form : List Multipart.FormField} :
      call.IsFor .post call.written → v.submission.formFields s = .ok form →
      call.request.Carries form →
      Step v s (.submit call s.replies.head?) (s.sent call.request)
  | poll {s : Session} {call : Call} : call.IsFor .get call.written →
      Step v s (.poll call s.replies.head?) (s.sent call.request)
  | wait {s : Session} {seconds : Binary64} : Step v s (.wait seconds) (s.waited seconds)

/-- Deeds one after the other, with nothing between them. -/
inductive Trace (v : Verification) : Session → List Deed → Session → Prop where
  | quiet {s t : Session} : s.Quiet t → Trace v s [] t
  | step {s u w t : Session} {d : Deed} {deeds : List Deed} : s.Quiet u → Step v u d w →
      Trace v w deeds t → Trace v s (d :: deeds) t

/-- An answer that takes a submission. -/
def acceptedAnswer : Response where
  status := 200
  headers := []
  body := Utf8.bytesOf "\x7b\"job_id\":\"abc\"\x7d"

theorem accepts_acceptedAnswer_iff {jobId : Text} :
    acceptedAnswer.Accepts jobId ↔ jobId = Text.ofString "abc" := by
  have hreceipt : (acceptedAnswer.json?.bind fun value => (receiptOf value).toOption) =
      some (Text.ofString "abc") := by decide +kernel
  rw [Response.accepts_iff, hreceipt]
  exact ⟨fun h => (Option.some.inj h.2).symm, fun h => ⟨rfl, congrArg some h.symm⟩⟩

variable {s t u : Session} {v : Verification} {d : Deed} {first second deeds : List Deed}

theorem Trace.append (h : Trace v s first t) (h' : Trace v t second u) :
    Trace v s (first ++ second) u := by
  induction h with
  | quiet hq =>
    cases h' with
    | quiet hq' => exact .quiet (hq.trans hq')
    | step hq' hstep htrace => exact .step (hq.trans hq') hstep htrace
  | step hq hstep _ ih => exact .step hq hstep (ih h')

theorem Trace.single (h : Step v s d t) : Trace v s [d] t :=
  .step (Session.Quiet.refl s) h (.quiet (Session.Quiet.refl t))

/-- The deeds go along the moves of a plan, maybe not to its end, and each but the last lets the
next begin. -/
structure Follows (v : Verification) (jobId : Text) (plan : List Move) (s : Session)
    (deeds : List Deed) (t : Session) : Prop where
  trace : Trace v s deeds t
  planned : deeds.map Deed.move <+: plan
  led : ∀ d ∈ deeds.dropLast, d.LeadsOn jobId

/-- The deeds make all moves of a plan, and each lets another begin. -/
structure Completes (v : Verification) (jobId : Text) (plan : List Move) (s : Session)
    (deeds : List Deed) (t : Session) : Prop where
  trace : Trace v s deeds t
  planned : deeds.map Deed.move = plan
  led : ∀ d ∈ deeds, d.LeadsOn jobId

variable {jobId : Text} {plan front rest : List Move}

theorem Follows.ofQuiet (h : s.Quiet t) : Follows v jobId plan s [] t :=
  ⟨.quiet h, List.nil_prefix, by simp⟩

theorem Completes.ofQuiet (h : s.Quiet t) : Completes v jobId [] s [] t :=
  ⟨.quiet h, rfl, by simp⟩

theorem Follows.single (h : Trace v s [d] t) : Follows v jobId [d.move] s [d] t :=
  ⟨h, List.prefix_refl _, by simp⟩

theorem Completes.single (h : Trace v s [d] t) (hled : d.LeadsOn jobId) :
    Completes v jobId [d.move] s [d] t :=
  ⟨h, rfl, by simpa using hled⟩

theorem Completes.follows (h : Completes v jobId plan s deeds t) : Follows v jobId plan s deeds t :=
  ⟨h.trace, h.planned ▸ List.prefix_refl _, fun d hd => h.led d (List.dropLast_subset _ hd)⟩

theorem Follows.quiet (h : Follows v jobId plan s deeds t) (h' : t.Quiet u) :
    Follows v jobId plan s deeds u :=
  ⟨by simpa using h.trace.append (.quiet h'), h.planned, h.led⟩

/-- A stage that stops leaves the rest of the plan undone. -/
theorem Follows.stop (h : Follows v jobId front s deeds t) :
    Follows v jobId (front ++ rest) s deeds t :=
  ⟨h.trace, h.planned.trans (List.prefix_append front rest), h.led⟩

/-- A stage that completes its part hands over to the rest of the plan. -/
theorem Completes.append (h : Completes v jobId front s first t)
    (h' : Follows v jobId rest t second u) :
    Follows v jobId (front ++ rest) s (first ++ second) u := by
  refine ⟨h.trace.append h'.trace, ?_, fun d hd => ?_⟩
  · rw [List.map_append, h.planned]
    exact List.prefix_append_right_inj front |>.2 h'.planned
  · by_cases hsecond : second = []
    · rw [hsecond, List.append_nil] at hd
      exact h.led d (List.dropLast_subset _ hd)
    · rw [List.dropLast_append_of_ne_nil hsecond] at hd
      exact (List.mem_append.1 hd).elim (h.led d) (h'.led d)

theorem Completes.trans (h : Completes v jobId front s first t)
    (h' : Completes v jobId rest t second u) :
    Completes v jobId (front ++ rest) s (first ++ second) u := by
  refine ⟨h.trace.append h'.trace, ?_, fun d hd => ?_⟩
  · rw [List.map_append, h.planned, h'.planned]
  · exact (List.mem_append.1 hd).elim (h.led d) (h'.led d)

end Verification

end ClassVerification
