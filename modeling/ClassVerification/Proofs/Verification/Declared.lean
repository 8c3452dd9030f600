import ClassVerification.Proofs.Network.Reaches
import ClassVerification.Proofs.Submission.Writable
import ClassVerification.Proofs.Verification.Gating

/-! The errors that a verification may end in: where every request can be built and every answer can
be taken, none but the declared failures. -/
namespace ClassVerification

open Outcome in
/-- A poll whose requests and answers can be taken ends as declared, however long it goes on. -/
theorem Poll.isDeclared_runFrom {p : Poll} (hcall : p.call.IsSound) {m : JobMachine}
    (hm : m.isTerminal = false) (attempt : Nat) {replies : List Reply}
    (hreplies : ∀ reply ∈ replies, reply.IsSound p.call.request.url) :
    IsDeclared (p.runFrom m attempt replies).outcome := by
  induction replies generalizing m attempt with
  | nil => exact isDeclared_noReplyLeft
  | cons reply rest ih =>
    have hreply := hreplies reply List.mem_cons_self
    have hrest := fun other hother => hreplies other (List.mem_cons_of_mem reply hother)
    obtain ⟨notes, -, ⟨outcome, hconcludes, hrun⟩ |
        ⟨r, -, -, ⟨-, hrun⟩ | ⟨-, n, record, hn, hrun⟩⟩⟩ :=
      runFrom_cons (p := p) hm attempt reply rest
    · rw [hrun]
      cases hconcludes with
      | badRedirect hbad => exact (hreply.1.checkRedirect_ne_fault hcall.fragment _ hbad).elim
      | unreadable _ _ _ htext =>
        obtain ⟨t, ht⟩ := hreply.2
        cases ht.symm.trans htext
      | refused fault => exact hreply.elim
      | relative hrelative => simp [hcall.isAbsolute] at hrelative
      | succeeded _ _ => exact isDeclared_ok _
      | _ => exact isDeclared_failure _
    · rw [hrun]
      exact isDeclared_failure _
    · rw [hrun]
      exact ih hn (attempt + 1) hrest

/-- A time that a clock can wait: it is not less than none, and its nanoseconds fit a word with a
sign. -/
def Binary64.IsAwaitable (x : Binary64) : Prop :=
  (x.isNegative → x.biasedExponent = 0 ∧ x.fraction = 0) ∧ x.biasedExponent < 1023 + 33

instance (x : Binary64) : Decidable x.IsAwaitable := inferInstanceAs (Decidable (_ ∧ _))

/-- Between two sessions there is no sleep for a time that no clock can wait. -/
def Session.Awaitable (s t : Session) : Prop :=
  ∀ seconds, .slept seconds ∈ t.actions → .slept seconds ∈ s.actions ∨ seconds.IsAwaitable

theorem Session.Quiet.slept_mem {s t : Session} {seconds : Binary64} (h : s.Quiet t)
    (hslept : .slept seconds ∈ t.actions) : .slept seconds ∈ s.actions := by
  obtain ⟨notes, _, hnotes, rfl⟩ := h
  refine (List.mem_append.1 hslept).resolve_right fun hnote => ?_
  obtain ⟨e, he⟩ := hnotes _ hnote
  cases he

section

open Outcome

variable {r : Response} {url : Url} {network classHash : Text}

/-- An answer that can be read is reported as a declared failure. -/
theorem Response.IsReadable.isDeclared_report {α : Type} (h : r.IsReadable)
    (failure : Text → Failure) : IsDeclared (.error (r.report failure) : Except Error α) := by
  obtain ⟨t, ht⟩ := h
  rw [report_of_text ht]
  exact isDeclared_failure _

theorem Response.IsReadable.isDeclared_parse (h : r.IsReadable) (url : Url) :
    IsDeclared (r.parse url) := by
  rw [parse]
  cases r.json? with
  | none => exact h.isDeclared_report _
  | some value => exact isDeclared_ok value

theorem Dispatch.isDeclared_accepted (h : r.IsReadable) :
    IsDeclared (accepted network classHash url r).2 := by
  have hparse := h.isDeclared_parse url
  rw [accepted]
  cases hjson : r.parse url with
  | error e => exact (hjson ▸ hparse).error
  | ok value =>
    cases hreceipt : receiptOf value with
    | error _ => simpa only [hreceipt] using h.isDeclared_report _
    | ok jobId => simpa only [hreceipt] using isDeclared_ok jobId

theorem Dispatch.isDeclared_rejected (h : r.IsReadable) :
    IsDeclared (rejected network classHash url r).2 := by
  have hparse := h.isDeclared_parse url
  rw [rejected]
  cases hjson : r.parse url with
  | error e => exact (hjson ▸ hparse).error
  | ok value =>
    cases hrejection : rejectionOf value with
    | error _ => simpa only [hrejection] using h.isDeclared_report _
    | ok reason => simpa only [hrejection] using isDeclared_failure _

/-- An answer that can be read is taken, or ends a submission in a declared failure. -/
theorem Dispatch.isDeclared_decide (h : r.IsReadable) :
    IsDeclared (decide network classHash url r).2 := by
  rw [decide]
  split
  · exact isDeclared_accepted h
  split
  · exact isDeclared_failure _
  split
  · exact isDeclared_rejected h
  · exact h.isDeclared_report _

end

section

open Outcome

variable {network : Network} {settings : Settings} {s : Session}

theorem Dispatch.isDeclared_classExists {classHash : Text}
    (hkey : ∀ c ∈ settings.apiKey, c.isAscii)
    (hserves : network.Serves settings .internalApi .getClass classHash s.replies) :
    IsDeclared (Session.run (classExists settings network.name classHash) s).1 := by
  refine Session.isDeclared_bind_of_eq (Session.run_addressOf ..)
    (network.isDeclared_rootOf _ settings) fun root hroot => ?_
  obtain ⟨client, call, hclient, hcall, hsound, hreplies⟩ :=
    hserves.exists_call .get hkey hroot (fun _ => List.not_mem_nil.elim)
  rw [Session.run_orFault_bind_of_ok hclient]
  refine Client.isDeclared_send hcall hsound hreplies fun r t hreadable => ?_
  dsimp only
  split
  · exact isDeclared_ok _
  split
  · exact isDeclared_ok _
  · rw [Session.run_ofExcept]
    exact hreadable.isDeclared_report _

theorem Dispatch.isDeclared_submit {classHash : Text} {submission : Submission}
    (hkey : ∀ c ∈ settings.apiKey, c.isAscii) (hwritable : submission.IsWritable)
    (hserves : network.Serves settings .publicApi .verifyClass classHash s.replies) :
    IsDeclared (Session.run (submit settings network.name classHash submission) s).1 := by
  refine Session.isDeclared_bind_of_eq (Session.run_addressOf ..)
    (network.isDeclared_rootOf _ settings) fun root hroot => ?_
  refine Session.isDeclared_bind_of_eq (Session.run_get s) (isDeclared_ok s) fun _ hget => ?_
  obtain rfl := Except.ok.inj hget
  refine Session.isDeclared_bind_of_eq (Session.run_ofExcept ..)
    (Submission.isDeclared_formFields hwritable s) fun form hform => ?_
  obtain ⟨client, call, hclient, hcall, hsound, hreplies⟩ := hserves.exists_call .post hkey
    hroot (Submission.isScalar_of_formFields hwritable hform)
  rw [SessionM.log, Session.run_record_bind, Session.run_orFault_bind_of_ok hclient]
  refine Client.isDeclared_send hcall hsound hreplies fun r t hreadable => ?_
  have hrun := run_record_decision (decide network.name classHash call.request.url r) t
  exact (congrArg (fun ended => IsDeclared ended.1) hrun).mpr (isDeclared_decide hreadable)

theorem Polling.isDeclared_follow {jobId : Text} {given : Option Int}
    (hkey : ∀ c ∈ settings.apiKey, c.isAscii) (hceiling : 0 ≤ ceiling settings given)
    (hserves : network.Serves settings .publicApi .getJobStatus jobId s.replies) :
    IsDeclared (Session.run (follow settings network.name jobId given) s).1 := by
  have hnonneg : ¬ ceiling settings given < 0 := by omega
  simp only [follow, hnonneg, if_false]
  refine Session.isDeclared_bind_of_eq (Session.run_addressOf ..)
    (network.isDeclared_rootOf _ settings) fun root hroot => ?_
  obtain ⟨client, call, hclient, hcall, hsound, hreplies⟩ :=
    hserves.exists_call .get hkey hroot (fun _ => List.not_mem_nil.elim)
  rw [SessionM.log, Session.run_record_bind, Session.run_orFault_bind_of_ok hclient,
    Session.run_orFault_bind_of_ok (pollOf_eq_ok hcall), Session.run_converse]
  exact Poll.isDeclared_runFrom hsound rfl 1 hreplies

end

namespace Verification

open Outcome

variable {v : Verification} {settings : Settings} {network : Network} {s t : Session}

/-- Without a compiler no reply comes in that has not been there. -/
theorem Trace.replies_subset (hcompiler : v.compiler = none) {deeds : List Deed}
    (h : Trace v s deeds t) : t.replies ⊆ s.replies := by
  induction h with
  | quiet hquiet =>
    intro reply hreply
    rwa [hquiet.replies] at hreply
  | step hquiet hstep _ ih =>
    intro reply hreply
    rw [← hquiet.replies]
    have hmem := ih hreply
    cases hstep with
    | build hsome _ => rw [hcompiler] at hsome; cases hsome
    | check _ | submit _ _ _ | poll _ => exact List.mem_of_mem_tail hmem
    | wait => exact hmem

/-- Without a compiler the sleeps that come in are the waits among the deeds. -/
theorem Trace.slept_mem (hcompiler : v.compiler = none) {deeds : List Deed} {seconds : Binary64}
    (h : Trace v s deeds t) (hslept : .slept seconds ∈ t.actions) :
    .slept seconds ∈ s.actions ∨ .wait seconds ∈ deeds := by
  induction h with
  | quiet hquiet => exact Or.inl (hquiet.slept_mem hslept)
  | step hquiet hstep _ ih =>
    rcases ih hslept with hmem | hmem
    · cases hstep with
      | build hsome _ => rw [hcompiler] at hsome; cases hsome
      | check _ | submit _ _ _ | poll _ =>
        simp only [Session.sent, List.mem_append, List.mem_singleton, reduceCtorEq,
          or_false] at hmem
        exact Or.inl (hquiet.slept_mem hmem)
      | wait =>
        simp only [Session.waited, List.mem_append, List.mem_singleton, Action.slept.injEq] at hmem
        obtain hmem | rfl := hmem
        · exact Or.inl (hquiet.slept_mem hmem)
        · exact Or.inr List.mem_cons_self
    · exact Or.inr (List.mem_cons_of_mem _ hmem)

theorem eq_of_wait_mem_polls {address : Option Text} {interval seconds : Binary64} {count : Nat}
    (h : .wait seconds ∈ polls address interval count) : seconds = interval := by
  induction count with
  | zero => simp [polls] at h
  | succ count ih =>
    simp only [polls, List.mem_cons, reduceCtorEq, Move.wait.injEq, false_or] at h
    exact h.elim id ih

/-- All waits of a plan are as long as the settings say. -/
theorem eq_of_wait_mem_plan {jobId : Text} {waits : Nat} {seconds : Binary64}
    (h : .wait seconds ∈ v.plan settings s jobId waits) : seconds = settings.pollingInterval := by
  have hcheck : .wait seconds ∉ v.checkPlan settings := by
    rw [checkPlan]
    split <;> simp
  have hbuild : .wait seconds ∉ v.buildPlan s := by
    rw [buildPlan]
    split <;> simp
  simp only [plan, List.mem_append, hcheck, hbuild, false_or] at h
  split at h
  · simp only [jobPlan, List.mem_cons, reduceCtorEq, false_or] at h
    exact eq_of_wait_mem_polls h
  · cases h

/-- Where the interval can be waited, so can every sleep of a poll. -/
theorem awaitable_follow {jobId : Text} (hcompiler : v.compiler = none)
    (hinterval : settings.pollingInterval.IsAwaitable) :
    s.Awaitable (Session.run (Polling.follow settings v.network jobId v.ceiling) s).2 := by
  intro seconds hslept
  rcases run_follow_course v (Prod.eta _).symm with
      ⟨e, -, hquiet⟩ | ⟨root, deeds, count, -, htrace, hmoves, -, -⟩
  · exact Or.inl (hquiet.slept_mem hslept)
  refine (htrace.slept_mem hcompiler hslept).imp_right fun hwait => ?_
  have hmove : .wait seconds ∈ deeds.map Deed.move := List.mem_map_of_mem hwait
  rw [hmoves] at hmove
  rwa [eq_of_wait_mem_polls hmove]

theorem awaitable_run (hcompiler : v.compiler = none)
    (hinterval : settings.pollingInterval.IsAwaitable) :
    s.Awaitable (Session.run (v.run settings) s).2 := by
  intro seconds hslept
  obtain ⟨jobId, waits, deeds, hcourse, -⟩ :=
    run_course (Prod.eta (Session.run (v.run settings) s)).symm
  refine (hcourse.trace.slept_mem hcompiler hslept).imp_right fun hwait => ?_
  have hmove : .wait seconds ∈ deeds.map Deed.move := List.mem_map_of_mem hwait
  rwa [eq_of_wait_mem_plan (hcourse.planned.subset hmove)]

theorem isDeclared_checkPart (hnetwork : v.network = network.name)
    (hkey : ∀ c ∈ settings.apiKey, c.isAscii)
    (hclass : v.checkClass →
      network.Serves settings .internalApi .getClass v.classHash s.replies) :
    IsDeclared (Session.run (v.checkPart settings) s).1 := by
  rw [checkPart]
  split
  · next hcheck =>
    rw [checkStage, hnetwork]
    refine Session.isDeclared_bind
      (Dispatch.isDeclared_classExists hkey (hclass hcheck)) fun known t _ => ?_
    cases known with
    | true => exact isDeclared_ok _
    | false => exact isDeclared_failure _
  · exact isDeclared_ok _

/-- A job that is followed has been accepted by a reply that was there. -/
theorem exists_accepts_of_submit {jobId : Text}
    (h : Session.run (Dispatch.submit settings v.network v.classHash v.submission) s =
      (.ok jobId, t)) :
    (∃ r, .response r ∈ s.replies ∧ r.Accepts jobId) ∧ t.replies ⊆ s.replies := by
  rcases Dispatch.run_submit_cases h with
      ⟨e, he, -⟩ | ⟨root, call, u, form, -, -, hu, -, -, ht, hreply⟩
  · cases he
  obtain ⟨r, hhead, haccepts⟩ := hreply jobId rfl
  rw [hu.replies] at hhead
  refine ⟨⟨r, List.mem_of_mem_head? hhead, haccepts⟩, fun reply hmem => ?_⟩
  rw [ht.replies, Session.sent, hu.replies] at hmem
  exact List.mem_of_mem_tail hmem

theorem isDeclared_jobPart (hnetwork : v.network = network.name)
    (hceiling : 0 ≤ Polling.ceiling settings v.ceiling)
    (hkey : ∀ c ∈ settings.apiKey, c.isAscii) (hwritable : v.submission.IsWritable)
    (hsubmit : network.Serves settings .publicApi .verifyClass v.classHash s.replies)
    (hjobs : ∀ r jobId, .response r ∈ s.replies → r.Accepts jobId →
      network.Serves settings .publicApi .getJobStatus jobId s.replies) :
    IsDeclared (Session.run (v.jobPart settings) s).1 := by
  rw [jobPart]
  refine Session.isDeclared_bind ?_ fun jobId t hrun => ?_
  · rw [hnetwork]
    exact Dispatch.isDeclared_submit hkey hwritable hsubmit
  obtain ⟨⟨r, hmem, haccepts⟩, hleft⟩ := exists_accepts_of_submit hrun
  refine Session.isDeclared_bind ?_ fun record u _ => isDeclared_ok _
  rw [hnetwork]
  exact Polling.isDeclared_follow hkey hceiling ((hjobs r jobId hmem haccepts).mono hleft)

theorem isDeclared_run (hnetwork : v.network = network.name) (hcompiler : v.compiler = none)
    (hceiling : 0 ≤ Polling.ceiling settings v.ceiling)
    (hkey : ∀ c ∈ settings.apiKey, c.isAscii) (hwritable : v.submission.IsWritable)
    (hclass : v.checkClass →
      network.Serves settings .internalApi .getClass v.classHash s.replies)
    (hsubmit : network.Serves settings .publicApi .verifyClass v.classHash s.replies)
    (hjobs : ∀ r jobId, .response r ∈ s.replies → r.Accepts jobId →
      network.Serves settings .publicApi .getJobStatus jobId s.replies) :
    IsDeclared (Session.run (v.run settings) s).1 := by
  have hstages : IsDeclared (Session.run (v.stages settings) (s.bind v.scope)).1 := by
    rw [stages_eq]
    refine Session.isDeclared_bind (isDeclared_checkPart hnetwork hkey hclass)
      fun _ t hcheck => ?_
    obtain ⟨deeds, -, hcourse⟩ := checkPart_course hcheck
    have hleft := (hcourse []).1.trace.replies_subset hcompiler
    have hbuild : v.buildPart = pure () := by rw [buildPart, hcompiler]
    rw [hbuild, pure_bind]
    exact isDeclared_jobPart hnetwork hceiling hkey hwritable (hsubmit.mono hleft)
      fun r jobId hmem haccepts => (hjobs r jobId (hleft hmem) haccepts).mono hleft
  exact hstages

/-- A verification with its check, of one file. -/
def checkedVerification (path : Text) : Verification where
  network := "sepolia"
  classHash := "0x1"
  submission :=
    ⟨"MIT", "Hello", ⟨"2.8.4", "2.8.4", ".", "lib.cairo"⟩, [⟨"lib.cairo", .ofText path⟩]⟩
  checkClass := true

/-- An answer that finds the class. -/
def knownAnswer : Response where
  status := 200
  headers := []
  body := Utf8.bytesOf "\x7b\x7d"

/-- The class is known, the submission is taken, and the poll is sent to another place. -/
def movedSession : Session where
  replies :=
    [.response knownAnswer, .response acceptedAnswer,
      .response (Polling.redirectingAnswer "/elsewhere")]

/-- All replies of that session can be taken as ones to a request for an address, if the address
makes one together with the place that the last reply tells. -/
theorem isSound_movedSession {u place : Url} {t : Text}
    (hjoin : Url.join u.text "/elsewhere" = .ok t) (hplace : Url.ofText t = .ok place)
    (hshown : Host.shown place.host = .ok place.host) :
    ∀ reply ∈ movedSession.replies, reply.IsSound u := by
  have hmoved : (Polling.redirectingAnswer "/elsewhere").IsTraceable u := by
    intro text htext
    obtain rfl : Text.ofString "/elsewhere" = text := Option.some.inj htext
    exact Or.inr ⟨_, place, place.host, rfl, .relative rfl hjoin hplace, hshown,
      fun hscheme => (hscheme rfl).elim⟩
  simp only [movedSession, List.forall_mem_cons]
  exact ⟨⟨Response.isTraceable_of_location?_none rfl u, Response.isReadable_of_untyped rfl⟩,
    ⟨Response.isTraceable_of_location?_none rfl u, Response.isReadable_of_untyped rfl⟩,
    ⟨hmoved, Response.isReadable_of_untyped rfl⟩, fun _ => List.not_mem_nil.elim⟩

theorem eq_of_accepts_movedSession {r : Response} {jobId : Text}
    (hr : .response r ∈ movedSession.replies) (h : r.Accepts jobId) :
    jobId = Text.ofString "abc" := by
  simp only [movedSession, List.mem_cons, List.not_mem_nil, or_false, Reply.response.injEq] at hr
  rcases hr with rfl | rfl | rfl
  · have hreceipt : (knownAnswer.json?.bind fun value => (receiptOf value).toOption) = none := by
      decide +kernel
    exact absurd ((Response.accepts_iff.1 h).2.symm.trans hreceipt) (Option.some_ne_none _)
  · exact accepts_acceptedAnswer_iff.1 h
  · cases h.1

theorem isWritable_checkedVerification :
    (checkedVerification "lib.cairo").submission.IsWritable where
  fields := by
    simp only [checkedVerification, Submission.metadataFields, List.forall_mem_cons]
    refine ⟨?_, ?_, ?_, ?_, ?_, ?_, fun _ => List.not_mem_nil.elim⟩
    all_goals exact Text.isScalar_ofString _
  names := by
    intro file hfile
    obtain rfl := List.mem_singleton.1 hfile
    exact Text.isScalar_ofString _
  paths := by
    intro file hfile
    obtain rfl := List.mem_singleton.1 hfile
    exact ⟨by decide, by decide⟩

theorem sepolia_serves_class :
    Network.sepolia.Serves {} .internalApi .getClass "0x1" movedSession.replies where
  scalar := Text.isScalar_ofString _
  short := by
    intro root hroot
    obtain rfl : Text.ofString "https://sepolia.voyager.online" = root := Except.ok.inj hroot
    decide
  custom := nofun
  sound := by
    intro root u hroot hu
    obtain rfl : Text.ofString "https://sepolia.voyager.online" = root := Except.ok.inj hroot
    obtain rfl : Url.mk "https" [] "sepolia.voyager.online" none "/api/class/0x1" none none =
      u := Except.ok.inj hu
    exact isSound_movedSession rfl rfl rfl

theorem sepolia_serves_public {e : Endpoint} {p : String} (path : String)
    (hlength : (e.address "https://sepolia-api.voyager.online/beta" p).length ≤ Url.lengthLimit)
    (htarget : Url.target (e.address "https://sepolia-api.voyager.online/beta" p) =
      .ok ⟨"https", [], "sepolia-api.voyager.online", none, path, none, none⟩)
    (hjoin : Url.join (Url.mk "https" [] "sepolia-api.voyager.online" none path none none).text
      "/elsewhere" = .ok "https://sepolia-api.voyager.online/elsewhere") :
    Network.sepolia.Serves {} .publicApi e p movedSession.replies where
  scalar := Text.isScalar_ofString _
  short := by
    intro root hroot
    obtain rfl : Text.ofString "https://sepolia-api.voyager.online/beta" = root :=
      Except.ok.inj hroot
    exact hlength
  custom := nofun
  sound := by
    intro root u hroot hu
    obtain rfl : Text.ofString "https://sepolia-api.voyager.online/beta" = root :=
      Except.ok.inj hroot
    obtain rfl := Except.ok.inj (htarget.symm.trans hu)
    exact isSound_movedSession hjoin rfl rfl

end Verification

end ClassVerification
