import ClassVerification.Proofs.Api.Request
import ClassVerification.Proofs.Polling.Round

/-! Following a job, from the point on where the request of its polls can be built. -/
namespace ClassVerification.Polling

/-- The request of the polls of a job can be built, and this is it: the network has a public address
that names a host, and key and job id can be written. -/
def Sendable (settings : Settings) (network jobId : Text) (call : Call) : Prop :=
  ∃ root client, Network.rootOf network .publicApi settings = .ok root ∧
    Client.create root settings = .ok client ∧
    client.prepare .get .getJobStatus jobId [] = .ok call ∧ call.request.url.isAbsolute

/-- The polls of a job whose request is built, under a ceiling. -/
def pollFor (settings : Settings) (jobId : Text) (call : Call) (ceiling : Int) : Poll where
  jobId
  call
  interval := settings.pollingInterval
  last := if settings.usePollingCeiling then some (ceiling.toNat + 1) else none

/-- What the log is told when a job begins to be followed. -/
def startNote (settings : Settings) (network jobId : Text) (ceiling : Int) : Action :=
  .logged ⟨.info, Poll.logger, "poll.start", startFields settings network jobId ceiling⟩

theorem isNote_startNote {settings : Settings} {network jobId : Text} {ceiling : Int} :
    (startNote settings network jobId ceiling).IsNote := Poll.isNote_logged (by decide)

variable {settings : Settings} {network jobId : Text} {given : Option Int} {call : Call}
  {client : Client}

theorem Sendable.method (h : Sendable settings network jobId call) :
    call.request.method = .get := by
  obtain ⟨root, client, _, hclient, hcall, _⟩ := h
  exact (Client.prepare_eq_ok hclient hcall).1.method

theorem Sendable.isAbsolute (h : Sendable settings network jobId call) :
    call.request.url.isAbsolute := by
  obtain ⟨_, _, _, _, _, habsolute⟩ := h
  exact habsolute

/-- A negative ceiling is refused before anything else is done. -/
theorem run_follow_of_neg (h : ceiling settings given < 0) (s : Session) :
    Session.run (follow settings network jobId given) s =
      (.error (.fault (.negativeCeiling (ceiling settings given))), s) := by
  simp [follow, h, Session.run_bind]

theorem pollOf_eq_ok {ceiling : Int} (h : client.prepare .get .getJobStatus jobId [] = .ok call) :
    pollOf settings client jobId ceiling = .ok (pollFor settings jobId call ceiling) := by
  simp [pollOf, h, Except.map, pollFor]

theorem run_follow (h : Sendable settings network jobId call)
    (hceiling : 0 ≤ ceiling settings given) (s : Session) :
    Session.run (follow settings network jobId given) s =
      let start := s.record [startNote settings network jobId (ceiling settings given)]
      let talk := (pollFor settings jobId call (ceiling settings given)).run s.replies
      (talk.outcome, start.afterTalk talk) := by
  obtain ⟨root, client, hroot, hclient, hcall, _⟩ := h
  have hnonneg : ¬ ceiling settings given < 0 := by omega
  simp only [follow, hnonneg, if_false, Session.run_bind, Session.run_addressOf, hroot,
    Session.run_log, Session.run_orFault, hclient, pollOf_eq_ok hcall, Outcome.mapError_ok,
    Session.run_converse, Session.replies_record, startNote]

/-- Settings under which the ceiling holds. -/
def sampleSettings : Settings := { usePollingCeiling := true }

/-- The call that asks for one job on the test network. -/
def sampleCall : Call where
  request := {
    method := .get
    url := {
      scheme := "https", userInfo := [], host := "sepolia-api.voyager.online", port := none
      path := "/beta/class-verify/job/abc", query := none, fragment := none }
    contentType := none
    body := []
    apiKey := none
    timeout := sampleSettings.httpTimeout }
  written := "https://sepolia-api.voyager.online/beta/class-verify/job/abc"

theorem sendable_sampleCall : Sendable sampleSettings "sepolia" "abc" sampleCall :=
  ⟨_, _, rfl, rfl, rfl, rfl⟩

/-- A response that tells of a job whose status is spelled so. -/
def sampleResponse (status : Text) : Response where
  status := 200
  headers := []
  body := Utf8.bytesOf
    ("\x7b\"job_id\":\"abc\",\"class_hash\":\"0x1\",\"status\":" ++ status ++ "\x7d")

end ClassVerification.Polling
