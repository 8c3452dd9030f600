import ClassVerification.Proofs.Api.Keyed
import ClassVerification.Proofs.Polling.Follow
import ClassVerification.Proofs.Toolchain.Local
import ClassVerification.Proofs.Verification.Announced

/-! A verification makes no other use of its key than to send it along with each request. -/
namespace ClassVerification

open SessionM

variable {flaw : Option Unencodable} {key : Text}

namespace Poll

variable {p : Poll} {m : JobMachine} {r : Response}

/-- The same poll with a key. -/
def carrying (key : Text) (p : Poll) : Poll := { p with call := p.call.carrying key }

theorem isLogged_of_inspect : ∀ a ∈ (p.inspect m r).1, a.IsLogged := by
  simp only [inspect, follow]
  repeat' split
  all_goals simp [statusEvent, Action.IsLogged]

/-- A round finds the same with each key, and its request carries the key. -/
theorem receive_carrying (p : Poll) (m : JobMachine) (reply : Reply) :
    (p.carrying key).receive m reply =
      ((p.receive m reply).1.map (Action.carrying key), (p.receive m reply).2) := by
  have hreceive : (p.carrying key).call.receive reply = p.call.receive reply :=
    p.call.receive_carrying reply
  have hnotes : (p.call.receive reply).1.map (Action.carrying key) = (p.call.receive reply).1 :=
    Action.map_carrying_of_isLogged Call.isLogged_of_receive
  simp only [receive, hreceive]
  cases (p.call.receive reply).2 with
  | error e => simp [hnotes, Action.carrying, carrying, Call.carrying]
  | ok response =>
    have hevents : (p.inspect m response).1.map (Action.carrying key) = (p.inspect m response).1 :=
      Action.map_carrying_of_isLogged isLogged_of_inspect
    have hinspect : (p.carrying key).inspect m response = p.inspect m response := rfl
    simp only [hinspect]
    simp [hnotes, hevents, Action.carrying, carrying, Call.carrying]

/-- All rounds go the same way with each key, by induction on the replies that are left. -/
theorem runFrom_carrying (p : Poll) (m : JobMachine) (attempt : Nat) (replies : List Reply) :
    (p.carrying key).runFrom m attempt replies =
      { p.runFrom m attempt replies with
        actions := (p.runFrom m attempt replies).actions.map (Action.carrying key) } := by
  induction replies generalizing m attempt with
  | nil => rfl
  | cons reply rest ih =>
    simp only [runFrom, receive_carrying]
    cases p.receive m reply with
    | mk actions finding =>
      cases finding with
      | settled outcome => rfl
      | pending next record =>
        have hlast : (p.carrying key).last = p.last := rfl
        simp only [hlast]
        split
        · simp [givingUp, Action.carrying, carrying]
        · rw [ih]
          simp [Transcript.after, waiting, Action.carrying, carrying]

end Poll

theorem isBlind_addressOf (settings : Settings) (network : Text) (i : Network.Interface) :
    IsBlind flaw fun key =>
      Network.addressOf (.text network) i (some { settings with apiKey := key }) :=
  isBlind_of_run_eq (Network.rootOf network i settings) fun _ _ => Session.run_addressOf ..

theorem Polling.pollOf_carrying (settings : Settings) (client : Client) (jobId : Text)
    (ceiling : Int) : pollOf settings (client.carrying key) jobId ceiling =
      (pollOf settings client jobId ceiling).map (Poll.carrying key) := by
  simp only [pollOf, Client.prepare_carrying]
  cases client.prepare .get .getJobStatus jobId [] <;> rfl

theorem Polling.isBlind_follow (settings : Settings) (network jobId : Text) (given : Option Int) :
    IsBlind flaw fun key => follow { settings with apiKey := key } network jobId given := by
  have hceiling (key : Text) :
      ceiling { settings with apiKey := key } given = ceiling settings given := rfl
  by_cases hneg : ceiling settings given < 0
  · -- refused before the key is looked at
    refine isBlind_of_run_eq (.error (.fault (.negativeCeiling (ceiling settings given))))
      fun key s => ?_
    rw [run_follow_of_neg ((hceiling key).symm ▸ hneg), hceiling]
  have hfollow (key : Text) : follow { settings with apiKey := key } network jobId given = (do
      let root ← Network.addressOf (.text network) .publicApi (some { settings with apiKey := key })
      log .info Poll.logger "poll.start"
        (startFields settings network jobId (ceiling settings given))
      let client ← orFault (Client.create root { settings with apiKey := key })
      let poll ← orFault (pollOf settings client jobId (ceiling settings given))
      converse poll.run) := if_neg hneg
  simp only [hfollow]
  refine Forwards.bind (isBlind_addressOf settings network .publicApi) fun root => ?_
  refine isBlind_log.bind fun _ => ?_
  refine (Client.forwards_create root settings).bind fun client => ?_
  refine Forwards.bind (forwards_orFault (pollOf settings client jobId _) fun key _ =>
    pollOf_carrying settings client jobId _) fun poll => ?_
  exact isBlind_converse poll.run fun key replies => poll.runFrom_carrying {} 1 replies

namespace Dispatch

theorem isBlind_decision {decision : Decision} (h : ∀ a ∈ decision.1, a.IsLogged) :
    IsBlind flaw fun _ => (do
      record decision.1
      SessionM.ofExcept decision.2 : SessionM Text) :=
  (isBlind_record (Action.no_request_of_isLogged h)).bind fun _ => isBlind_ofExcept _

theorem isBlind_submit (settings : Settings) (network classHash : Text) (submission : Submission) :
    IsBlind flaw fun key =>
      submit { settings with apiKey := key } network classHash submission := by
  refine Forwards.bind (isBlind_addressOf settings network .publicApi) fun root => ?_
  refine Forwards.get_bind (fun key s context actions => ?_) fun s => ?_
  · dsimp only
    rw [submission.formFields_congr (s := s) (t := { s with context, actions }) rfl rfl]
  refine (isBlind_ofExcept _).bind fun fields => ?_
  refine isBlind_log.bind fun _ => ?_
  refine (Client.forwards_create root settings).bind fun client => ?_
  refine (Client.forwards_send client _ _ _ _).bind fun answer => ?_
  exact isBlind_decision isLogged_of_decide

/-- Whether a class is known hangs on the key as little as what is sent. -/
theorem isBlind_classExists (settings : Settings) (network classHash : Text) :
    IsBlind flaw fun key => classExists { settings with apiKey := key } network classHash := by
  refine Forwards.bind (isBlind_addressOf settings network .internalApi) fun root => ?_
  refine (Client.forwards_create root settings).bind fun client => ?_
  refine (Client.forwards_send client _ _ _ _).bind fun answer => ?_
  obtain ⟨call, response⟩ := answer
  dsimp only [Prod.map_apply, id_eq]
  split
  · exact isBlind_pure true
  · split
    · exact isBlind_pure false
    · exact isBlind_ofExcept _

end Dispatch

namespace Verification

theorem isBlind_compileStage (v : Verification) {c : Compiler} (hc : c.IsLocal) :
    IsBlind flaw fun _ => v.compileStage c := by
  have hbuild : IsBlind flaw fun _ => (do
      let folder := v.projectFolder (← get)
      log .info logger "verification.compiling" [("project", .text folder.text)]
      c.compileProject folder : SessionM Unit) :=
    Forwards.get_bind (fun _ _ _ _ => rfl) fun s =>
      isBlind_log.bind fun _ => (hc _).isBlind
  unfold compileStage
  dsimp only
  split
  · exact (isBlind_fail _).bind fun _ => hbuild
  · exact hbuild

theorem isBlind_checkPart (v : Verification) (settings : Settings) :
    IsBlind flaw fun key => v.checkPart { settings with apiKey := key } := by
  unfold checkPart
  split
  · refine (Dispatch.isBlind_classExists settings v.network v.classHash).bind fun known => ?_
    cases known with
    | true => exact isBlind_pure ()
    | false => exact isBlind_fail _
  · exact isBlind_pure ()

theorem isBlind_buildPart (v : Verification) (hcompiler : ∀ c, v.compiler = some c → c.IsLocal) :
    IsBlind flaw fun _ => v.buildPart := by
  unfold buildPart
  split
  · next c hc => exact isBlind_compileStage v (hcompiler c hc)
  · exact isBlind_pure ()

theorem isBlind_jobPart (v : Verification) (settings : Settings) :
    IsBlind flaw fun key => v.jobPart { settings with apiKey := key } := by
  refine (Dispatch.isBlind_submit settings v.network v.classHash v.submission).bind fun jobId => ?_
  refine (Polling.isBlind_follow settings v.network jobId v.ceiling).bind fun job => ?_
  exact isBlind_log.bind fun _ => isBlind_pure job

/-- The stages of a verification end alike and do alike for all keys with the same flaw. -/
theorem isBlind_stages (v : Verification) (settings : Settings)
    (hcompiler : ∀ c, v.compiler = some c → c.IsLocal) :
    IsBlind flaw fun key => v.stages { settings with apiKey := key } := by
  simp only [stages_eq]
  exact (isBlind_checkPart v settings).bind fun _ =>
    (isBlind_buildPart v hcompiler).bind fun _ => isBlind_jobPart v settings

/-- A verification does what its stages do. Its fields are bound while it runs, and none of their
names is bound after it. -/
theorem run_of_does {v : Verification} {settings : Settings} {s t : Session}
    {outcome : Except Error JobRecord} {deeds : List Action}
    (h : Does (v.stages settings) s outcome t deeds) (context : Members Json)
    (actions : List Action) :
    Session.run (v.run settings) { s with context, actions } =
      (outcome, { t with
        context := Members.dropKeys scopeNames (Members.putAll context v.scope)
        actions := actions ++ deeds.map (Action.inContext (Members.putAll context v.scope)) }) := by
  rw [run, run_inScope]
  have hstages := h (Members.putAll context v.scope) actions
  simp only [Session.bind]
  rw [hstages]
  rfl

/-- Whatever a verification is given, it ends alike with all keys that a header can hold, leads to
the same session and does the same, one thing apart: each of its requests carries the key in its
header, or has no such header where the key is empty. -/
theorem key_shows_in_headers_only (v : Verification) (settings : Settings) (s : Session)
    (hcompiler : ∀ c, v.compiler = some c → c.IsLocal) :
    ∃ (outcome : Except Error JobRecord) (t : Session) (deeds : List Action),
      ∀ key : Text, (∀ c ∈ key, c.isAscii) →
        Session.run (v.run { settings with apiKey := key }) s =
            (outcome, { t with actions := s.actions ++ deeds.map (Action.carrying key) }) ∧
          ∀ request, .requested request ∈ deeds.map (Action.carrying key) →
            request.apiKey = if key = [] then none else some key := by
  obtain ⟨outcome, t, deeds, hdoes⟩ := isBlind_stages v settings hcompiler s
  let bound := Members.putAll s.context v.scope
  refine ⟨outcome, { t with context := Members.dropKeys scopeNames bound },
    deeds.map (Action.inContext bound), fun key hascii => ⟨?_, fun request hmem => ?_⟩⟩
  · have hkey : keyFlaw? key = none := Unencodable.find_eq_none_iff.2 hascii
    have hrun := run_of_does (hdoes key hkey) s.context s.actions
    have hswap : (deeds.map (Action.carrying key)).map (Action.inContext bound) =
        (deeds.map (Action.inContext bound)).map (Action.carrying key) := by
      simp only [List.map_map]
      exact List.map_congr_left fun a _ => a.inContext_carrying bound key
    rw [Except.map_id, hswap] at hrun
    exact hrun
  · exact Action.apiKey_of_mem_carrying hmem

theorem isLocal_of_compiler_builtVerification (c : Compiler)
    (h : builtVerification.compiler = some c) : c.IsLocal := by
  cases h
  exact Toolchain.sampleToolchain.isLocal_compiler

/-- The sample, which is built and sent, does the same without a key and with one; its submission
carries the key. -/
theorem built_sample_shows_its_key :
    (∀ c, builtVerification.compiler = some c → c.IsLocal) ∧
      ∃ (outcome : Except Error JobRecord) (t : Session) (deeds : List Action) (request : Request),
        Session.run (builtVerification.run {}) builtSession =
          (outcome, { t with actions := deeds.map (Action.carrying []) }) ∧
        Session.run (builtVerification.run { apiKey := "secret" }) builtSession =
          (outcome, { t with actions := deeds.map (Action.carrying "secret") }) ∧
        .requested request ∈ deeds.map (Action.carrying "secret") ∧ request.method = .post ∧
        request.apiKey = some "secret" := by
  have hcompiler := isLocal_of_compiler_builtVerification
  obtain ⟨outcome, t, deeds, hkeys⟩ :=
    key_shows_in_headers_only builtVerification {} builtSession hcompiler
  obtain ⟨hempty, -⟩ := hkeys [] (by simp)
  obtain ⟨hsecret, hheaders⟩ := hkeys "secret" (by decide)
  obtain ⟨other, u, sent, hrun, ⟨new, hnew, hmem⟩, hpost⟩ := exists_built_run
  obtain ⟨rfl, rfl⟩ := Prod.mk.inj (hempty.symm.trans hrun)
  obtain rfl : deeds.map (Action.carrying []) = new := hnew
  obtain ⟨a, ha, heq⟩ := List.mem_map.1 hmem
  cases a with
  | requested request =>
    cases heq
    have hcarried : Action.requested (request.carrying "secret") ∈
        deeds.map (Action.carrying "secret") := List.mem_map_of_mem ha
    exact ⟨hcompiler, outcome, t, deeds, _, hempty, hsecret, hcarried, hpost,
      hheaders _ hcarried⟩
  | slept _ | ran _ | compiled _ | logged _ | noticed _ => cases heq

end Verification

end ClassVerification
