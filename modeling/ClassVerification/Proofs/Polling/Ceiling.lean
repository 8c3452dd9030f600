import ClassVerification.Proofs.Polling.Follow

/-! How many requests and waits a ceiling allows, counted along every script of responses. -/
namespace ClassVerification

/-- What a poll is measured by: its requests, the waits it announces, and its sleeps. Whatever else
is done to the outside counts too. -/
inductive Mark where
  | requested (request : Request)
  | waiting (retries : Option Json)
  | slept (seconds : Binary64)
  | other
deriving Repr

/-- The mark of an action, if it has one. -/
def Action.mark? : Action → Option Mark
  | .requested request => some (.requested request)
  | .slept seconds => some (.slept seconds)
  | .logged e =>
    if e.event = Poll.waitingEvent then some (.waiting (e.fields.get? "retries")) else none
  | .ran _ | .compiled _ | .noticed _ => some .other

namespace Polling

/-- A request, an announcement and a sleep for each wait, the announcements numbered. -/
def waits (request : Request) (interval : Binary64) (first count : Nat) : List Mark :=
  (List.range' first count).flatMap fun (retries : Nat) =>
    [.requested request, .waiting (some (.int retries)), .slept interval]

/-- A number of waits between one more request than that. -/
def rounds (request : Request) (interval : Binary64) (count : Nat) : List Mark :=
  waits request interval 1 count ++ [.requested request]

/-- The marks of actions as they are recorded in a context. -/
def marks (context : Members Json) (actions : List Action) : List Mark :=
  (actions.map (Action.inContext context)).filterMap Action.mark?

variable {p : Poll} {m : JobMachine} {attempt : Nat} {context : Members Json}
  {request : Request} {interval : Binary64} {notes actions : List Action} {record : JobRecord}

theorem waits_succ (first count : Nat) :
    waits request interval first (count + 1) =
      [.requested request, .waiting (some (.int first)), .slept interval] ++
        waits request interval (first + 1) count := by
  simp [waits, List.range'_succ]

theorem marks_append (first second : List Action) :
    marks context (first ++ second) = marks context first ++ marks context second := by
  simp [marks]

theorem marks_notes (h : ∀ a ∈ notes, a.IsNote) : marks context notes = [] := by
  simp only [marks, List.filterMap_map, List.filterMap_eq_nil_iff]
  intro a ha
  obtain ⟨e, rfl, he⟩ := h a ha
  simp [Action.inContext, Action.mark?, LogEvent.inContext, he]

theorem marks_requested (h : ∀ a ∈ notes, a.IsNote) :
    marks context (.requested request :: notes) = [.requested request] := by
  have hnotes : marks context notes = [] := marks_notes h
  simp only [marks] at hnotes
  simp [marks, Action.inContext, Action.mark?, hnotes]

/-- The field that numbers a wait is the event's own, whatever is bound around it. -/
theorem marks_waiting :
    marks context (p.waiting attempt record) =
      [.waiting (some (.int attempt)), .slept p.interval] := by
  have hwaiting : Text.ofString "poll.waiting" = Poll.waitingEvent := rfl
  have hother : Text.ofString "job_id" ≠ Text.ofString "retries" := by decide
  simp [marks, Poll.waiting, Action.inContext, Action.mark?, LogEvent.inContext, hwaiting,
    Members.get?, hother]

/-- While the answers are pending and the ceiling is not reached, each takes one round. -/
theorem runFrom_append (front : List Response) (rest : List Reply) (hm : m.isTerminal = false)
    (habsolute : p.call.request.url.isAbsolute) (hfront : ∀ r ∈ front, r.isPending)
    (hlast : ∀ last, p.last = some last → attempt + front.length ≤ last) :
    ∃ n actions, n.isTerminal = false ∧
      (∀ context, marks context actions =
        waits p.call.request p.interval attempt front.length) ∧
      p.runFrom m attempt (front.map .response ++ rest) =
        (p.runFrom n (attempt + front.length) rest).after actions := by
  induction front generalizing m attempt with
  | nil => exact ⟨m, [], hm, fun _ => rfl, rfl⟩
  | cons r front ih =>
    obtain ⟨notes, hnotes, ⟨outcome, hc, -⟩ | ⟨_, -, -, ⟨hgiven, -⟩ | ⟨-, n, record, hn, hrun⟩⟩⟩ :=
      Poll.runFrom_cons (p := p) hm attempt (.response r) (front.map .response ++ rest)
    · exact (not_concludes_of_isPending habsolute (hfront r (by simp)) hc).elim
    · have hle := hlast attempt hgiven
      rw [List.length_cons] at hle
      omega
    · have hnext : ∀ last, p.last = some last → attempt + 1 + front.length ≤ last := by
        intro last hl
        have hle := hlast last hl
        rw [List.length_cons] at hle
        omega
      obtain ⟨k, actions, hk, hmarks, hrest⟩ := ih hn (fun r hr => hfront r (by simp [hr])) hnext
      refine ⟨k, .requested p.call.request :: notes ++ p.waiting attempt record ++ actions, hk,
        ?_, ?_⟩
      · intro context
        rw [marks_append, marks_append, marks_requested hnotes, marks_waiting, hmarks,
          List.length_cons, waits_succ]
        rfl
      · have hlength : attempt + 1 + front.length = attempt + (front.length + 1) := by omega
        rw [List.map_cons, List.cons_append, hrun, hrest, List.length_cons, hlength]
        simp [Transcript.after]

/-- A run to the end: rounds for the pending answers, and one last request. The answer to that one
decides the outcome, unless it is pending too and the ceiling is reached. -/
theorem run_rounds {n : Nat} (front : List Response) (r : Response) (rest : List Reply)
    (habsolute : p.call.request.url.isAbsolute) (hlast : p.last = some (n + 1))
    (hfront : ∀ r ∈ front, r.isPending) (hle : front.length ≤ n)
    (hend : r.isPending → front.length = n) :
    let talk := p.run (front.map .response ++ .response r :: rest)
    (∀ context, marks context talk.actions =
        rounds p.call.request p.interval front.length) ∧
      talk.left = rest ∧
      (r.isPending → talk.outcome = .error (.failure (.timedOut p.jobId (n + 1)))) ∧
      (r.isPending = false → Concludes p.jobId p.call (.response r) talk.outcome) := by
  have hceiling : ∀ last, p.last = some last → 1 + front.length ≤ last := by
    intro last hl
    obtain rfl := Option.some.inj (hlast.symm.trans hl)
    omega
  obtain ⟨m, actions, hm, hmarks, hrun⟩ := runFrom_append (p := p) (m := {}) front
    (.response r :: rest) rfl habsolute hfront hceiling
  obtain ⟨notes, hnotes, hround⟩ :=
    Poll.runFrom_cons (p := p) hm (1 + front.length) (.response r) rest
  have hfinal : ∀ context, marks context (actions ++ .requested p.call.request :: notes) =
      rounds p.call.request p.interval front.length := by
    intro context
    rw [marks_append, hmarks, marks_requested hnotes, rounds]
  simp only [Poll.run, hrun]
  rcases hround with ⟨outcome, hc, h⟩ | ⟨_, heq, hp, hround⟩
  · rw [h]
    refine ⟨hfinal, rfl, fun hp => ?_, fun _ => hc⟩
    exact (not_concludes_of_isPending habsolute hp hc).elim
  · cases heq
    have hattempt : 1 + front.length = n + 1 := by
      have := hend hp
      omega
    rcases hround with ⟨-, h⟩ | ⟨hnext, -⟩
    · rw [h, hattempt]
      refine ⟨hfinal, rfl, fun _ => rfl, fun hn => ?_⟩
      simp [hp] at hn
    · exact (hnext (hattempt ▸ hlast)).elim

/-- The leading pending responses of a script, and a rest that begins with another one. -/
theorem pending_split (responses : List Response) :
    ∃ front rest, responses.takeWhile Response.isPending = front ∧
      (∀ r ∈ front, r.isPending) ∧ responses = front ++ rest ∧
      ∀ r, rest.head? = some r → r.isPending = false := by
  refine ⟨_, responses.dropWhile Response.isPending, rfl, List.all_eq_true.1 List.all_takeWhile,
    List.takeWhile_append_dropWhile.symm, ?_⟩
  intro r hr
  have hhead := List.head?_dropWhile_not Response.isPending responses
  rwa [hr] at hhead

/-- Under a ceiling of `n` the poll asks at most `n + 1` times, always for the same address, and
sleeps the interval between two requests and nowhere else, each sleep announced by its number. If
the first `n + 1` responses are pending it gives up, the rest of the script unread; else it ends
with what the first other response means. -/
theorem follow_ceiling_exact {settings : Settings} {network jobId : Text} {given : Option Int}
    {call : Call} {n : Nat} (hcall : Sendable settings network jobId call)
    (hflag : settings.usePollingCeiling) (hceiling : ceiling settings given = n)
    (s : Session) (responses : List Response) (hscript : s.replies = responses.map .response) :
    let k := (responses.takeWhile Response.isPending).length
    ∃ outcome after new, Session.run (follow settings network jobId given) s = (outcome, after) ∧
      after.actions = s.actions ++ new ∧ call.request.method = .get ∧
      (n + 1 ≤ k →
        new.filterMap Action.mark? = rounds call.request settings.pollingInterval n ∧
        outcome = .error (.failure (.timedOut jobId (n + 1))) ∧
        after.replies = s.replies.drop (n + 1)) ∧
      (∀ last, k ≤ n → responses[k]? = some last →
        new.filterMap Action.mark? = rounds call.request settings.pollingInterval k ∧
        Concludes jobId call (.response last) outcome ∧
        after.replies = s.replies.drop (k + 1)) := by
  intro k
  have hnonneg : 0 ≤ ceiling settings given := by omega
  have hlast : (pollFor settings jobId call n).last = some (n + 1) := by simp [pollFor, hflag]
  have htalk (front rest : List Response) (r : Response) (hs : responses = front ++ r :: rest)
      (hfront : ∀ r ∈ front, r.isPending) (hle : front.length ≤ n)
      (hend : r.isPending → front.length = n) :
      let talk := (pollFor settings jobId call n).run s.replies
      marks s.context (startNote settings network jobId n :: talk.actions) =
          rounds call.request settings.pollingInterval front.length ∧
        talk.left = s.replies.drop (front.length + 1) ∧
        (r.isPending → talk.outcome = .error (.failure (.timedOut jobId (n + 1)))) ∧
        (r.isPending = false → Concludes jobId call (.response r) talk.outcome) := by
    have hreplies : s.replies = front.map .response ++ .response r :: rest.map .response := by
      simp [hscript, hs]
    obtain ⟨hmarks, hleft, hout⟩ := run_rounds (p := pollFor settings jobId call n) front r
      (rest.map .response) hcall.isAbsolute hlast hfront hle hend
    rw [hreplies]
    refine ⟨?_, ?_, hout⟩
    · rw [← List.singleton_append, marks_append, marks_notes, hmarks, List.nil_append]
      · rfl
      · simpa using isNote_startNote
    · rw [hleft, List.drop_append]
      simp
  obtain ⟨front, rest, hfront, hpending, hsplit, hrest⟩ := pending_split responses
  have hlength : k = front.length := congrArg List.length hfront
  have hrun := run_follow hcall hnonneg s
  rw [hceiling] at hrun
  refine ⟨_, _, _, hrun, Session.actions_afterTalk_record .., hcall.method, fun hk => ?_,
    fun last hk hnext => ?_⟩
  · have hn : n < front.length := by omega
    have hsplit : responses = front.take n ++ front[n] :: (front.drop (n + 1) ++ rest) := by
      rw [← List.cons_append, ← List.drop_eq_getElem_cons hn, ← List.append_assoc,
        List.take_append_drop, hsplit]
    have htake : (front.take n).length = n := List.length_take_of_le (Nat.le_of_lt hn)
    obtain ⟨hmarks, hleft, htimeout, -⟩ := htalk _ _ _ hsplit
      (fun r hr => hpending r (List.mem_of_mem_take hr)) (Nat.le_of_eq htake) (fun _ => htake)
    rw [htake] at hmarks hleft
    exact ⟨hmarks, htimeout (hpending _ (List.getElem_mem hn)), hleft⟩
  · rw [hlength] at hk hnext ⊢
    rw [hsplit, List.getElem?_append_right (Nat.le_refl _), Nat.sub_self,
      ← List.head?_eq_getElem?] at hnext
    obtain ⟨rest, rfl⟩ := List.head?_eq_some_iff.1 hnext
    have hother := hrest last hnext
    obtain ⟨hmarks, hleft, -, hconcludes⟩ := htalk front rest last hsplit hpending hk
      (fun hp => by simp [hother] at hp)
    exact ⟨hmarks, hconcludes hother, hleft⟩

/-- With a ceiling of one, two pending answers are one too many, and the third is left unread. -/
theorem follow_gives_up_at_ceiling :
    let pending := sampleResponse "0"
    let s : Session := { replies := [.response pending, .response pending, .response pending] }
    ∃ outcome after, Session.run (follow sampleSettings "sepolia" "abc" (some 1)) s =
        (outcome, after) ∧
      outcome = .error (.failure (.timedOut "abc" 2)) ∧ after.replies = [.response pending] ∧
      after.actions.filterMap Action.mark? =
        rounds sampleCall.request sampleSettings.pollingInterval 1 := by
  intro pending s
  have hpending : pending.isPending := by decide +kernel
  have hk : 1 + 1 ≤ ([pending, pending, pending].takeWhile Response.isPending).length := by
    simp [hpending]
  obtain ⟨outcome, after, new, hrun, hnew, -, htimeout, -⟩ :=
    follow_ceiling_exact (n := 1) sendable_sampleCall rfl
      (rfl : ceiling sampleSettings (some 1) = 1) s [pending, pending, pending] rfl
  obtain ⟨hmarks, houtcome, hleft⟩ := htimeout hk
  refine ⟨outcome, after, hrun, houtcome, hleft, ?_⟩
  rw [hnew]
  exact hmarks

end Polling

end ClassVerification
