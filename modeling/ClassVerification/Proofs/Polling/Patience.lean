import ClassVerification.Proofs.Polling.Ceiling

/-! A ceiling decides when a poll gives up and nothing else: two polls that differ in their ceilings
go the same way until the one with the lower ceiling gives up. -/
namespace ClassVerification

namespace Polling

variable {jobId : Text} {attempts count : Nat} {replies rest : List Reply}
  {talk other : Transcript JobRecord}

/-- A conversation that gives a job up after a number of pending answers, where another does the
same and maybe more. -/
structure GivesUp (jobId : Text) (attempts count : Nat) (replies : List Reply)
    (talk other : Transcript JobRecord) : Prop where
  outcome : talk.outcome = .error (.failure (.timedOut jobId attempts))
  pending : ∃ front : List Response, front.length = count ∧ (∀ r ∈ front, r.isPending) ∧
    replies = front.map .response ++ talk.left
  marks : ∀ context, marks context talk.actions <+: marks context other.actions

/-- A round more before both. -/
theorem GivesUp.after {r : Response} (h : GivesUp jobId attempts count rest talk other)
    (hr : r.isPending) (actions : List Action) :
    GivesUp jobId attempts (count + 1) (.response r :: rest) (talk.after actions)
      (other.after actions) where
  outcome := h.outcome
  pending := by
    obtain ⟨front, hcount, hfront, hreplies⟩ := h.pending
    refine ⟨r :: front, by simp [hcount], List.forall_mem_cons.2 ⟨hr, hfront⟩, ?_⟩
    rw [hreplies]
    rfl
  marks := by
    intro context
    rw [Transcript.after, Transcript.after, marks_append, marks_append]
    exact List.prefix_append_right_inj _ |>.2 (h.marks context)

end Polling

namespace Poll

open Polling

variable {p : Poll} {m : JobMachine} {attempt limit : Nat} {last : Option Nat}

/-- The same poll under another ceiling. -/
def upTo (p : Poll) (last : Option Nat) : Poll := { p with last }

/-- What a reply comes to does not hang on the ceiling. -/
theorem receive_upTo (reply : Reply) : (p.upTo last).receive m reply = p.receive m reply := rfl

/-- A round that finds the job pending is the last one under a ceiling, or it is followed by the
others under the same ceiling. -/
theorem runFrom_of_pending {n : JobMachine} {reply : Reply} {actions : List Action}
    {record : JobRecord} (h : p.receive m reply = (actions, .pending n record))
    (last : Option Nat) (rest : List Reply) :
    (p.upTo last).runFrom m attempt (reply :: rest) =
      if last = some attempt then
        ⟨actions ++ [p.givingUp attempt], .error (.failure (.timedOut p.jobId attempt)), rest⟩
      else ((p.upTo last).runFrom n (attempt + 1) rest).after
        (actions ++ p.waiting attempt record) := by
  simp only [runFrom, receive_upTo, h]
  rfl

theorem marks_givingUp (p : Poll) (context : Members Json) (actions : List Action) :
    marks context (actions ++ [p.givingUp attempt]) = marks context actions := by
  have hnote : marks context [p.givingUp attempt] = [] :=
    marks_notes fun _ => isNote_of_mem_singleton (by decide)
  rw [marks_append, hnote, List.append_nil]

/-- From any attempt on, a poll gives up at its ceiling, or it is the same conversation under every
ceiling that is no lower, and under none. -/
theorem runFrom_upTo (hm : m.isTerminal = false) (hle : attempt ≤ limit)
    (hlast : ∀ n, last = some n → limit ≤ n) (replies : List Reply) :
    GivesUp p.jobId limit (limit + 1 - attempt) replies
        ((p.upTo (some limit)).runFrom m attempt replies)
        ((p.upTo last).runFrom m attempt replies) ∨
      (p.upTo (some limit)).runFrom m attempt replies =
        (p.upTo last).runFrom m attempt replies := by
  induction replies generalizing m attempt with
  | nil => exact Or.inr rfl
  | cons reply rest ih =>
    obtain ⟨notes, hnotes, ⟨outcome, -, hreceive⟩ | ⟨r, n, record, rfl, hpending, hn, hreceive⟩⟩ :=
      receive_cases (p := p) hm reply
    · right
      simp only [runFrom, receive_upTo, hreceive]
    rw [runFrom_of_pending hreceive, runFrom_of_pending hreceive]
    by_cases hlimit : limit = attempt
    · -- the last round: under the other ceiling it is the last one too, or more is done after it
      subst hlimit
      left
      rw [if_pos rfl]
      refine ⟨rfl, ⟨[r], by simp, by simpa using hpending, rfl⟩, fun context => ?_⟩
      rw [marks_givingUp]
      split
      · exact (marks_givingUp p context _).symm ▸ List.prefix_refl _
      · rw [Transcript.after, marks_append, marks_append, List.append_assoc]
        exact List.prefix_append _ _
    · have hother : last ≠ some attempt := by
        intro h
        have hlimit := hlast attempt h
        omega
      have hnext : attempt + 1 ≤ limit := by omega
      have hcount : limit + 1 - attempt = limit + 1 - (attempt + 1) + 1 := by omega
      rw [if_neg (by simpa using hlimit), if_neg hother, hcount]
      rcases ih hn hnext with hgives | heq
      · exact Or.inl (hgives.after hpending _)
      · exact Or.inr (by rw [heq])

end Poll

namespace Polling

variable {settings : Settings} {network jobId : Text} {s : Session}

/-- The call of all polls of a job, if it can be built. -/
def callOf (settings : Settings) (jobId root : Text) : Except Fault Call := do
  let client ← Client.create root settings
  client.prepare .get .getJobStatus jobId []

/-- Following a job stops before the first poll, or it is the conversation of the polls. -/
theorem run_follow_of_nat (settings : Settings) (network jobId : Text) (n : Nat) (s : Session) :
    Session.run (follow settings network jobId (some n)) s =
      match Network.rootOf network .publicApi settings with
      | .error e => (.error e, s)
      | .ok root =>
        let start := s.record [startNote settings network jobId n]
        match callOf settings jobId root with
        | .error f => (.error (.fault f), start)
        | .ok call =>
          let talk := (pollFor settings jobId call n).run s.replies
          (talk.outcome, start.afterTalk talk) := by
  have hnonneg : ¬ ceiling settings (some n) < 0 := by simp [ceiling]
  simp only [follow, hnonneg, if_false, Session.run_bind, Session.run_addressOf, callOf]
  cases hroot : Network.rootOf network .publicApi settings with
  | error e => rfl
  | ok root =>
    dsimp only
    simp only [Session.run_log, Session.run_orFault]
    cases hclient : Client.create root settings with
    | error f => rfl
    | ok client =>
      cases hcall : client.prepare .get .getJobStatus jobId [] with
      | error f => simp [pollOf, hcall, Except.map, bind, Except.bind, startNote, ceiling]
      | ok call =>
        simp [pollOf_eq_ok hcall, bind, Except.bind, startNote, ceiling, hcall]

/-- What has been done and announced in a session, of all that polls are measured by. -/
def markedIn (s : Session) : List Mark := s.actions.filterMap Action.mark?

theorem markedIn_record_note {note : Action} (h : note.IsNote) :
    markedIn (s.record [note]) = markedIn s := by
  have hnote : marks s.context [note] = [] := marks_notes (by simpa using h)
  rw [markedIn, Session.actions_record, List.filterMap_append]
  rw [marks] at hnote
  rw [hnote, List.append_nil, markedIn]

theorem markedIn_afterTalk (s : Session) (talk : Transcript JobRecord) :
    markedIn (s.afterTalk talk) = markedIn s ++ marks s.context talk.actions := by
  rw [markedIn, Session.afterTalk, Session.actions_record, List.filterMap_append]
  rfl

/-- Two ways to follow a job that end alike and have done the same, with the same replies left. -/
structure Alike (first second : Except Error JobRecord × Session) : Prop where
  outcome : first.1 = second.1
  marked : markedIn first.2 = markedIn second.2
  replies : first.2.replies = second.2.replies

/-- Following a job that is given up after a number of pending answers, where another way to follow
it does the same and maybe more. -/
structure Abandons (jobId : Text) (count : Nat) (replies : List Reply)
    (first second : Except Error JobRecord × Session) : Prop where
  outcome : first.1 = .error (.failure (.timedOut jobId count))
  pending : ∃ front : List Response, front.length = count ∧ (∀ r ∈ front, r.isPending) ∧
    replies = front.map .response ++ first.2.replies
  marked : markedIn first.2 <+: markedIn second.2

/-- Under two settings that differ in whether the ceiling holds, and under two ceilings, a job is
followed alike, or it is given up at the lower ceiling. -/
theorem follow_alike_or_abandons (hold : Bool) {n k : Nat} (hle : hold → n ≤ k) (s : Session) :
    let first := Session.run
      (follow { settings with usePollingCeiling := true } network jobId (some n)) s
    let second := Session.run
      (follow { settings with usePollingCeiling := hold } network jobId (some k)) s
    Abandons jobId (n + 1) s.replies first second ∨ Alike first second := by
  intro first second
  have hroot (flag : Bool) : Network.rootOf network .publicApi
      { settings with usePollingCeiling := flag } =
        Network.rootOf network .publicApi settings := rfl
  have hcallOf (flag : Bool) (root : Text) :
      callOf { settings with usePollingCeiling := flag } jobId root =
        callOf settings jobId root := rfl
  have hstart (flag : Bool) (ceiling : Nat) : markedIn (s.record
      [startNote { settings with usePollingCeiling := flag } network jobId ceiling]) = markedIn s :=
    markedIn_record_note isNote_startNote
  simp only [first, second, run_follow_of_nat, hroot, hcallOf]
  cases Network.rootOf network .publicApi settings with
  | error e => exact Or.inr ⟨rfl, rfl, rfl⟩
  | ok root =>
    dsimp only
    cases callOf settings jobId root with
    | error f => exact Or.inr ⟨rfl, by rw [hstart, hstart], rfl⟩
    | ok call =>
      dsimp only
      let p := pollFor settings jobId call n
      have hfirst : pollFor { settings with usePollingCeiling := true } jobId call n =
          p.upTo (some (n + 1)) := rfl
      have hsecond : pollFor { settings with usePollingCeiling := hold } jobId call k =
          p.upTo (if hold then some (k + 1) else none) := rfl
      have hlast : ∀ last, (if hold then some (k + 1) else none) = some last → n + 1 ≤ last := by
        cases hold with
        | false => simp
        | true => simpa using hle rfl
      rw [hfirst, hsecond]
      rcases Poll.runFrom_upTo (p := p) (m := {}) rfl (Nat.le_add_left 1 n) hlast s.replies with
          hgives | heq
      · refine Or.inl ⟨hgives.outcome, hgives.pending, ?_⟩
        rw [markedIn_afterTalk, markedIn_afterTalk, hstart, hstart]
        exact (List.prefix_append_right_inj _).2 (hgives.marks _)
      · refine Or.inr ⟨congrArg Transcript.outcome heq, ?_, congrArg Transcript.left heq⟩
        rw [markedIn_afterTalk, markedIn_afterTalk, hstart, hstart]
        exact congrArg (fun talk => _ ++ marks _ talk.actions) heq

/-- The ceiling decides when to give up and nothing else. While no ceiling holds, the number that is
given for it makes no difference at all. A ceiling that holds lets the poll go as without one, or
gives the job up after as many pending answers as it allows, having done nothing but the beginning
of what is done without a ceiling. And where a ceiling does not give the job up, no higher one
makes a difference. -/
theorem ceiling_only_gives_up (settings : Settings) (network jobId : Text) (n k : Nat)
    (s : Session) :
    let free (ceiling : Nat) := Session.run
      (follow { settings with usePollingCeiling := false } network jobId (some ceiling)) s
    let capped (ceiling : Nat) := Session.run
      (follow { settings with usePollingCeiling := true } network jobId (some ceiling)) s
    free n = free k ∧
      (Abandons jobId (n + 1) s.replies (capped n) (free k) ∨ Alike (capped n) (free k)) ∧
      (n ≤ k → (∀ attempts, (capped n).1 ≠ .error (.failure (.timedOut jobId attempts))) →
        Alike (capped n) (capped k)) := by
  intro free capped
  refine ⟨?_, follow_alike_or_abandons false (by simp) s, fun hle hpatient => ?_⟩
  · simp only [free, run_follow_of_nat]
    rfl
  · rcases follow_alike_or_abandons true (fun _ => hle) s with habandons | halike
    · exact (hpatient _ habandons.outcome).elim
    · exact halike

end Polling

end ClassVerification
