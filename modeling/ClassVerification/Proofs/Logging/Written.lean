import ClassVerification.Proofs.Logging.Configure
import ClassVerification.Verification

/-! What the log writes after set-ups: an event once, if the form of the last one can show it. -/
namespace ClassVerification.Logging

variable {r : Registry} {calls : List SetupCall} {s : Setup} {e : LogEvent}
  {context fields : Members Json} {name logger : Text} {form : Form}

theorem head?_of_isWithin (h : isWithin name logger) (hname : name ≠ []) :
    logger.head? = name.head? := by
  obtain ⟨c, rest, rfl⟩ := List.exists_cons_of_ne_nil hname
  rw [isWithin, Bool.or_eq_true, decide_eq_true_eq, Text.startsWith, Option.isSome_iff_exists] at h
  rcases h with rfl | ⟨below, hbelow⟩
  · rfl
  · rw [Text.dropPrefix?_eq_some_iff.1 hbelow]
    rfl

/-- The name that all loggers of this library lie below. -/
def packageName : Text := "voyager_verifier"

/-- An event of this library: it comes from one of its loggers, at some level. -/
def IsOwn (e : LogEvent) : Prop := isWithin packageName e.logger ∧ e.level ≠ .notSet

theorem above?_of_isWithin_packageName (h : isWithin packageName logger) :
    NoisyLogger.above? logger = none := by
  refine List.find?_eq_none.2 fun l _ hl => ?_
  have hown := head?_of_isWithin h (by decide)
  cases l with
  | httpx => exact absurd ((head?_of_isWithin hl (by decide)).symm.trans hown) (by decide)
  | httpcore => exact absurd ((head?_of_isWithin hl (by decide)).symm.trans hown) (by decide)

example : ∀ logger ∈ [Call.logger, Poll.logger, Dispatch.logger, Toolchain.logger,
    Verification.logger], isWithin packageName logger := by decide

/-- The loggers of the network layer have a level of their own after a set-up. -/
theorem threshold_registry (s : Setup) (logger : Text) :
    s.registry.threshold logger = s.threshold logger := by
  have hquiet : s.quietNumber ≠ 0 := by
    have hle : LogLevel.warning.number ≤ s.quietNumber := Nat.le_max_right _ _
    have hpos : 0 < LogLevel.warning.number := by decide
    omega
  rw [Registry.threshold, Setup.threshold]
  cases NoisyLogger.above? logger with
  | none => rfl
  | some l => cases l <;> simp [Setup.registry, Registry.noisy, hquiet]

/-- After a set-up, there is one handler to write what is admitted. -/
theorem event_registry (s : Setup) (e : LogEvent) (context : Members Json) :
    s.registry.event e context =
      if s.writes e.logger e.level then
        ((eventLines? s.form e context).map (s.stream, ·)).toList
      else [] := by
  rw [Registry.event, Registry.admits, threshold_registry]
  cases hshown : eventLines? s.form e context <;> simp [Setup.registry, Setup.writes, hshown]

theorem notice_registry (s : Setup) (n : Notice) : s.registry.notice n =
    if s.writes n.logger n.level then [(s.stream, messageLines s.form n.message)] else [] := by
  rw [Registry.notice, Registry.admits, threshold_registry]
  rfl

/-- From the start of a process on, the lines that the handlers write are those that the log has by
its last set-up that succeeded. -/
theorem lines_eq_log (calls : List SetupCall) (context : Members Json) (e : LogEvent) (n : Notice) :
    let log : Log := ⟨(calls.filterMap SetupCall.setup?).getLast?, context⟩
    let r := Registry.afterAll {} calls
    (r.event e context).flatMap Prod.snd = log.event e ∧
      (r.notice n).flatMap Prod.snd = log.notice n := by
  intro log r
  have hr : r = (log.setup.map Setup.registry).getD {} := afterAll_eq {} calls
  cases hsetup : log.setup with
  | none =>
    rw [hr, hsetup, Log.event, Log.notice, hsetup]
    refine ⟨rfl, ?_⟩
    simp [Registry.notice]
  | some s =>
    rw [hr, hsetup, Log.event, Log.notice, hsetup]
    simp only [Option.map_some, Option.getD_some, event_registry, notice_registry]
    refine ⟨?_, ?_⟩
    · cases s.writes e.logger e.level with
      | false => rfl
      | true => cases eventLines? s.form e context <;> simp
    · cases s.writes n.logger n.level <;> simp

/-- A field that is shown below the line is missing, null or text. -/
def IsBlock (fields : Members Json) (name : Text) : Prop :=
  ∀ value, fields.get? name = some value → value = .null ∨ ∃ t, value = .text t

/-- A form can show the fields of an event: none of them is the record that it is written from, all
integers that it writes are short enough, and on the console the blocks below the line are text. -/
def Shows : Form → Members Json → Prop
  | .json, fields => fields.get? recordField = none ∧ ∀ field ∈ fields, field.2.isWritable
  | .console, fields => fields.get? recordField = none ∧ IsBlock fields stackField ∧
      IsBlock fields errorField ∧ ∀ field ∈ lineFields fields, field.2.isWritable

theorem membersWritable_iff : Json.membersWritable fields ↔
    ∀ field ∈ fields, field.2.isWritable := by
  induction fields with
  | nil => simp [Json.membersWritable]
  | cons field rest ih =>
    rw [Json.membersWritable, Bool.and_eq_true, ih, List.forall_mem_cons]

theorem block?_isSome_iff : (block? fields name).isSome ↔ IsBlock fields name := by
  rw [block?, IsBlock]
  cases hvalue : fields.get? name with
  | none => simp
  | some value => cases value <;> simp

theorem below?_isSome_iff : (below? fields).isSome ↔
    IsBlock fields stackField ∧ IsBlock fields errorField := by
  rw [← block?_isSome_iff, ← block?_isSome_iff, below?]
  cases block? fields stackField with
  | none => simp
  | some stack => cases block? fields errorField <;> simp

theorem consoleText?_isSome_iff : (consoleText? e fields).isSome ↔
    IsBlock fields stackField ∧ IsBlock fields errorField ∧
      ∀ field ∈ lineFields fields, field.2.isWritable := by
  rw [← membersWritable_iff, ← and_assoc, ← below?_isSome_iff, consoleText?]
  cases Json.membersWritable (lineFields fields) <;> simp

theorem eventLines?_isSome_iff :
    (eventLines? form e context).isSome ↔ Shows form (extraFields e context) := by
  cases hrecord : (extraFields e context).get? recordField with
  | some value => cases form <;> simp [eventLines?, Shows, Members.has, hrecord]
  | none =>
    cases form with
    | json =>
      simp only [eventLines?, Shows, Members.has, hrecord, ← membersWritable_iff]
      cases Json.membersWritable (extraFields e context) <;> simp
    | console =>
      simp only [eventLines?, Shows, Members.has, hrecord, Option.isSome_none, Bool.false_eq_true,
        if_false, Option.isSome_map, true_and, consoleText?_isSome_iff]

/-- What a registry writes for an event is the event, once, on a stream and in a form. -/
def WritesOnce (r : Registry) (stream : Stream) (form : Form) (e : LogEvent)
    (context : Members Json) : Prop :=
  ∃ lines, eventLines? form e context = some lines ∧ r.event e context = [(stream, lines)]

theorem writes_of_isOwn (h : IsOwn e) :
    s.writes e.logger e.level ↔ s.level.number ≤ e.level.number := by
  rw [Setup.writes, Setup.threshold, above?_of_isWithin_packageName h.1]
  simp [h.2]

/-- After a set-up an own event is written once if its level is high enough and the form can show
it, and otherwise not at all. -/
theorem writesOnce_registry (s : Setup) (h : IsOwn e) (context : Members Json) :
    (s.level.number ≤ e.level.number ∧ Shows s.form (extraFields e context) →
        WritesOnce s.registry s.stream s.form e context) ∧
      (¬ (s.level.number ≤ e.level.number ∧ Shows s.form (extraFields e context)) →
        s.registry.event e context = []) := by
  rw [← writes_of_isOwn h, ← eventLines?_isSome_iff, WritesOnce, event_registry]
  cases s.writes e.logger e.level with
  | false => simp
  | true => cases eventLines? s.form e context <;> simp

/-- A call that is turned away changes nothing, and after a series of calls the state of the loggers
is that of the last one that succeeded: one handler with its stream and its form, its level, and the
network layer no lower than at warnings. An own event is then written once, if its level is at least
that of the call and the form can show it. -/
theorem setups_settle (r : Registry) (calls : List SetupCall) :
    (∀ c : SetupCall, (∃ level, c.level = .ok level ∧ ((r.afterAll calls).answer c).1 = .ok ()) ∨
      ∃ message, c.level = .error (.configuration message) ∧
        (r.afterAll calls).answer c = (.error (.configuration message), r.afterAll calls)) ∧
    ((∀ c ∈ calls, c.Fails) ∧ r.afterAll calls = r ∨
      ∃ before c rest level, calls = before ++ c :: rest ∧ c.level = .ok level ∧
        (∀ d ∈ rest, d.Fails) ∧
        (∀ other : Registry, other.answer c = (.ok (), r.afterAll calls)) ∧
        r.afterAll calls = {
          handlers := [⟨c.arguments.destination, c.arguments.form c.settings⟩]
          level := level.number
          httpx := max level.number LogLevel.warning.number
          httpcore := max level.number LogLevel.warning.number
          connected := true } ∧
        ∀ e context, IsOwn e →
          (level.number ≤ e.level.number ∧
              Shows (c.arguments.form c.settings) (extraFields e context) →
            WritesOnce (r.afterAll calls) c.arguments.destination (c.arguments.form c.settings) e
              context) ∧
          (¬ (level.number ≤ e.level.number ∧
              Shows (c.arguments.form c.settings) (extraFields e context)) →
            (r.afterAll calls).event e context = [])) := by
  refine ⟨fun c => ?_, ?_⟩
  · rcases c.level_cases with ⟨level, h⟩ | ⟨message, h⟩
    · exact Or.inl ⟨level, h, by rw [answer_of_level h]⟩
    · exact Or.inr ⟨message, h, answer_of_error h _⟩
  · have hafter := afterAll_eq r calls
    rcases last_success_cases calls with
        ⟨hfail, hlast⟩ | ⟨before, c, rest, s, hcalls, hc, hrest, hlast⟩
    · rw [hlast] at hafter
      exact Or.inl ⟨hfail, hafter⟩
    · obtain ⟨level, hlevel, rfl⟩ := SetupCall.setup?_eq_some_iff.1 hc
      rw [hlast, Option.map_some, Option.getD_some] at hafter
      refine Or.inr ⟨before, c, rest, level, hcalls, hlevel, hrest, fun other => ?_, hafter,
        fun e context he => ?_⟩
      · rw [answer_of_level hlevel, hafter]
      · rw [hafter]
        exact writesOnce_registry ⟨level, _, _⟩ he context

/-- A set-up for the console that begins with events of level `INFO`. -/
def consoleCall : SetupCall where
  settings := {}
  arguments := { level := some "INFO", json := some false, stream := some (.opened 0) }

/-- Names of levels are taken in any case, and after an unknown one all is as before. -/
example : Registry.afterAll {} [⟨{}, { level := some "debug", json := some true }⟩, consoleCall,
    ⟨{}, { level := some "chatty" }⟩] = ⟨[⟨.opened 0, .console⟩], 20, 30, 30, true⟩ := by decide

def statusEvent : LogEvent where
  level := .info
  logger := "voyager_verifier.services.polling_service"
  event := "poll.status"
  fields := [("job_id", .text "abc123"), ("status", .text "Compiled")]

/-- An event of the least level is lost on the console when a stack that is no text is bound. -/
theorem bound_stack_is_not_written :
    IsOwn statusEvent ∧ consoleCall.level = .ok .info ∧
      LogLevel.info.number ≤ statusEvent.level.number ∧
      (Registry.afterAll {} [consoleCall]).event statusEvent [("stack", .int 5)] = [] := by
  refine ⟨⟨by decide, by decide⟩, rfl, Nat.le_refl _, rfl⟩

end ClassVerification.Logging
