import ClassVerification.Proofs.JobMachine.Arrows

/-! Where a job stands after any sequence of operations on its machine, failing ones among them. -/
namespace ClassVerification

/-- Where a job ends that goes through statuses from a first one on: in the first final status, or
else in the last status. -/
def JobStatus.settle (first : JobStatus) (rest : List JobStatus) : JobStatus :=
  ((first :: rest).find? isTerminal).getD (rest.getLastD first)

theorem JobStatus.settle_cons {first : JobStatus} (h : first.isTerminal = false)
    (next : JobStatus) (rest : List JobStatus) :
    settle first (next :: rest) = settle next rest := by
  rw [settle, List.find?_cons_of_neg (by simp [h]), List.getLastD_cons]
  rfl

namespace JobMachine

/-- What can be done to a machine. -/
inductive Operation where
  | observe (value : Json)
  | send (event : Text)

/-- What an operation makes of a machine, or why it fails. -/
def attempt (m : JobMachine) : Operation → Except Fault JobMachine
  | .observe value => m.observe value
  | .send event => m.send event

/-- The machine that an operation leaves behind: the one that it makes, or else the old one. -/
def after (m : JobMachine) (operation : Operation) : JobMachine :=
  match m.attempt operation with
  | .ok n => n
  | .error _ => m

def afterAll (m : JobMachine) (operations : List Operation) : JobMachine :=
  operations.foldl after m

/-- The statuses that the successful ones among some operations reach, in order. -/
def reached (m : JobMachine) : List Operation → List JobStatus
  | [] => []
  | operation :: rest =>
    match m.attempt operation with
    | .ok n => n.status :: n.reached rest
    | .error _ => m.reached rest

variable {m n : JobMachine} {operation : Operation} {operations : List Operation}

/-- In a final state nothing succeeds but the event of the beginning. -/
theorem eq_beginning_of_attempt (hm : m.isTerminal) (h : m.attempt operation = .ok n) :
    operation = .send beginning := by
  cases operation with
  | observe value =>
    have hopen : m.isTerminal = false := (observe_eq_ok_iff.1 h).1
    simp [hm] at hopen
  | send event =>
    rcases send_eq_ok_iff.1 h with ⟨rfl, -⟩ | ⟨status, harrow, -⟩
    · rfl
    · exact (isTerminal_iff.1 hm _ _ harrow).elim

/-- No operation changes where a machine began. -/
theorem first_attempt (h : m.attempt operation = .ok n) : n.first = m.first := by
  cases operation with
  | observe value =>
    obtain ⟨-, status, -, rfl⟩ := observe_eq_ok_iff.1 h
    rfl
  | send event =>
    rcases send_eq_ok_iff.1 h with ⟨-, rfl⟩ | ⟨status, -, rfl⟩ <;> rfl

theorem first_after (m : JobMachine) (operation : Operation) :
    (m.after operation).first = m.first := by
  rw [after]
  split
  · next n h => exact first_attempt h
  · rfl

theorem first_afterAll (m : JobMachine) (operations : List Operation) :
    (m.afterAll operations).first = m.first := by
  induction operations generalizing m with
  | nil => rfl
  | cons operation rest ih => exact (ih (m.after operation)).trans (first_after m operation)

/-- A machine settles in the first final status that is reached, or else it stands in the last
status that is. -/
theorem status_afterAll (h : .send beginning ∉ operations) :
    (m.afterAll operations).status = JobStatus.settle m.status (m.reached operations) := by
  induction operations generalizing m with
  | nil => cases hm : m.status.isTerminal <;> simp [afterAll, reached, JobStatus.settle, hm]
  | cons operation rest ih =>
    obtain ⟨hoperation, hrest⟩ := not_or.1 (mt List.mem_cons.2 h)
    have hstep : m.afterAll (operation :: rest) = (m.after operation).afterAll rest := rfl
    rw [hstep, ih hrest]
    cases hattempt : m.attempt operation with
    | error fault => simp only [after, reached, hattempt]
    | ok n =>
      have hopen : m.status.isTerminal = false := by
        rw [← isTerminal_eq]
        cases hm : m.isTerminal with
        | false => rfl
        | true => exact (hoperation (eq_beginning_of_attempt hm hattempt).symm).elim
      simp only [after, reached, hattempt, JobStatus.settle_cons hopen]

/-- The event of the beginning undoes all that was done before it. -/
theorem afterAll_beginning (m : JobMachine) (front since : List Operation) :
    m.afterAll (front ++ .send beginning :: since) =
      ({ first := m.first } : JobMachine).afterAll since := by
  have hreturn (n : JobMachine) : n.after (.send beginning) = { first := n.first } := by
    simp only [after, attempt, send_beginning]
  calc m.afterAll (front ++ .send beginning :: since)
      = ((m.afterAll front).after (.send beginning)).afterAll since := by
        simp only [afterAll, List.foldl_append, List.foldl_cons]
    _ = ({ first := m.first } : JobMachine).afterAll since := by
        rw [hreturn, first_afterAll]

/-- A machine starts at the status that a value names. -/
theorem start_eq_ok_iff {value : Json} : start value = .ok m ↔
    ∃ status : JobStatus, value.IsKeyOf status.code ∧ m = { first := status } := by
  simp only [← JobStatus.ofKey?_eq_some_iff, start]
  cases JobStatus.ofKey? value <;> simp [eq_comm]

/-- What a machine lets pass where it stands, and what it does not. -/
structure Guards (m : JobMachine) : Prop where
  observed : m.isTerminal = false → ∀ value n, m.observe value = .ok n ↔
    ∃ status : JobStatus, value.IsKeyOf status.code ∧ n = { m with status }
  final : m.isTerminal → ∀ operation n, m.attempt operation = .ok n → operation = .send beginning
  sent : ∀ event, (∃ n, m.send event = .ok n) ↔ event ∈ m.allowedEvents ∨ event = beginning
  along : ∀ event n, event ≠ beginning → m.send event = .ok n →
    ⟨m.status, event, n.status⟩ ∈ arrows
  terminal : m.isTerminal ↔ m.allowedEvents = []
  terminalStatus : m.allowedEvents = [] ↔ m.status.isTerminal
  labelled : JobStatus.ofLabel? m.status.label = some m.status
  unchanged : ∀ operation fault, m.attempt operation = .error fault → m.after operation = m

theorem guards (m : JobMachine) : m.Guards where
  observed hm value n := by simp [observe_eq_ok_iff, hm]
  final hm operation n h := eq_beginning_of_attempt hm h
  sent event := by
    rw [mem_allowedEvents_iff]
    constructor
    · rintro ⟨n, h⟩
      rcases send_eq_ok_iff.1 h with ⟨hevent, -⟩ | ⟨status, harrow, -⟩
      · exact Or.inr hevent
      · exact Or.inl ⟨status, harrow⟩
    · rintro (⟨status, harrow⟩ | rfl)
      · exact ⟨_, send_eq_ok_iff.2 (Or.inr ⟨status, harrow, rfl⟩)⟩
      · exact ⟨_, send_beginning m⟩
  along event n hevent h := by
    rcases send_eq_ok_iff.1 h with ⟨heq, -⟩ | ⟨status, harrow, rfl⟩
    · exact (hevent heq).elim
    · exact harrow
  terminal := allowedEvents_eq_nil_iff.symm
  terminalStatus := by rw [allowedEvents_eq_nil_iff, isTerminal_eq]
  labelled := JobStatus.ofLabel?_label m.status
  unchanged operation fault h := by rw [after, h]

/-- The course of a job, whatever is done to its machine. As long as the event of the beginning is
not sent, the job stands in the first final status that its start or a successful operation reached,
or else in the last status that was reached. That event alone leads out of a final status: after it
all is as if the machine had just been started. -/
theorem course_settles {value : Json} (hstart : start value = .ok m)
    (operations : List Operation) :
    value.IsKeyOf m.status.code ∧
      (.send beginning ∉ operations →
        (m.afterAll operations).status = JobStatus.settle m.status (m.reached operations)) ∧
      (∀ front since, operations = front ++ .send beginning :: since →
        m.afterAll operations = m.afterAll since) ∧
      (m.afterAll operations).Guards := by
  obtain ⟨status, hkey, rfl⟩ := start_eq_ok_iff.1 hstart
  refine ⟨hkey, status_afterAll, ?_, guards _⟩
  rintro front since rfl
  exact afterAll_beginning _ front since

/-- Operations that fail before a job settles and after it, and one that names a status by a truth
value. -/
def mixedOperations : List Operation := [
  .observe (.text "Success"), .send "compiled", .observe (.int 9), .observe (.bool false),
  .send "succeeded", .observe (.int 3), .send "submitted"]

/-- A job that starts as compiled settles as succeeded, and stays so. -/
theorem mixed_course_settles_as_succeeded :
    ∃ m, start (.bool true) = .ok m ∧ .send beginning ∉ mixedOperations ∧
      m.reached mixedOperations = [.compiled, .submitted, .succeeded] ∧
      (m.afterAll mixedOperations).status = .succeeded := by
  have hstart : start (.bool true) = .ok { first := .compiled } := rfl
  have hbeginning : .send beginning ∉ mixedOperations := by
    have hnames : ∀ event ∈ [Text.ofString "compiled", "succeeded", "submitted"],
        beginning ≠ event := by decide
    simpa [mixedOperations] using hnames
  have hreached : reached { first := .compiled } mixedOperations =
      [.compiled, .submitted, .succeeded] := rfl
  obtain ⟨-, hstatus, -⟩ := course_settles hstart mixedOperations
  refine ⟨_, hstart, hbeginning, hreached, ?_⟩
  rw [hstatus hbeginning, hreached]
  rfl

/-- The event of the beginning is not allowed in a final state, and yet it leads out of it: a job
that has been observed to succeed is submitted once more. -/
theorem beginning_leaves_final_state :
    ∃ m : JobMachine, start (.int 0) = .ok m ∧ (m.afterAll [.observe (.int 4)]).isTerminal ∧
      beginning ∉ (m.afterAll [.observe (.int 4)]).allowedEvents ∧
      (∃ n, (m.afterAll [.observe (.int 4)]).send beginning = .ok n ∧ n.status = .submitted) ∧
      (m.afterAll [.observe (.int 4), .send beginning]).status ≠
        JobStatus.settle m.status (m.reached [.observe (.int 4), .send beginning]) :=
  ⟨_, rfl, rfl, by decide, ⟨_, rfl, rfl⟩, by decide⟩

end JobMachine

end ClassVerification
