import ClassVerification.JobMachine
import ClassVerification.Proofs.Outcome

/-! A machine goes along the arrows between the statuses of a job, and nowhere else. -/
namespace ClassVerification

/-- A value equals a number as a key: it is that number, the truth value that counts as it, or the
binary number that is exactly it. -/
inductive Json.IsKeyOf : Json → Int → Prop where
  | int (n : Int) : IsKeyOf (.int n) n
  | falsity : IsKeyOf (.bool false) 0
  | truth : IsKeyOf (.bool true) 1
  | float {x : Binary64} {n : Int} : x.toInt? = some n → IsKeyOf (.float x) n

theorem Json.isKeyOf_iff {value : Json} {n : Int} :
    value.IsKeyOf n ↔ value.keyInt? = some n := by
  constructor
  · intro h
    cases h with
    | int | falsity | truth => rfl
    | float hx => exact hx
  · intro h
    cases value with
    | int k =>
      obtain rfl : k = n := Option.some.inj h
      exact .int k
    | bool b =>
      obtain rfl := Option.some.inj h
      cases b
      · exact .falsity
      · exact .truth
    | float x => exact .float h
    | null | text _ | list _ | object _ => cases h

namespace JobStatus

theorem mem_all (status : JobStatus) : status ∈ all := by cases status <;> decide

/-- A value names a status if it equals the code of that status as a key. -/
theorem ofKey?_eq_some_iff {value : Json} {status : JobStatus} :
    ofKey? value = some status ↔ value.IsKeyOf status.code := by
  rw [Json.isKeyOf_iff, ofKey?, Option.bind_eq_some_iff]
  constructor
  · rintro ⟨n, hkey, hcode⟩
    rw [hkey, code_eq_of_ofCode? hcode]
  · intro hkey
    exact ⟨status.code, hkey, ofCode?_code status⟩

end JobStatus

namespace JobMachine

variable {m n : JobMachine} {status next : JobStatus} {event : Text} {value : Json}

/-- From every status that is not final one arrow leads to each status, and none from a final
one. -/
theorem mem_arrows_iff : ⟨status, event, next⟩ ∈ arrows ↔
    status.isTerminal = false ∧ event = next.event := by
  constructor
  · intro h
    have hall : ∀ a ∈ arrows, a.source.isTerminal = false ∧ a.event = a.target.event := by decide
    exact hall _ h
  · rintro ⟨hstatus, rfl⟩
    exact List.mem_of_find?_eq_some (arrow?_event hstatus next)

theorem arrow?_eq_some_iff {a : JobArrow} : arrow? status event = some a ↔
    a ∈ arrows ∧ a.source = status ∧ a.event = event := by
  constructor
  · intro h
    have hends : a.source = status ∧ a.event = event := by simpa using List.find?_some h
    exact ⟨List.mem_of_find?_eq_some h, hends⟩
  · obtain ⟨source, name, target⟩ := a
    rintro ⟨hmem, rfl, rfl⟩
    obtain ⟨hsource, rfl⟩ := mem_arrows_iff.1 hmem
    exact arrow?_event hsource target

theorem send_beginning (m : JobMachine) : m.send beginning = .ok { m with status := m.first } := by
  simp [send]

/-- An event goes along an arrow, or it is that of the beginning. -/
theorem send_eq_ok_iff : m.send event = .ok n ↔
    (event = beginning ∧ n = { m with status := m.first }) ∨
      ∃ status, ⟨m.status, event, status⟩ ∈ arrows ∧ n = { m with status } := by
  constructor
  · intro h
    by_cases hbeginning : event = beginning
    · subst hbeginning
      rw [send_beginning] at h
      exact Or.inl ⟨rfl, (Except.ok.inj h).symm⟩
    · simp only [send, hbeginning, if_false] at h
      split at h
      · next arrow harrow =>
        obtain ⟨hmem, hsource, hevent⟩ := arrow?_eq_some_iff.1 harrow
        cases h
        rw [← hsource, ← hevent]
        exact Or.inr ⟨arrow.target, hmem, rfl⟩
      · cases h
  · rintro (⟨rfl, rfl⟩ | ⟨status, hmem, rfl⟩)
    · exact send_beginning m
    · obtain ⟨hopen, rfl⟩ := mem_arrows_iff.1 hmem
      exact send_event ((isTerminal_eq m).trans hopen) status

/-- A value is observed until the machine stands in a final state, and if it names a status. -/
theorem observe_eq_ok_iff : m.observe value = .ok n ↔
    m.isTerminal = false ∧ ∃ status : JobStatus, value.IsKeyOf status.code ∧
      n = { m with status } := by
  simp only [← JobStatus.ofKey?_eq_some_iff]
  cases hkey : JobStatus.ofKey? value with
  | none => by_cases hv : value.isKey <;> simp [observe, hkey, hv]
  | some status =>
    have hv : value.isKey := by
      cases value with
      | list _ | object _ => cases hkey
      | null | bool _ | int _ | float _ | text _ => rfl
    have hobserve : m.observe value = m.send status.event := by simp [observe, hv, hkey]
    rw [hobserve]
    constructor
    · intro h
      rcases send_eq_ok_iff.1 h with ⟨hevent, -⟩ | ⟨next, hmem, rfl⟩
      · exact (event_ne_beginning status hevent).elim
      · obtain ⟨hopen, hevent⟩ := mem_arrows_iff.1 hmem
        have hnext : status = next := by
          have hboth := congrArg JobStatus.ofEvent? hevent
          rw [JobStatus.ofEvent?_event, JobStatus.ofEvent?_event] at hboth
          exact Option.some.inj hboth
        exact ⟨(isTerminal_eq m).trans hopen, next, congrArg some hnext, rfl⟩
    · rintro ⟨hopen, next, hnext, rfl⟩
      obtain rfl := Option.some.inj hnext
      exact send_event hopen status

/-- The events that a machine names as allowed are those of the arrows that begin where it
stands. -/
theorem mem_allowedEvents_iff : event ∈ m.allowedEvents ↔
    ∃ status, ⟨m.status, event, status⟩ ∈ arrows := by
  simp only [mem_arrows_iff, allowedEvents]
  split
  · next h =>
    rw [isTerminal_eq] at h
    simp [h]
  · next h =>
    rw [isTerminal_eq] at h
    simp [h, JobStatus.mem_all, eq_comm]

/-- No arrow begins in the states that are marked as final, and one in all others. -/
theorem isTerminal_iff : m.isTerminal ↔ ∀ event next, ⟨m.status, event, next⟩ ∉ arrows := by
  simp only [mem_arrows_iff, isTerminal_eq]
  constructor
  · rintro h event next ⟨hopen, -⟩
    simp [h] at hopen
  · intro h
    cases hstatus : m.status.isTerminal with
    | true => rfl
    | false => exact (h _ m.status ⟨hstatus, rfl⟩).elim

theorem allowedEvents_eq_nil_iff : m.allowedEvents = [] ↔ m.isTerminal := by
  rw [allowedEvents]
  split
  · next h => simp [h]
  · next h => simp [h, JobStatus.all]

end JobMachine

end ClassVerification
