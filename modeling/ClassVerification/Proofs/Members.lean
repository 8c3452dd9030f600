import ClassVerification.Json.Basic

/-! What is held under a key of members that are appended, filtered, put or dropped. -/
namespace ClassVerification

namespace Members

variable {α : Type} {key : Text} {names : List Text}

theorem get?_append (first second : Members α) :
    get? key (first ++ second) = (get? key first).or (get? key second) := by
  induction first with
  | nil => rfl
  | cons member rest ih =>
    obtain ⟨k, value⟩ := member
    by_cases h : k = key
    · simp [get?, h]
    · simp [get?, h, ih]

theorem get?_filter (keep : Text → Bool) (members : Members α) :
    get? key (members.filter fun (k, _) => keep k) =
      if keep key then get? key members else none := by
  induction members with
  | nil => simp [get?]
  | cons member rest ih =>
    obtain ⟨k, value⟩ := member
    by_cases h : k = key
    · subst h
      by_cases hkeep : keep k <;> simp [get?, hkeep, ih]
    · by_cases hkeep : keep k <;> simp [get?, hkeep, ih, h]

theorem dropKeys_put {name : Text} (hname : name ∈ names) (value : α) (members : Members α) :
    dropKeys names (put name value members) = dropKeys names members := by
  induction members with
  | nil => simp [put, dropKeys, hname]
  | cons member rest ih =>
    obtain ⟨k, old⟩ := member
    by_cases h : k = name
    · subst h
      simp [put, dropKeys, hname]
    · simp only [dropKeys] at ih
      simp only [put, dropKeys, h, if_false, List.filter_cons, ih]

theorem dropKeys_putAll {more : Members α} (h : ∀ field ∈ more, field.1 ∈ names)
    (members : Members α) : dropKeys names (putAll members more) = dropKeys names members := by
  induction more generalizing members with
  | nil => rfl
  | cons field rest ih =>
    rw [List.forall_mem_cons] at h
    exact (ih h.2 _).trans (dropKeys_put h.1 field.2 members)

theorem has_eq_false_iff {members : Members α} :
    members.has key = false ↔ ∀ member ∈ members, member.1 ≠ key := by
  induction members with
  | nil => simp [has, get?]
  | cons member rest ih =>
    rw [List.forall_mem_cons, ← ih]
    by_cases h : member.1 = key <;> simp [has, get?, h]

/-- Dropping keys changes nothing only where none of them is held. -/
theorem dropKeys_eq_self_iff {members : Members α} :
    dropKeys names members = members ↔ ∀ name ∈ names, members.has name = false := by
  simp only [dropKeys, List.filter_eq_self, has_eq_false_iff]
  constructor
  · rintro h name hname member hmember rfl
    simpa [hname] using h member hmember
  · intro h member hmember
    have hne (name : Text) (hname : name ∈ names) : member.1 ≠ name := h name hname member hmember
    simpa using fun hmem => hne member.1 hmem rfl

end Members

end ClassVerification
