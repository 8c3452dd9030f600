import ClassVerification.Text.Class
import ClassVerification.Text.Utf8

/-! Classes of code points, and texts all of whose code points are in one. -/
namespace ClassVerification

namespace CodePoint

variable {c : CodePoint}

theorem isAscii_iff : c.isAscii ↔ c.value < 0x80 := by simp [isAscii]

/-- Where one class of the first 128 characters lies in another, so does it on all basic code
points. -/
theorem class_of_isAscii {p q : CodePoint → Bool}
    (table : ∀ n < 0x80, p (.char (Char.ofNat n)) → q (.char (Char.ofNat n))) (h : c.isAscii)
    (hc : p c) : q c := by
  rw [isAscii_iff] at h
  cases c with
  | surrogate i =>
    simp only [value] at h
    omega
  | char a =>
    have ha := table a.toNat h
    rw [Char.ofNat_toNat] at ha
    exact ha hc

theorem value_le_of_le {a b : Char} (h : a ≤ b) : (char a).value ≤ b.toNat := h

theorem isAscii_of_isDigit (h : c.isDigit) : c.isAscii := by
  cases c with
  | surrogate i => cases h
  | char a =>
    simp only [isDigit, digit?] at h
    split at h
    · next hr =>
      have hmax := value_le_of_le hr.2
      exact isAscii_iff.2 (Nat.lt_of_le_of_lt hmax (by decide))
    · cases h

theorem isAscii_of_hexDigit? (h : c.hexDigit?.isSome) : c.isAscii := by
  cases c with
  | surrogate i => cases h
  | char a =>
    simp only [hexDigit?] at h
    split at h
    · next hr => exact isAscii_iff.2 (Nat.lt_of_le_of_lt (value_le_of_le hr.2) (by decide))
    split at h
    · next hr => exact isAscii_iff.2 (Nat.lt_of_le_of_lt (value_le_of_le hr.2) (by decide))
    split at h
    · next hr => exact isAscii_iff.2 (Nat.lt_of_le_of_lt (value_le_of_le hr.2) (by decide))
    · cases h

/-- A class that holds the hexadecimal digits among the first 128 characters holds them all. -/
theorem class_of_hexDigit? {q : CodePoint → Bool}
    (table : ∀ n < 0x80, (char (Char.ofNat n)).hexDigit?.isSome → q (.char (Char.ofNat n)))
    (h : c.hexDigit?.isSome) : q c :=
  class_of_isAscii (p := fun c => c.hexDigit?.isSome) table (isAscii_of_hexDigit? h) h

end CodePoint

namespace Text

variable {t u : Text}

theorem isScalar_iff : t.IsScalar ↔ ∀ c ∈ t, c.isScalar := by
  constructor
  · intro h c hc
    cases c with
    | char a => rfl
    | surrogate i => exact (h i hc).elim
  · intro h i hi
    cases h _ hi

theorem isScalar_ofChars (cs : List Char) : (ofChars cs).IsScalar := by
  intro i hi
  obtain ⟨c, -, hc⟩ := List.mem_map.1 hi
  cases hc

theorem isScalar_ofString (s : String) : (ofString s).IsScalar := isScalar_ofChars s.toList

theorem isScalar_cons {c : CodePoint} : IsScalar (c :: t) ↔ c.isScalar ∧ t.IsScalar := by
  simp only [isScalar_iff, List.forall_mem_cons]

theorem isScalar_append : IsScalar (t ++ u) ↔ t.IsScalar ∧ u.IsScalar := by
  simp only [isScalar_iff, List.forall_mem_append]

theorem isScalar_flatMap {f : CodePoint → Text} (h : ∀ c ∈ t, (f c).IsScalar) :
    IsScalar (t.flatMap f) := by
  intro i hi
  obtain ⟨c, hc, hmem⟩ := List.mem_flatMap.1 hi
  exact h c hc i hmem

end Text

/-- A text is looked through from its start for what cannot be written. -/
theorem Unencodable.find_eq_none_iff {encodable : CodePoint → Bool} {position : Nat} {t : Text} :
    find encodable position t = none ↔ ∀ c ∈ t, encodable c := by
  induction t generalizing position with
  | nil => simp [find]
  | cons c t ih =>
    rw [find, List.forall_mem_cons]
    by_cases hc : encodable c
    · simp [hc, ih]
    · simp [hc]

/-- What is found is the first run of code points that cannot be written, with its place. -/
theorem Unencodable.find_eq_some {encodable : CodePoint → Bool} {position : Nat} {t : Text}
    {flaw : Unencodable} (h : find encodable position t = some flaw) :
    ∃ front rest, t = front ++ flaw.run ++ rest ∧ flaw.start = position + front.length ∧
      (∀ c ∈ front, encodable c) ∧ flaw.run ≠ [] ∧ (∀ c ∈ flaw.run, encodable c = false) ∧
      ∀ c ∈ rest.head?, encodable c := by
  induction t generalizing position with
  | nil => cases h
  | cons c t ih =>
    rw [find] at h
    split at h
    · next hc =>
      obtain ⟨front, rest, rfl, hstart, hfront, hrun⟩ := ih h
      refine ⟨c :: front, rest, rfl, ?_, List.forall_mem_cons.2 ⟨hc, hfront⟩, hrun⟩
      rw [hstart, List.length_cons]
      omega
    · next hc =>
      obtain rfl := Option.some.inj h
      have hcut := List.takeWhile_append_dropWhile (p := (!encodable ·)) (l := c :: t)
      refine ⟨[], (c :: t).dropWhile (!encodable ·), hcut.symm, rfl, by simp, ?_, ?_, ?_⟩
      · simp [hc]
      · intro d hd
        have hrun := List.all_eq_true.1 (List.all_takeWhile (p := (!encodable ·)) (l := c :: t))
        simpa using hrun d hd
      · intro d hd
        have hhead := List.head?_dropWhile_not (!encodable ·) (c :: t)
        rw [Option.mem_def.1 hd] at hhead
        simpa using hhead

theorem Text.find_isScalar_eq_none_iff {position : Nat} {t : Text} :
    Unencodable.find CodePoint.isScalar position t = none ↔ t.IsScalar := by
  rw [Unencodable.find_eq_none_iff, isScalar_iff]

end ClassVerification
