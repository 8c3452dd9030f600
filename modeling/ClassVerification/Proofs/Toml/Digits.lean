import ClassVerification.Proofs.Text.Class
import ClassVerification.Toml.Document

/-! An integer with too many digits keeps a document from being read, though nothing in it is
malformed. -/
namespace ClassVerification

variable {c d : CodePoint} {t rest digits : Text}

theorem CodePoint.ne_of_isDigit (h : c.isDigit) (hd : d.isDigit = false) : c ≠ d := by
  rintro rfl
  rw [hd] at h
  cases h

theorem Text.dropPrefix?_of_isDigit {start : Text} (h : c.isDigit) (hd : d.isDigit = false) :
    dropPrefix? (c :: rest) (d :: start) = none :=
  if_neg (CodePoint.ne_of_isDigit h hd)

theorem Number.splitSign_of_isDigit (h : c.isDigit) :
    splitSign (c :: rest) = (false, c :: rest) := by
  have hminus : c ≠ .char '-' := CodePoint.ne_of_isDigit h rfl
  have hplus : c ≠ .char '+' := CodePoint.ne_of_isDigit h rfl
  rw [splitSign]
  · rintro _ ⟨⟩
    exact hminus rfl
  · rintro _ ⟨⟩
    exact hplus rfl

namespace Toml

theorem spanDigits_of_all {isDigit : CodePoint → Bool} (h : ∀ c ∈ t, isDigit c) :
    spanDigits isDigit t = (t, []) := by
  induction t with
  | nil => rfl
  | cons c t ih =>
    obtain ⟨hc, ht⟩ := List.forall_mem_cons.1 h
    cases t with
    | nil => simp [spanDigits, hc]
    | cons d t => simp [spanDigits, hc, ih ht]

theorem withoutUnderscores_of_digits (h : ∀ c ∈ t, c.isDigit) : withoutUnderscores t = t := by
  refine List.filter_eq_self.2 fun c hc => ?_
  exact bne_iff_ne.2 (CodePoint.ne_of_isDigit (h c hc) rfl)

theorem boundedDigits?_rest {count low high n : Nat}
    (h : boundedDigits? count low high t = some (n, rest)) : rest = t.drop count := by
  simp only [boundedDigits?] at h
  split at h
  · exact (Prod.mk.inj (Option.some.inj h)).2.symm
  · cases h

/-- Where more digits stand than a part of a date or a time has, no separator follows it. -/
theorem dropPrefix?_drop_of_digits {count : Nat} {start : Text} (h : ∀ c ∈ t, c.isDigit)
    (hlong : count < t.length) (hd : d.isDigit = false) :
    Text.dropPrefix? (t.drop count) (d :: start) = none := by
  cases hrest : t.drop count with
  | nil =>
    have hshort : t.length ≤ count := List.drop_eq_nil_iff.1 hrest
    omega
  | cons c rest =>
    have hmem : c ∈ t.drop count := hrest ▸ List.mem_cons_self
    exact Text.dropPrefix?_of_isDigit (h c (List.mem_of_mem_drop hmem)) hd

theorem dateTime?_of_digits (h : ∀ c ∈ t, c.isDigit) (hlong : 4 < t.length) :
    dateTime? t = none := by
  rw [dateTime?]
  cases hyear : boundedDigits? 4 0 9999 t with
  | none => rfl
  | some year =>
    have hrest : Text.dropPrefix? year.2 "-" = none := by
      rw [boundedDigits?_rest hyear]
      exact dropPrefix?_drop_of_digits h hlong rfl
    simp [hrest]

theorem afterTime?_of_digits (h : ∀ c ∈ t, c.isDigit) (hlong : 2 < t.length) :
    afterTime? t = none := by
  rw [afterTime?]
  cases hhour : boundedDigits? 2 0 23 t with
  | none => rfl
  | some hour =>
    have hrest : Text.dropPrefix? hour.2 ":" = none := by
      rw [boundedDigits?_rest hhour]
      exact dropPrefix?_drop_of_digits h hlong rfl
    simp [hrest]

/-- A whole number without a zero in front, of more digits than are read. -/
structure TooLong (digits : Text) : Prop where
  allDigits : ∀ c ∈ digits, c.isDigit
  noZero : ∀ rest, digits ≠ .char '0' :: rest
  long : Number.digitLimit < digits.length

namespace TooLong

theorem exists_cons (h : TooLong digits) : ∃ c rest, digits = c :: rest ∧ c.isDigit := by
  cases digits with
  | nil => cases h.long
  | cons c rest => exact ⟨c, rest, rfl, h.allDigits c List.mem_cons_self⟩

theorem decimal?_eq (h : TooLong digits) :
    Toml.decimal? digits = some (.error (.tooManyDigits digits.length)) := by
  obtain ⟨c, rest, rfl, hc⟩ := h.exists_cons
  have hwhole : wholeDigits? (c :: rest) = some (c :: rest, []) := by
    rw [wholeDigits?]
    · rw [digitRun, if_pos hc, spanDigits_of_all h.allDigits]
    · rintro _ ⟨⟩
      exact h.noZero _ rfl
  have hlong : Number.digitLimit < rest.length + 1 := h.long
  simp [Toml.decimal?, Number.splitSign_of_isDigit hc, hwhole,
    withoutUnderscores_of_digits h.allDigits, fractionDigits, exponentPart, hlong]

theorem basedInt?_eq_none (h : TooLong digits) : Toml.basedInt? digits = none := by
  rw [Toml.basedInt?]
  all_goals
    rintro _ rfl
    exact h.noZero _ rfl

theorem momentOrNumber_eq (h : TooLong digits) :
    Toml.momentOrNumber digits = .error (.tooManyDigits digits.length) := by
  have hlong : 4300 < digits.length := h.long
  rw [Toml.momentOrNumber, dateTime?_of_digits h.allDigits (by omega),
    afterTime?_of_digits h.allDigits (by omega), h.basedInt?_eq_none, h.decimal?_eq]
  rfl

/-- Such a number is no malformed value, but it is not read. -/
theorem value_eq (h : TooLong digits) (fuel : Nat) :
    value (fuel + 1) digits = .error (.tooManyDigits digits.length) := by
  have hnumber := h.momentOrNumber_eq
  obtain ⟨c, rest, rfl, hc⟩ := h.exists_cons
  have hne {d : CodePoint} (hd : d.isDigit = false) : c ≠ d := CodePoint.ne_of_isDigit hc hd
  have htrue : Text.dropPrefix? (c :: rest) "true" = none := Text.dropPrefix?_of_isDigit hc rfl
  have hfalse : Text.dropPrefix? (c :: rest) "false" = none := Text.dropPrefix?_of_isDigit hc rfl
  rw [value]
  · rw [htrue, hfalse]
    exact hnumber
  all_goals
    rintro _ ⟨⟩
    exact hne rfl rfl

/-- A document of one pair with such a number is not read either. -/
theorem ofText_pair (h : TooLong digits) :
    ofText (.char 'n' :: .char '=' :: digits) = .error (.tooManyDigits digits.length) := by
  obtain ⟨c, rest, hcons, hc⟩ := h.exists_cons
  have hspace : skipSpace digits = digits := by
    have hblank : c ≠ .char ' ' := CodePoint.ne_of_isDigit hc rfl
    have htab : c ≠ .char '\t' := CodePoint.ne_of_isDigit hc rfl
    rw [hcons, skipSpace, List.dropWhile_cons_of_neg (by simp [isSpace, hblank, htab])]
  have hkey : key (.char 'n' :: .char '=' :: digits) = .ok (["n"], .char '=' :: digits) := rfl
  have hpair : pairLine {} (.char 'n' :: .char '=' :: digits) =
      .error (.tooManyDigits digits.length) := by
    rw [pairLine, hkey]
    simp only [bind, Except.bind]
    rw [hspace, h.value_eq]
  have hstatement : statement {} (skipSpace (.char 'n' :: .char '=' :: digits)) =
      .error (.tooManyDigits digits.length) := hpair
  rw [ofText, statements, hstatement]
  rfl

end TooLong

end Toml

end ClassVerification
