import Mathlib.Data.List.TakeDrop
import Mathlib.Data.List.TakeWhile
import ClassVerification.Proofs.Text.Class
import ClassVerification.Toolchain.Version

/-! Which version is read from the output of the build tool: its tokens, and how they begin. -/
namespace ClassVerification

namespace CodePoint

/-- No number of a decimal digit is one of white space. -/
theorem not_blank_of_digitZeros : ∀ first ∈ digitZeros, ∀ i < 10,
    ¬ (char (Char.ofNat (first + i))).isBlank ∧
      (char (Char.ofNat (first + i))).value = first + i := by
  decide +kernel

theorem not_isBlank_of_isDecimalDigit {c : CodePoint} (h : c.isDecimalDigit) :
    c.isBlank = false := by
  obtain ⟨first, hfirst, hrange⟩ := List.any_eq_true.1 h
  simp only [Bool.and_eq_true, decide_eq_true_eq] at hrange
  obtain ⟨hblank, hvalue⟩ := not_blank_of_digitZeros first hfirst (c.value - first) (by omega)
  rw [Nat.add_sub_cancel' hrange.1] at hblank hvalue
  rw [Bool.not_eq_true] at hblank
  rw [← hblank, isBlank, isBlank, hvalue]

end CodePoint

namespace Toolchain

variable {t rest digits v w : Text}

/-- A text that begins with no digit. -/
def StartsNoDigit (t : Text) : Prop := ∀ c ∈ t.head?, c.isDecimalDigit = false

/-- A run of digits that is not empty. -/
def IsNumber (t : Text) : Prop := t ≠ [] ∧ ∀ c ∈ t, c.isDecimalDigit

/-- Three numbers with points between them. -/
def IsVersion (v : Text) : Prop :=
  ∃ major minor patch, IsNumber major ∧ IsNumber minor ∧ IsNumber patch ∧
    v = major ++ point ++ minor ++ point ++ patch

theorem startsNoDigit_dropWhile (t : Text) :
    StartsNoDigit (t.dropWhile CodePoint.isDecimalDigit) := by
  intro c hc
  have hhead := List.head?_dropWhile_not CodePoint.isDecimalDigit t
  rw [Option.mem_def.1 hc] at hhead
  simpa using hhead

/-- A number is read up to the first code point that is no digit. -/
theorem number?_eq_some_iff : number? t = some (digits, rest) ↔
    IsNumber digits ∧ StartsNoDigit rest ∧ t = digits ++ rest := by
  rw [number?, List.span_eq_takeWhile_dropWhile]
  constructor
  · intro h
    dsimp only at h
    split at h
    · cases h
    · next hne =>
      obtain ⟨rfl, rfl⟩ := Prod.mk.inj (Option.some.inj h)
      exact ⟨⟨by simpa using hne, fun c hc => List.mem_takeWhile_imp hc⟩, startsNoDigit_dropWhile t,
        List.takeWhile_append_dropWhile.symm⟩
  · rintro ⟨⟨hne, hdigits⟩, hrest, rfl⟩
    have hstop : rest.takeWhile CodePoint.isDecimalDigit = [] ∧
        rest.dropWhile CodePoint.isDecimalDigit = rest := by
      cases rest with
      | nil => exact ⟨rfl, rfl⟩
      | cons c rest => simp [hrest c rfl]
    rw [List.takeWhile_append_of_pos hdigits, List.dropWhile_append_of_pos hdigits, hstop.1,
      hstop.2, List.append_nil]
    simp [hne]

theorem startsNoDigit_point (t : Text) : StartsNoDigit (point ++ t) := by
  intro c hc
  obtain rfl : c = .char '.' := (Option.some.inj hc).symm
  decide

/-- A version is read at the front of a text just if the text goes on with no digit. -/
theorem triple?_eq_some_iff : triple? t = some v ↔
    IsVersion v ∧ ∃ rest, StartsNoDigit rest ∧ t = v ++ rest := by
  simp only [triple?, Option.bind_eq_bind, Option.bind_eq_some_iff]
  constructor
  · rintro ⟨⟨major, _⟩, hfirst, _, hpoint, ⟨minor, _⟩, hsecond, _, hother, ⟨patch, rest⟩, hthird,
      hv⟩
    obtain ⟨hmajor, -, rfl⟩ := number?_eq_some_iff.1 hfirst
    obtain rfl := Text.dropPrefix?_eq_some_iff.1 hpoint
    obtain ⟨hminor, -, rfl⟩ := number?_eq_some_iff.1 hsecond
    obtain rfl := Text.dropPrefix?_eq_some_iff.1 hother
    obtain ⟨hpatch, hrest, rfl⟩ := number?_eq_some_iff.1 hthird
    cases hv
    exact ⟨⟨major, minor, patch, hmajor, hminor, hpatch, rfl⟩, rest, hrest, by simp⟩
  · rintro ⟨⟨major, minor, patch, hmajor, hminor, hpatch, rfl⟩, rest, hrest, rfl⟩
    refine ⟨(major, point ++ (minor ++ (point ++ (patch ++ rest)))), ?_, _,
      Text.dropPrefix?_append _ _, (minor, point ++ (patch ++ rest)), ?_, _,
      Text.dropPrefix?_append _ _, (patch, rest), ?_, rfl⟩
    · exact number?_eq_some_iff.2 ⟨hmajor, startsNoDigit_point _, by simp⟩
    · exact number?_eq_some_iff.2 ⟨hminor, startsNoDigit_point _, rfl⟩
    · exact number?_eq_some_iff.2 ⟨hpatch, hrest, rfl⟩

/-- A version at the front of a text is read with its last number as long as possible. -/
theorem triple?_append_of_isVersion (h : IsVersion v) (rest : Text) :
    triple? (v ++ rest) = some (v ++ rest.takeWhile CodePoint.isDecimalDigit) := by
  obtain ⟨major, minor, patch, hmajor, hminor, ⟨hne, hpatch⟩, rfl⟩ := h
  have hlong : IsNumber (patch ++ rest.takeWhile CodePoint.isDecimalDigit) := by
    refine ⟨by simp [hne], List.forall_mem_append.2 ⟨hpatch, fun c hc => ?_⟩⟩
    exact List.mem_takeWhile_imp hc
  refine triple?_eq_some_iff.2 ⟨⟨major, minor, _, hmajor, hminor, hlong, by simp⟩, _,
    startsNoDigit_dropWhile rest, ?_⟩
  simp only [List.append_assoc, List.takeWhile_append_dropWhile]

/-- No version is read just if the text begins with none. -/
theorem triple?_eq_none_iff : triple? t = none ↔ ∀ v, IsVersion v → ¬ v <+: t := by
  constructor
  · rintro hnone v hv ⟨rest, rfl⟩
    rw [triple?_append_of_isVersion hv] at hnone
    cases hnone
  · intro h
    rw [Option.eq_none_iff_forall_ne_some]
    intro v hv
    obtain ⟨hversion, rest, -, rfl⟩ := triple?_eq_some_iff.1 hv
    exact h v hversion (List.prefix_append v rest)

theorem IsVersion.not_isBlank (h : IsVersion v) : ∀ c ∈ v, c.isBlank = false := by
  obtain ⟨major, minor, patch, ⟨-, hmajor⟩, ⟨-, hminor⟩, ⟨-, hpatch⟩, rfl⟩ := h
  have hpoint : ∀ c ∈ point, c.isBlank = false := by decide
  simp only [List.forall_mem_append]
  exact ⟨⟨⟨⟨fun c hc => CodePoint.not_isBlank_of_isDecimalDigit (hmajor c hc), hpoint⟩,
    fun c hc => CodePoint.not_isBlank_of_isDecimalDigit (hminor c hc)⟩, hpoint⟩,
    fun c hc => CodePoint.not_isBlank_of_isDecimalDigit (hpatch c hc)⟩

/-- A text up to its first white space. -/
def token (t : Text) : Text := t.takeWhile fun c => !c.isBlank

/-- What follows the first token begins with white space, if it is not empty, so with no digit. -/
theorem startsNoDigit_afterToken (t : Text) : StartsNoDigit (t.dropWhile fun c => !c.isBlank) := by
  intro c hc
  have hhead := List.head?_dropWhile_not (fun c => !CodePoint.isBlank c) t
  rw [Option.mem_def.1 hc] at hhead
  have hblank : c.isBlank := by simpa using hhead
  by_contra hdigit
  rw [Bool.not_eq_false] at hdigit
  rw [CodePoint.not_isBlank_of_isDecimalDigit hdigit] at hblank
  cases hblank

theorem StartsNoDigit.append (ht : StartsNoDigit t) (hrest : StartsNoDigit rest) :
    StartsNoDigit (t ++ rest) := by
  cases t with
  | nil => exact hrest
  | cons c t => exact ht

theorem StartsNoDigit.token (h : StartsNoDigit t) : StartsNoDigit (token t) := by
  intro c hc
  cases t with
  | nil => exact h c hc
  | cons d t =>
    by_cases hd : d.isBlank
    · simp [Toolchain.token, hd] at hc
    · exact h c (by simpa [Toolchain.token, hd] using hc)

/-- Whether a version is read hangs on the first token alone. -/
theorem triple?_token (t : Text) : triple? (token t) = triple? t := by
  ext v
  rw [triple?_eq_some_iff, triple?_eq_some_iff]
  refine and_congr_right fun hv => ⟨?_, ?_⟩
  · rintro ⟨rest, hrest, htoken⟩
    refine ⟨_, hrest.append (startsNoDigit_afterToken t), ?_⟩
    rw [← List.append_assoc, ← htoken]
    exact List.takeWhile_append_dropWhile.symm
  · rintro ⟨rest, hrest, rfl⟩
    refine ⟨token rest, hrest.token, ?_⟩
    exact List.takeWhile_append_of_pos fun c hc => by simp [hv.not_isBlank c hc]

/-- What follows the name of the tool and white space, if a text begins with them. -/
def afterName? (t : Text) : Option Text :=
  (t.dropPrefix? "scarb").bind fun rest =>
    if rest.head?.any CodePoint.isBlank then some (rest.dropWhile CodePoint.isBlank) else none

theorem reported?_eq (t : Text) : reported? t = (afterName? t).bind triple? := by
  rw [reported?, afterName?, Option.bind_assoc]
  congr 1
  funext rest
  split <;> rfl

/-- The ends of a text that begin a line. Whether the text begins one itself is told. -/
def lineStarts (atStart : Bool) : Text → List Text
  | [] => []
  | c :: rest => (if atStart then [c :: rest] else []) ++ lineStarts (c = .char '\n') rest

/-- The tokens that the tool announces: after its name at the start of a line and white space. -/
def announced (output : Text) : List Text :=
  ((lineStarts true output).filterMap afterName?).map token

theorem search_eq (atStart : Bool) (t : Text) :
    search atStart t = (lineStarts atStart t).findSome? reported? := by
  induction t generalizing atStart with
  | nil => rfl
  | cons c rest ih =>
    rw [search, lineStarts, List.findSome?_append, ih]
    cases atStart with
    | false => rfl
    | true => cases hversion : reported? (c :: rest) <;> simp [hversion]

/-- The version in an output is the first one that an announced token begins with. -/
theorem installedVersion?_eq (output : Text) :
    installedVersion? output = (announced output).findSome? triple? := by
  have htoken : triple? ∘ token = triple? := funext triple?_token
  have hreported : reported? = fun t => (afterName? t).bind triple? := funext reported?_eq
  rw [installedVersion?, search_eq, announced, List.findSome?_map, htoken, hreported,
    ← List.head?_filterMap, ← List.head?_filterMap, List.filterMap_filterMap]

/-- An output reports a version just if the first announced token that begins with a version begins
with this one, and goes on with no digit. -/
theorem installedVersion?_eq_some_iff {output : Text} : installedVersion? output = some v ↔
    IsVersion v ∧ ∃ passed rest others, announced output = passed ++ (v ++ rest) :: others ∧
      (∀ token ∈ passed, ∀ w, IsVersion w → ¬ w <+: token) ∧ StartsNoDigit rest := by
  rw [installedVersion?_eq, List.findSome?_eq_some_iff]
  simp only [triple?_eq_none_iff]
  constructor
  · rintro ⟨passed, token, others, htokens, htoken, hpassed⟩
    obtain ⟨hv, rest, hrest, rfl⟩ := triple?_eq_some_iff.1 htoken
    exact ⟨hv, passed, rest, others, htokens, hpassed, hrest⟩
  · rintro ⟨hv, passed, rest, others, htokens, hpassed, hrest⟩
    exact ⟨passed, _, others, htokens, triple?_eq_some_iff.2 ⟨hv, rest, hrest, rfl⟩, hpassed⟩

end Toolchain

end ClassVerification
