import Mathlib.Data.List.DropRight
import ClassVerification.Proofs.Api.Resource

/-! Paths of the service read back: each stands for one endpoint and one parameter. -/
namespace ClassVerification

namespace Percent

/-- What parts a path, ends it, or stands for a parameter in a template. -/
def separators : Text := "/?#\x7b\x7d"

/-- Nothing in a segment can be taken for more than text. -/
theorem plain_of_mem_segment {t : Text} {c : CodePoint} (h : c ∈ segment t) :
    c.isAscii ∧ c ∉ separators := by
  rcases mem_segment h with hc | rfl
  · refine ⟨isAscii_of_isUnreserved hc, fun hmem => ?_⟩
    have hreserved : ∀ d ∈ separators, isUnreserved d = false := by decide
    rw [hreserved c hmem] at hc
    cases hc
  · decide

end Percent

namespace Endpoint

variable {e other : Endpoint} {p q path : Text}

def all : List Endpoint := [.getClass, .getJobStatus, .verifyClass]

/-- The endpoint whose template has a fixed front. -/
def ofStem? (stem : Text) : Option Endpoint := all.find? (·.stem = stem)

/-- Reads a path back. Up to its last slash it is the front of a template, and the rest is the
encoded parameter. -/
def readPath? (path : Text) : Option (Endpoint × Text) := do
  let e ← ofStem? (path.rdropWhile (· != .char '/'))
  let parameter ← Percent.decode? (path.rtakeWhile (· != .char '/'))
  return (e, parameter)

theorem ofStem?_stem (e : Endpoint) : ofStem? e.stem = some e := by
  cases e <;> decide

theorem path_eq_ok_iff :
    e.path p = .ok path ↔ p.IsScalar ∧ path = e.stem ++ Percent.segment p := by
  rw [Endpoint.path]
  cases hsegment : Percent.encodeSegment p with
  | error flaw =>
    have hnot : ¬ p.IsScalar := fun hp => by
      rw [Percent.encodeSegment_eq_ok_iff.2 ⟨hp, rfl⟩] at hsegment
      cases hsegment
    simp [hnot]
  | ok segment =>
    obtain ⟨hp, rfl⟩ := Percent.encodeSegment_eq_ok_iff.1 hsegment
    simp [hp, eq_comm]

/-- A parameter that holds a lone surrogate has no path. The error tells its first run of them. -/
theorem path_eq_error (h : ¬ p.IsScalar) : ∃ front run rest,
    e.path p = .error (.unencodable .utf8 ⟨front.length, run⟩) ∧ p = front ++ run ++ rest ∧
      Text.IsScalar front ∧ run ≠ [] ∧ (∀ c ∈ run, c.isScalar = false) ∧
      ∀ c ∈ rest.head?, c.isScalar := by
  have hfound : Unencodable.find CodePoint.isScalar 0 p ≠ none :=
    fun hnone => h (Text.find_isScalar_eq_none_iff.1 hnone)
  obtain ⟨⟨start, run⟩, hflaw⟩ := Option.ne_none_iff_exists'.1 hfound
  obtain ⟨front, rest, hp, hstart, hfront, hrun⟩ := Unencodable.find_eq_some hflaw
  rw [Nat.zero_add] at hstart
  refine ⟨front, run, rest, ?_, hp, Text.isScalar_iff.2 hfront, hrun⟩
  rw [Endpoint.path, Percent.encodeSegment, hflaw, ← hstart]

/-- The last slash of a path parts the template from the parameter. -/
theorem readPath?_stem_append {segment : Text} (h : .char '/' ∉ segment) :
    readPath? (e.stem ++ segment) = (Percent.decode? segment).map (e, ·) := by
  obtain ⟨front, hstem⟩ : ∃ front, e.stem = front ++ [.char '/'] := ⟨_, e.stem_eq⟩
  have hkeep : ∀ c ∈ segment.reverse, (c != .char '/') = true := by
    intro c hc
    refine bne_iff_ne.2 fun heq => h ?_
    exact List.mem_reverse.1 (heq ▸ hc)
  have hfront : (e.stem ++ segment).rdropWhile (· != .char '/') = e.stem := by
    rw [List.rdropWhile, List.reverse_append, List.dropWhile_append_of_pos hkeep, hstem]
    simp
  have hrest : (e.stem ++ segment).rtakeWhile (· != .char '/') = segment := by
    rw [List.rtakeWhile, List.reverse_append, List.takeWhile_append_of_pos hkeep, hstem]
    simp
  rw [readPath?, hfront, hrest, ofStem?_stem]
  cases Percent.decode? segment <;> rfl

theorem readPath?_of_path (h : e.path p = .ok path) : readPath? path = some (e, p) := by
  obtain ⟨hp, rfl⟩ := path_eq_ok_iff.1 h
  rw [readPath?_stem_append (Percent.slash_not_mem_segment p), Percent.decode?_segment hp]
  rfl

/-- A parameter without lone surrogates stands in the path of an endpoint as one segment of plain
basic characters that decodes to it, and the path is that of no other endpoint or parameter. Any
other parameter has no path. -/
theorem path_reads_back (e : Endpoint) (p : Text) :
    (p.IsScalar ∧ ∃ segment, e.path p = .ok (e.stem ++ segment) ∧
      (∀ c ∈ segment, c.isAscii ∧ c ∉ Percent.separators) ∧ Percent.decode? segment = some p ∧
      readPath? (e.stem ++ segment) = some (e, p) ∧
      ∀ other q, other.path q = .ok (e.stem ++ segment) → other = e ∧ q = p) ∨
    (¬ p.IsScalar ∧ ∃ front run rest,
      e.path p = .error (.unencodable .utf8 ⟨front.length, run⟩) ∧ p = front ++ run ++ rest ∧
      Text.IsScalar front ∧ run ≠ [] ∧ (∀ c ∈ run, c.isScalar = false) ∧
      ∀ c ∈ rest.head?, c.isScalar) := by
  by_cases hp : p.IsScalar
  · refine Or.inl ⟨hp, Percent.segment p, ?_⟩
    have hpath : e.path p = .ok (e.stem ++ Percent.segment p) := path_eq_ok_iff.2 ⟨hp, rfl⟩
    have hread := readPath?_of_path hpath
    refine ⟨hpath, fun c hc => Percent.plain_of_mem_segment hc, Percent.decode?_segment hp, hread,
      fun other q hother => ?_⟩
    have heq := Option.some.inj ((readPath?_of_path hother).symm.trans hread)
    exact Prod.mk.inj heq
  · exact Or.inr ⟨hp, path_eq_error hp⟩

/-- A class hash that spells the front of a job's path does not become that path. -/
example : verifyClass.path "job/x" = .ok "/class-verify/job%2Fx" ∧
    getJobStatus.path "x" = .ok "/class-verify/job/x" := ⟨rfl, rfl⟩

end Endpoint

end ClassVerification
