import ClassVerification.Proofs.FilePath.Text
import ClassVerification.Proofs.Percent
import ClassVerification.Url.Basic

/-! The path of an address in its normal form: what dot segments take away, and what is encoded. -/
namespace ClassVerification

theorem Text.split_append (sep : CodePoint) (t u : Text) :
    split sep (t ++ sep :: u) = split sep t ++ split sep u := by
  induction t with
  | nil => simp [split]
  | cons c t ih =>
    obtain ⟨part, parts, hs⟩ := List.exists_cons_of_ne_nil (split_ne_nil sep t)
    simp only [List.cons_append, split, ih, hs]
    split <;> rfl

namespace Url

variable {path front word : Text}

/-- A path none of whose segments is a dot or two. -/
def IsPlain (path : Text) : Prop :=
  ∀ segment ∈ path.split (.char '/'), segment ≠ "." ∧ segment ≠ ".."

instance (path : Text) : Decidable (IsPlain path) :=
  inferInstanceAs (Decidable (∀ segment ∈ path.split (.char '/'), _))

theorem isPlain_append : IsPlain (front ++ .char '/' :: word) ↔ IsPlain front ∧ IsPlain word := by
  rw [IsPlain, Text.split_append]
  exact List.forall_mem_append

theorem foldl_pushSegment {segments : List Text}
    (h : ∀ segment ∈ segments, segment ≠ "." ∧ segment ≠ "..") (resolved : List Text) :
    segments.foldl pushSegment resolved = resolved ++ segments := by
  induction segments generalizing resolved with
  | nil => simp
  | cons segment segments ih =>
    obtain ⟨hdot, hdots⟩ := h segment List.mem_cons_self
    have hpush : pushSegment resolved segment = resolved ++ [segment] := by
      simp only [pushSegment, hdot, hdots, if_false]
    rw [List.foldl_cons, hpush, ih fun s hs => h s (List.mem_cons_of_mem _ hs)]
    simp

theorem resolveDots_of_isPlain (h : IsPlain path) : resolveDots path = path := by
  rw [resolveDots, foldl_pushSegment h, List.nil_append]
  exact Text.join_split _ _

/-- A dot as the last segment is dropped with the slash in front. -/
theorem resolveDots_dot (h : IsPlain front) : resolveDots (front ++ .char '/' :: ".") = front := by
  have hsplit : Text.split (.char '/') "." = [Text.ofString "."] := by decide
  rw [resolveDots, Text.split_append, List.foldl_append, foldl_pushSegment h, hsplit]
  exact Text.join_split _ _

/-- Two dots as the last segment take the segment before them along. -/
theorem resolveDots_dots (h : IsPlain front) (hword : IsPlain word) (hslash : .char '/' ∉ word) :
    resolveDots (front ++ .char '/' :: word ++ .char '/' :: "..") = front := by
  have hsplit : Text.split (.char '/') ".." = [Text.ofString ".."] := by decide
  have hlength : (front.split (.char '/') ++ [word]) ≠ [[]] := by
    intro heq
    have hne := List.length_pos_iff.2 (Text.split_ne_nil (.char '/') front)
    have hlength := congrArg List.length heq
    simp only [List.length_append, List.length_singleton] at hlength
    omega
  rw [resolveDots, Text.split_append, List.foldl_append,
    foldl_pushSegment (isPlain_append.2 ⟨h, hword⟩), hsplit, Text.split_append,
    Text.split_of_not_mem hslash]
  have hpush : [(".." : Text)].foldl pushSegment ([] ++ (front.split (.char '/') ++ [word])) =
      front.split (.char '/') := by
    have hdot : Text.ofString ".." ≠ Text.ofString "." := by decide
    simp [pushSegment, hlength, hdot]
  rw [hpush]
  exact Text.join_split _ _

/-- A path as it is sent: what is not safe in it is encoded. -/
def encodedPath (path : Text) : Text := path.flatMap (Percent.encodeOne pathSafe)

theorem pathSafe_of_isUnreserved {c : CodePoint} (h : Percent.isUnreserved c) : pathSafe c := by
  have table : ∀ n < 0x80, Percent.isUnreserved (.char (Char.ofNat n)) →
      pathSafe (.char (Char.ofNat n)) := by decide +kernel
  exact CodePoint.class_of_isAscii table (Percent.isAscii_of_isUnreserved h) h

theorem pathSafe_of_hexDigit? {c : CodePoint} (h : c.hexDigit?.isSome) : pathSafe c :=
  CodePoint.class_of_hexDigit? (by decide +kernel) h

theorem encodedPath_append : encodedPath (front ++ word) = encodedPath front ++ encodedPath word :=
  List.flatMap_append

theorem encodedPath_of_safe (h : ∀ c ∈ path, pathSafe c) : encodedPath path = path := by
  induction path with
  | nil => rfl
  | cons c path ih =>
    have hc := h c List.mem_cons_self
    have hpath := ih fun d hd => h d (List.mem_cons_of_mem _ hd)
    simp only [encodedPath] at hpath ⊢
    simp [Percent.encodeOne, hc, hpath]

/-- Escapes and safe code points are left as they stand. -/
theorem encodePart_pathSafe_eq_ok {t : Text} (h : encodePart pathSafe path = .ok t) :
    t = encodedPath path := by
  cases hencoded : Percent.encodeAround pathSafe path with
  | error flaw => simp [encodePart, hencoded] at h
  | ok encoded =>
    simp only [encodePart, hencoded, Except.ok.injEq] at h
    rw [← h]
    exact ((Percent.encodeAround_eq_ok_iff rfl fun c => pathSafe_of_hexDigit?).1 hencoded).2

end Url

end ClassVerification
