import ClassVerification.Percent
import ClassVerification.Proofs.Text.Class
import ClassVerification.Proofs.Text.Utf8

/-! Percent-encoding a segment loses nothing, and leaves nothing that ends a segment. -/
namespace ClassVerification

namespace Percent

variable {c : CodePoint} {t encoded : Text} {isSafe : CodePoint → Bool}

theorem isAscii_of_isUnreserved (h : isUnreserved c) : c.isAscii := by
  simp only [isUnreserved, Bool.or_eq_true, CodePoint.isUpperLatin, CodePoint.isLowerLatin,
    Bool.and_eq_true, decide_eq_true_eq] at h
  rcases h with (((((h | h) | h) | rfl) | rfl) | rfl) | rfl
  · exact CodePoint.isAscii_iff.2 (by omega)
  · exact CodePoint.isAscii_iff.2 (by omega)
  · exact CodePoint.isAscii_of_isDigit h
  all_goals rfl

theorem hexDigit?_hexCapital {n : Nat} (h : n < 16) : (hexCapital n).hexDigit? = some n := by
  have table : ∀ n < 16, (hexCapital n).hexDigit? = some n := by decide
  exact table n h

theorem isUnreserved_hexCapital {n : Nat} (h : n < 16) : isUnreserved (hexCapital n) := by
  have table : ∀ n < 16, isUnreserved (hexCapital n) := by decide
  exact table n h

theorem units_cons (hc : c ≠ .char '%') (t : Text) : units (c :: t) = [c] :: units t := by
  match t with
  | [] => rfl
  | [d] => rfl
  | a :: b :: rest => simp [units, hc]

theorem units_byte_append (b : UInt8) (t : Text) : units (byte b ++ t) = byte b :: units t := by
  have hhigh := hexDigit?_hexCapital (n := b.toNat / 16) (by have := b.toNat_lt; omega)
  have hlow := hexDigit?_hexCapital (n := b.toNat % 16) (by omega)
  simp [byte, units, hhigh, hlow]

theorem unitBytes_byte (b : UInt8) : unitBytes (byte b) = [b] := by
  have hlt := b.toNat_lt
  have hhigh := hexDigit?_hexCapital (n := b.toNat / 16) (by omega)
  have hlow := hexDigit?_hexCapital (n := b.toNat % 16) (by omega)
  have hsum : b.toNat / 16 * 16 + b.toNat % 16 = b.toNat := by omega
  simp [byte, unitBytes, hhigh, hlow, hsum]

/-- A text as one segment of a path. -/
def segment (t : Text) : Text := t.flatMap (encodeOne isUnreserved)

theorem encodeSegment_eq_ok_iff :
    encodeSegment t = .ok encoded ↔ t.IsScalar ∧ encoded = segment t := by
  rw [← Text.find_isScalar_eq_none_iff, encodeSegment]
  cases Unencodable.find CodePoint.isScalar 0 t with
  | some flaw => simp
  | none => simp [segment, eq_comm]

/-- The bytes that an encoded text stands for. -/
def bytesOf (t : Text) : List UInt8 := (units t).flatMap unitBytes

theorem bytesOf_bytes_append (bytes : List UInt8) (t : Text) :
    bytesOf (bytes.flatMap byte ++ t) = bytes ++ bytesOf t := by
  induction bytes with
  | nil => rfl
  | cons b bytes ih =>
    simp only [bytesOf] at ih ⊢
    rw [List.flatMap_cons, List.append_assoc, units_byte_append, List.flatMap_cons, unitBytes_byte,
      ih]
    rfl

/-- A segment stands for the bytes of its text. -/
theorem bytesOf_segment (t : Text) : bytesOf (segment t) = Utf8.bytesOf t := by
  rw [segment]
  induction t with
  | nil => rfl
  | cons c t ih =>
    simp only [List.flatMap_cons, encodeOne]
    by_cases hc : isUnreserved c
    · have hpercent : c ≠ .char '%' := by
        rintro rfl
        cases hc
      rw [if_pos hc, List.singleton_append, bytesOf, units_cons hpercent, List.flatMap_cons,
        ← bytesOf, ih]
      simp [unitBytes, Utf8.bytesOf]
    · cases c with
      | surrogate i => simpa [hc, Utf8.bytesOf] using ih
      | char a =>
        rw [if_neg hc, bytesOf_bytes_append, ih]
        simp [Utf8.bytesOf]

/-- Decoding a segment gives the text back that it was encoded from. -/
theorem decode?_segment (h : t.IsScalar) : decode? (segment t) = some t := by
  rw [decode?, ← bytesOf, bytesOf_segment, Utf8.decode_bytesOf h]
  rfl

theorem segment_inj {u : Text} (ht : t.IsScalar) (hu : u.IsScalar) (h : segment t = segment u) :
    t = u := by
  have hread := decode?_segment ht
  rw [h, decode?_segment hu] at hread
  exact (Option.some.inj hread).symm

/-- In a segment stand unreserved code points and percent signs alone. -/
theorem mem_segment (h : c ∈ segment t) : isUnreserved c ∨ c = .char '%' := by
  obtain ⟨d, -, hc⟩ := List.mem_flatMap.1 h
  simp only [encodeOne] at hc
  split at hc
  · next hd => exact Or.inl (List.mem_singleton.1 hc ▸ hd)
  cases d with
  | surrogate i => cases hc
  | char a =>
    obtain ⟨b, -, hc⟩ := List.mem_flatMap.1 hc
    have hlt := b.toNat_lt
    simp only [byte, List.mem_cons, List.not_mem_nil, or_false] at hc
    rcases hc with rfl | rfl | rfl
    · exact Or.inr rfl
    · exact Or.inl (isUnreserved_hexCapital (by omega))
    · exact Or.inl (isUnreserved_hexCapital (by omega))

theorem slash_not_mem_segment (t : Text) : .char '/' ∉ segment t := by
  intro h
  rcases mem_segment h with h | h <;> cases h

/-- Where percent signs and hexadecimal digits are safe, no escape needs a look of its own. -/
theorem encodeUnits_eq_flatMap (hpercent : isSafe (.char '%'))
    (hdigit : ∀ c : CodePoint, c.hexDigit?.isSome → isSafe c) (t : Text) :
    (units t).flatMap (encodeUnit isSafe) = t.flatMap (encodeOne isSafe) := by
  fun_induction units t with
  | case1 => rfl
  | case2 c => simp [encodeUnit]
  | case3 c d => simp [encodeUnit]
  | case4 c a b rest hc ih =>
    simp only [Bool.and_eq_true, decide_eq_true_eq] at hc
    obtain ⟨⟨rfl, ha⟩, hb⟩ := hc
    simp [encodeUnit, encodeOne, hpercent, hdigit a ha, hdigit b hb, ih]
  | case5 c a b rest hc ih =>
    rw [List.flatMap_cons, ih]
    simp [encodeUnit]

/-- So encoding around the escapes is encoding one code point after the other. -/
theorem encodeAround_eq_ok_iff (hpercent : isSafe (.char '%'))
    (hdigit : ∀ c : CodePoint, c.hexDigit?.isSome → isSafe c) :
    encodeAround isSafe t = .ok encoded ↔
      t.IsScalar ∧ encoded = t.flatMap (encodeOne isSafe) := by
  have hscalar : t.find? (!CodePoint.isScalar ·) = none ↔ t.IsScalar := by
    simp only [List.find?_eq_none, Bool.not_eq_true', Bool.not_eq_false, Text.isScalar_iff]
  rw [← hscalar, encodeAround]
  cases t.find? (!CodePoint.isScalar ·) with
  | some c => simp
  | none =>
    simp only [Except.ok.injEq, true_and]
    rw [encodeUnits_eq_flatMap hpercent hdigit]
    exact eq_comm

theorem encodeOne_ne_nil (h : c.isScalar) : encodeOne isSafe c ≠ [] := by
  cases c with
  | surrogate i => cases h
  | char a =>
    simp only [encodeOne]
    split
    · simp
    · have hspells := Utf8.spells_encodeValue (Utf8.isScalarValue_toNat a)
      rw [Utf8.encodeChar]
      intro heq
      cases hbytes : Utf8.encodeValue a.toNat with
      | nil =>
        rw [hbytes] at hspells
        cases hspells
      | cons b bytes => simp [hbytes, byte] at heq

end Percent

end ClassVerification
