import ClassVerification.Proofs.Outcome
import ClassVerification.Proofs.Text.Class
import ClassVerification.Text.Utf8

/-! Reading UTF-8 undoes writing it, and only what can be written is read. -/
namespace ClassVerification

theorem CodePoint.ofNat?_toNat (c : Char) : ofNat? c.toNat = some (.char c) := by
  have hvalid : c.toNat < 0xD800 ∨ 0xDFFF < c.toNat ∧ c.toNat < 0x110000 := c.valid
  have hlow : ¬ (0xD800 ≤ c.toNat ∧ c.toNat < 0xE000) := by omega
  have hhigh : c.toNat < 0x110000 := by omega
  simp [ofNat?, hlow, hhigh]

namespace Utf8

/-- A number that is the code of a character: neither that of a surrogate nor too large. -/
def IsScalarValue (n : Nat) : Prop := n < 0xD800 ∨ 0xE000 ≤ n ∧ n < 0x110000

theorem isScalarValue_toNat (c : Char) : IsScalarValue c.toNat := by
  have hvalid : c.toNat < 0xD800 ∨ 0xDFFF < c.toNat ∧ c.toNat < 0x110000 := c.valid
  simp only [IsScalarValue]
  omega

theorem IsScalarValue.exists_char {n : Nat} (h : IsScalarValue n) : ∃ c : Char, c.toNat = n := by
  have hvalid : n.isValidChar := by
    simp only [IsScalarValue, Nat.isValidChar] at h ⊢
    omega
  exact ⟨Char.ofNatAux n hvalid, rfl⟩

/-- The byte sequences of one character, one constructor for each length, and the numbers that they
spell. -/
inductive Spells : List UInt8 → Nat → Prop where
  | one {lead : UInt8} {n : Nat} : lead.toNat < 0x80 → n = lead.toNat → Spells [lead] n
  | two {lead second : UInt8} {n : Nat} : 0xC2 ≤ lead.toNat → lead.toNat < 0xE0 →
      isContinuation second → n = (lead.toNat - 0xC0) * 64 + payload second →
      Spells [lead, second] n
  | three {lead second third : UInt8} {n : Nat} : 0xE0 ≤ lead.toNat → lead.toNat < 0xF0 →
      followsLead false lead second → isContinuation third →
      n = ((lead.toNat - 0xE0) * 64 + payload second) * 64 + payload third →
      Spells [lead, second, third] n
  | four {lead second third fourth : UInt8} {n : Nat} : 0xF0 ≤ lead.toNat → lead.toNat ≤ 0xF4 →
      followsLead false lead second → isContinuation third → isContinuation fourth →
      n = (((lead.toNat - 0xF0) * 64 + payload second) * 64 + payload third) * 64 +
        payload fourth →
      Spells [lead, second, third, fourth] n

theorem isContinuation_iff {b : UInt8} : isContinuation b ↔ 0x80 ≤ b.toNat ∧ b.toNat ≤ 0xBF := by
  simp [isContinuation, UInt8.le_iff_toNat_le]

theorem followsLead_iff {lead next : UInt8} : followsLead false lead next ↔
    0x80 ≤ next.toNat ∧ next.toNat ≤ 0xBF ∧ (lead.toNat = 0xE0 → 0xA0 ≤ next.toNat) ∧
      (lead.toNat = 0xED → next.toNat ≤ 0x9F) ∧ (lead.toNat = 0xF0 → 0x90 ≤ next.toNat) ∧
      (lead.toNat = 0xF4 → next.toNat ≤ 0x8F) := by
  simp only [followsLead, Bool.and_eq_true, isContinuation_iff, Bool.or_eq_true, bne_iff_ne,
    decide_eq_true_eq, UInt8.le_iff_toNat_le, ne_eq, ← UInt8.toNat_inj, UInt8.reduceToNat,
    Bool.false_eq_true, or_false]
  omega

theorem toNat_toUInt8 {n : Nat} (h : n < 256) : n.toUInt8.toNat = n := by
  simp [Nat.mod_eq_of_lt h]

theorem eq_toUInt8 {b : UInt8} {n : Nat} (h : b.toNat = n) : n.toUInt8 = b := by
  subst h
  simp

/-- The bytes of a scalar value spell it. -/
theorem spells_encodeValue {n : Nat} (h : IsScalarValue n) : Spells (encodeValue n) n := by
  simp only [IsScalarValue] at h
  have hbyte (m : Nat) (hm : m < 256) : m.toUInt8.toNat = m := toNat_toUInt8 hm
  by_cases hone : n < 0x80
  · have hlead := hbyte n (by omega)
    rw [encodeValue, if_pos hone]
    exact .one (by omega) hlead.symm
  by_cases htwo : n < 0x800
  · have hlead := hbyte (0xC0 + n / 64) (by omega)
    have hsecond := hbyte (0x80 + n % 64) (by omega)
    rw [encodeValue, if_neg hone, if_pos htwo]
    refine .two (by omega) (by omega) (isContinuation_iff.2 (by omega)) ?_
    simp only [payload]
    omega
  by_cases hthree : n < 0x10000
  · have hlead := hbyte (0xE0 + n / 4096) (by omega)
    have hsecond := hbyte (0x80 + n / 64 % 64) (by omega)
    have hthird := hbyte (0x80 + n % 64) (by omega)
    rw [encodeValue, if_neg hone, if_neg htwo, if_pos hthree]
    refine .three (by omega) (by omega) (followsLead_iff.2 (by omega))
      (isContinuation_iff.2 (by omega)) ?_
    simp only [payload]
    omega
  · have hlead := hbyte (0xF0 + n / 262144) (by omega)
    have hsecond := hbyte (0x80 + n / 4096 % 64) (by omega)
    have hthird := hbyte (0x80 + n / 64 % 64) (by omega)
    have hfourth := hbyte (0x80 + n % 64) (by omega)
    rw [encodeValue, if_neg hone, if_neg htwo, if_neg hthree]
    refine .four (by omega) (by omega) (followsLead_iff.2 (by omega))
      (isContinuation_iff.2 (by omega)) (isContinuation_iff.2 (by omega)) ?_
    simp only [payload]
    omega

/-- Only the bytes of a scalar value spell it. -/
theorem Spells.eq_encodeValue {bytes : List UInt8} {n : Nat} (h : Spells bytes n) :
    IsScalarValue n ∧ bytes = encodeValue n := by
  cases h with
  | @one lead n hlead hn =>
    refine ⟨Or.inl (by omega), ?_⟩
    rw [encodeValue, if_pos (by omega), eq_toUInt8 hn.symm]
  | @two lead second n hmin hmax hsecond hn =>
    rw [isContinuation_iff] at hsecond
    simp only [payload] at hn
    refine ⟨Or.inl (by omega), ?_⟩
    rw [encodeValue, if_neg (by omega), if_pos (by omega), eq_toUInt8 (b := lead) (by omega),
      eq_toUInt8 (b := second) (by omega)]
  | @three lead second third n hmin hmax hsecond hthird hn =>
    rw [followsLead_iff] at hsecond
    rw [isContinuation_iff] at hthird
    simp only [payload] at hn
    refine ⟨?_, ?_⟩
    · simp only [IsScalarValue]
      omega
    · rw [encodeValue, if_neg (by omega), if_neg (by omega), if_pos (by omega),
        eq_toUInt8 (b := lead) (by omega), eq_toUInt8 (b := second) (by omega),
        eq_toUInt8 (b := third) (by omega)]
  | @four lead second third fourth n hmin hmax hsecond hthird hfourth hn =>
    rw [followsLead_iff] at hsecond
    rw [isContinuation_iff] at hthird hfourth
    simp only [payload] at hn
    refine ⟨?_, ?_⟩
    · simp only [IsScalarValue]
      omega
    · rw [encodeValue, if_neg (by omega), if_neg (by omega), if_neg (by omega),
        eq_toUInt8 (b := lead) (by omega), eq_toUInt8 (b := second) (by omega),
        eq_toUInt8 (b := third) (by omega), eq_toUInt8 (b := fourth) (by omega)]

/-- A byte sequence that spells a number is the piece at the front of every sequence that begins
with it. -/
theorem front_of_spells {lead : UInt8} {tail : List UInt8} {n : Nat} (h : Spells (lead :: tail) n)
    (rest : List UInt8) : front false lead (tail ++ rest) = spelled n (tail.length + 1) := by
  have hlt (b : UInt8) : lead < b ↔ lead.toNat < b.toNat := Iff.rfl
  have hgt (b : UInt8) : b < lead ↔ b.toNat < lead.toNat := Iff.rfl
  cases h with
  | one hlead hn => simp [front, hlt, hlead, hn]
  | @two _ second _ hmin hmax hsecond hn =>
    have hfollows : followsLead false lead second := by
      rw [isContinuation_iff] at hsecond
      exact followsLead_iff.2 (by omega)
    have hone : ¬ lead.toNat < 0x80 := by omega
    have hstart : ¬ (lead.toNat < 0xC2 ∨ 0xF4 < lead.toNat) := by omega
    simp [front, hlt, hgt, hone, hstart, hfollows, hmax, hn]
  | three hmin hmax hsecond hthird hn =>
    have hone : ¬ lead.toNat < 0x80 := by omega
    have hstart : ¬ (lead.toNat < 0xC2 ∨ 0xF4 < lead.toNat) := by omega
    have htwo : ¬ lead.toNat < 0xE0 := by omega
    simp [front, hlt, hgt, hone, hstart, htwo, hsecond, hthird, hmax, hn]
  | four hmin hmax hsecond hthird hfourth hn =>
    have hone : ¬ lead.toNat < 0x80 := by omega
    have hstart : ¬ (lead.toNat < 0xC2 ∨ 0xF4 < lead.toNat) := by omega
    have htwo : ¬ lead.toNat < 0xE0 := by omega
    have hthree : ¬ lead.toNat < 0xF0 := by omega
    simp [front, hlt, hgt, hone, hstart, htwo, hthree, hsecond, hthird, hfourth, hn]

/-- What is read at the front of a sequence is spelled by the bytes that it takes up. -/
theorem spells_of_front {lead : UInt8} {rest : List UInt8} {c : CodePoint} {w : Nat}
    (h : front false lead rest = .spelled c w) :
    ∃ tail after n, rest = tail ++ after ∧ Spells (lead :: tail) n ∧
      spelled n (tail.length + 1) = .spelled c w := by
  have hlt (b : UInt8) : lead < b ↔ lead.toNat < b.toNat := Iff.rfl
  have hgt (b : UInt8) : b < lead ↔ b.toNat < lead.toNat := Iff.rfl
  simp only [front, hlt, hgt, UInt8.reduceToNat] at h
  split at h
  · next hlead => exact ⟨[], rest, _, rfl, .one hlead rfl, h⟩
  split at h
  · cases h
  next hstart =>
  simp only [Bool.or_eq_true, decide_eq_true_eq, not_or] at hstart
  cases rest with
  | nil => cases h
  | cons second rest =>
    simp only [Bool.not_eq_true'] at h
    split at h
    · cases h
    next hfollows =>
    rw [Bool.not_eq_false] at hfollows
    split at h
    · next hmax =>
      have hsecond := followsLead_iff.1 hfollows
      exact ⟨[second], rest, _, rfl, .two (by omega) hmax (isContinuation_iff.2 (by omega)) rfl, h⟩
    next hmin =>
    cases rest with
    | nil => cases h
    | cons third rest =>
      simp only at h
      split at h
      · cases h
      next hthird =>
      rw [Bool.not_eq_false] at hthird
      split at h
      · next hmax =>
        exact ⟨[second, third], rest, _, rfl, .three (by omega) hmax hfollows hthird rfl, h⟩
      next hfour =>
      cases rest with
      | nil => cases h
      | cons fourth rest =>
        simp only at h
        split at h
        · cases h
        next hfourth =>
        rw [Bool.not_eq_false] at hfourth
        exact ⟨[second, third, fourth], rest, _, rfl,
          .four (by omega) (by omega) hfollows hthird hfourth rfl, h⟩

theorem spelled_toNat (c : Char) (w : Nat) : spelled c.toNat w = .spelled (.char c) w := by
  simp [spelled, CodePoint.ofNat?_toNat]

theorem pieces_cons (lead : UInt8) (rest : List UInt8) : pieces false (lead :: rest) =
    front false lead rest :: pieces false (rest.drop ((front false lead rest).width - 1)) := by
  rw [pieces]

/-- The bytes of a character are one piece, whatever follows them. -/
theorem pieces_encodeChar_append (c : Char) (rest : List UInt8) :
    pieces false (encodeChar c ++ rest) =
      .spelled (.char c) (encodeChar c).length :: pieces false rest := by
  have hspells := spells_encodeValue (isScalarValue_toNat c)
  cases hbytes : encodeChar c with
  | nil =>
    rw [← encodeChar, hbytes] at hspells
    cases hspells
  | cons lead tail =>
    rw [← encodeChar, hbytes] at hspells
    have hfront := front_of_spells hspells rest
    rw [spelled_toNat] at hfront
    rw [List.cons_append, pieces_cons, hfront]
    simp [Piece.width]

/-- Reading the bytes of a text gives the text back. -/
theorem decode_bytesOf {t : Text} (h : t.IsScalar) : decode (bytesOf t) = .ok t := by
  have hread (bytes : List UInt8) (position : Nat) :
      readPieces bytes position (pieces false (bytesOf t)) = .ok t := by
    induction t generalizing position with
    | nil => simp [bytesOf, pieces, readPieces]
    | cons c t ih =>
      cases c with
      | surrogate i => exact (h i (by simp)).elim
      | char a =>
        have hrest : Text.IsScalar t := fun i hi => h i (by simp [hi])
        have hbytes : bytesOf (.char a :: t) = encodeChar a ++ bytesOf t := by simp [bytesOf]
        rw [hbytes, pieces_encodeChar_append, readPieces, ih hrest]
        rfl
  exact hread _ 0

theorem readPieces_eq_ok {all bytes : List UInt8} {position : Nat} {t : Text}
    (h : readPieces all position (pieces false bytes) = .ok t) :
    t.IsScalar ∧ bytesOf t = bytes := by
  induction t generalizing position bytes with
  | nil =>
    cases bytes with
    | nil => exact ⟨by simp [Text.IsScalar], rfl⟩
    | cons lead rest =>
      rw [pieces_cons] at h
      cases hfront : front false lead rest with
      | spelled c w => simp [hfront, readPieces, Outcome.map_eq_ok_iff] at h
      | malformed flaw w => simp [hfront, readPieces] at h
  | cons c t ih =>
    cases bytes with
    | nil => simp [pieces, readPieces] at h
    | cons lead rest =>
      rw [pieces_cons] at h
      cases hfront : front false lead rest with
      | malformed flaw w => simp [hfront, readPieces] at h
      | spelled d w =>
        obtain ⟨tail, after, n, rfl, hspells, hpiece⟩ := spells_of_front hfront
        obtain ⟨hscalar, hbytes⟩ := hspells.eq_encodeValue
        obtain ⟨a, rfl⟩ := hscalar.exists_char
        rw [spelled_toNat] at hpiece
        obtain ⟨rfl, rfl⟩ := Piece.spelled.inj hpiece
        rw [hfront, readPieces, Outcome.map_eq_ok_iff] at h
        obtain ⟨_, hrest, heq⟩ := h
        obtain ⟨rfl, rfl⟩ := List.cons.inj heq
        obtain ⟨hscalars, hafter⟩ := ih hrest
        refine ⟨fun i hi => ?_, ?_⟩
        · rcases List.mem_cons.1 hi with hi | hi
          · cases hi
          · exact hscalars i hi
        · simp only [bytesOf, List.flatMap_cons] at hafter ⊢
          rw [hafter, encodeChar, ← hbytes]
          simp [Piece.width]

/-- Bytes that can be read are those of the text that is read, which holds no lone surrogate. -/
theorem bytesOf_of_decode {bytes : List UInt8} {t : Text} (h : decode bytes = .ok t) :
    t.IsScalar ∧ bytesOf t = bytes := readPieces_eq_ok h

/-- Texts without lone surrogates are told apart by their bytes. -/
theorem bytesOf_inj {t u : Text} (ht : t.IsScalar) (hu : u.IsScalar)
    (h : bytesOf t = bytesOf u) : t = u := by
  have hread := decode_bytesOf ht
  rw [h, decode_bytesOf hu] at hread
  exact (Except.ok.inj hread).symm

/-- A byte of the basic range stands for itself and is no part of another character. -/
theorem encodeChar_of_mem {b : UInt8} {c : Char} (h : b ∈ encodeChar c) (hb : b.toNat < 0x80) :
    c.toNat = b.toNat := by
  have hspells := spells_encodeValue (isScalarValue_toNat c)
  rw [encodeChar] at h
  generalize encodeValue c.toNat = bytes at hspells h
  cases hspells with
  | one _ hn =>
    obtain rfl := List.mem_singleton.1 h
    exact hn
  | two hmin _ hsecond _ =>
    rw [isContinuation_iff] at hsecond
    simp only [List.mem_cons, List.not_mem_nil, or_false] at h
    rcases h with rfl | rfl <;> omega
  | three hmin _ hsecond hthird _ =>
    rw [followsLead_iff] at hsecond
    rw [isContinuation_iff] at hthird
    simp only [List.mem_cons, List.not_mem_nil, or_false] at h
    rcases h with rfl | rfl | rfl <;> omega
  | four hmin _ hsecond hthird hfourth _ =>
    rw [followsLead_iff] at hsecond
    rw [isContinuation_iff] at hthird hfourth
    simp only [List.mem_cons, List.not_mem_nil, or_false] at h
    rcases h with rfl | rfl | rfl | rfl <;> omega

/-- A text holds a basic character just if its bytes hold the one of that character. -/
theorem mem_bytesOf_iff {t : Text} {b : UInt8} {c : Char} (hc : c.toNat = b.toNat)
    (hb : b.toNat < 0x80) : b ∈ bytesOf t ↔ .char c ∈ t := by
  constructor
  · intro h
    obtain ⟨d, hd, hmem⟩ := List.mem_flatMap.1 h
    cases d with
    | surrogate i => cases hmem
    | char a =>
      have ha : a = c := Char.toNat_inj.1 ((encodeChar_of_mem hmem hb).trans hc.symm)
      exact ha ▸ hd
  · intro h
    refine List.mem_flatMap.2 ⟨_, h, ?_⟩
    have hlt : c.toNat < 0x80 := by omega
    have hbytes : encodeChar c = [b] := by
      rw [encodeChar, encodeValue, if_pos hlt, eq_toUInt8 hc.symm]
    simp [hbytes]

end Utf8

end ClassVerification
