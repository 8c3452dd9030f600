import ClassVerification.Proofs.Outcome
import ClassVerification.Proofs.Percent
import ClassVerification.Url.Host

/-! A host that is there does not vanish in its normal form. -/
namespace ClassVerification

theorem Text.join_ne_nil {sep part : Text} {parts : List Text} (h : part ≠ []) :
    join sep (part :: parts) ≠ [] := by
  cases parts <;> simp [join, h]

namespace Domain

theorem labels_eq_ok {name : Text} {parts : List Text} {dotted : Bool}
    (h : labels name = .ok (parts, dotted)) : parts ≠ [] := by
  have hne := Text.split_ne_nil (.char '.')
    (name.map fun c => if isLabelDot c then .char '.' else c)
  simp only [labels] at h
  generalize Text.split (.char '.') _ = all at h hne
  split at h
  · cases h
  next hsome =>
  split at h
  · next hlast =>
    obtain ⟨rfl, -⟩ := Prod.mk.inj (Except.ok.inj h)
    intro hnil
    rw [← List.dropLast_concat_getLast hne, hnil] at hlast hsome
    simp at hlast
    simp [hlast] at hsome
  · obtain ⟨rfl, -⟩ := Prod.mk.inj (Except.ok.inj h)
    exact hne

theorem spellLabel_ne_nil {label spelled : Text} (h : spellLabel label = .ok spelled) :
    spelled ≠ [] := by
  have hlimit {t : Text} (hne : t ≠ [])
      (h : (if labelLimit < t.length then .error .longLabel else return t) =
        (.ok spelled : Except DomainDefect Text)) : spelled ≠ [] := by
    split at h
    · cases h
    · exact Except.ok.inj h ▸ hne
  rw [spellLabel] at h
  split at h
  · obtain ⟨t, hread, h⟩ := Outcome.bind_eq_ok_iff.1 h
    obtain ⟨_, hlabel, rfl⟩ := Outcome.map_eq_ok_iff.1 hread
    refine hlimit ?_ h
    rintro rfl
    cases hlabel
  · obtain ⟨t, hspell, h⟩ := Outcome.bind_eq_ok_iff.1 h
    obtain ⟨_, -, rfl⟩ := Outcome.map_eq_ok_iff.1 hspell
    refine hlimit ?_ h
    simp [mark, Text.ofString, Text.ofChars]

theorem encode_ne_nil {name spelled : Text} (h : encode name = .ok spelled) : spelled ≠ [] := by
  simp only [encode, Outcome.bind_eq_ok_iff] at h
  obtain ⟨⟨parts, dotted⟩, hparts, all, hall, h⟩ := h
  obtain ⟨part, parts, rfl⟩ := List.exists_cons_of_ne_nil (labels_eq_ok hparts)
  rw [List.mapM_cons, Outcome.bind_eq_ok_iff] at hall
  obtain ⟨first, hfirst, hall⟩ := hall
  rw [Outcome.bind_eq_ok_iff] at hall
  obtain ⟨others, -, hall⟩ := hall
  obtain rfl := Except.ok.inj hall
  have hne : ofLabels (first :: others) dotted ≠ [] := by
    cases dotted <;> exact Text.join_ne_nil (spellLabel_ne_nil hfirst)
  dsimp only at h
  generalize nameLimit + _ = limit at h
  split at h
  · cases h
  · exact Except.ok.inj h ▸ hne

end Domain

namespace Host

theorem isNameChar_of_hexDigit? {c : CodePoint} (h : c.hexDigit?.isSome) : isNameChar c :=
  CodePoint.class_of_hexDigit? (by decide +kernel) h

theorem normalize_ne_nil {host name : Text} (hne : host ≠ []) (h : normalize host = .ok name) :
    name ≠ [] := by
  have hempty : host.isEmpty = false := by simpa using hne
  simp only [normalize, hempty, Bool.false_eq_true, if_false] at h
  split at h
  · split at h
    · exact Except.ok.inj h ▸ hne
    · cases h
  split at h
  · split at h
    · next haddress =>
      rintro rfl
      rw [Except.ok.inj h] at haddress
      cases haddress
    · cases h
  split at h
  · cases hencoded : Percent.encodeAround isNameChar (Text.lowerBasic host) with
    | error flaw => simp [hencoded] at h
    | ok encoded =>
      obtain ⟨hscalar, rfl⟩ := (Percent.encodeAround_eq_ok_iff rfl
        fun c => isNameChar_of_hexDigit?).1 hencoded
      rw [hencoded] at h
      obtain rfl := Except.ok.inj h
      obtain ⟨c, rest, rfl⟩ := List.exists_cons_of_ne_nil hne
      have hc := (Text.isScalar_cons.1 hscalar).1
      simp [Text.lowerBasic, Percent.encodeOne_ne_nil hc]
  · cases hencoded : Domain.encode host.lower with
    | error d => simp [hencoded] at h
    | ok encoded =>
      rw [hencoded] at h
      exact Except.ok.inj h ▸ Domain.encode_ne_nil hencoded

end Host

end ClassVerification
