import ClassVerification.Multipart
import ClassVerification.Proofs.Text.Class

/-! Forms that can be written in UTF-8. -/
namespace ClassVerification.Multipart

variable {boundary name : Text} {texts : List Text} {fields : List FormField}

theorem isScalar_escapeNameChar {c : CodePoint} (h : c.isScalar) :
    (escapeNameChar c).IsScalar := by
  have hpair : (hexPair c.value).IsScalar := by
    intro i hi
    obtain ⟨d, hd, heq⟩ := List.mem_map.1 hi
    cases d with
    | char a => cases heq
    | surrogate j => exact Text.isScalar_ofChars _ j hd
  rw [escapeNameChar]
  split
  · exact Text.isScalar_ofString _
  split
  · exact Text.isScalar_ofString _
  split
  · exact Text.isScalar_append.2 ⟨Text.isScalar_ofString _, hpair⟩
  · exact Text.isScalar_cons.2 ⟨h, Text.isScalar_ofString ""⟩

theorem isScalar_nameParameter (h : name.IsScalar) : (nameParameter name).IsScalar := by
  have hname : Text.IsScalar (name.flatMap escapeNameChar) :=
    Text.isScalar_flatMap fun c hc => isScalar_escapeNameChar (Text.isScalar_iff.1 h c hc)
  exact Text.isScalar_append.2
    ⟨Text.isScalar_append.2 ⟨Text.isScalar_ofString _, hname⟩, Text.isScalar_ofString _⟩

theorem checkAll_eq_ok_iff : checkAll texts = .ok () ↔ ∀ t ∈ texts, t.IsScalar := by
  have hnone : texts.findSome? (Unencodable.find CodePoint.isScalar 0) = none ↔
      ∀ t ∈ texts, t.IsScalar := by
    simp only [List.findSome?_eq_none_iff, Text.find_isScalar_eq_none_iff]
  rw [← hnone, checkAll]
  cases texts.findSome? (Unencodable.find CodePoint.isScalar 0) <;> simp

/-- A body can be written if its boundary, its names as they are escaped and its values can. -/
theorem isScalar_body (hboundary : boundary.IsScalar)
    (hnames : ∀ field ∈ fields, (nameParameter field.1).IsScalar)
    (hvalues : ∀ field ∈ fields, field.2.IsScalar) : (body boundary fields).IsScalar := by
  have hstring (t : String) : Text.IsScalar t := Text.isScalar_ofString t
  have hdelimiter : (delimiter boundary).IsScalar :=
    Text.isScalar_append.2 ⟨hstring _, hboundary⟩
  have hparts : Text.IsScalar (fields.flatMap (part boundary)) := by
    intro i hi
    obtain ⟨field, hfield, hmem⟩ := List.mem_flatMap.1 hi
    have hpart : (part boundary field).IsScalar := by
      simp only [part, lineEnd, Text.isScalar_append]
      simp only [hdelimiter, hstring, hnames field hfield, hvalues field hfield, and_self]
    exact hpart i hmem
  simp only [body, lineEnd, Text.isScalar_append]
  exact ⟨⟨⟨hparts, hdelimiter⟩, hstring _⟩, hstring _⟩

end ClassVerification.Multipart
