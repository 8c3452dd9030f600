import ClassVerification.Api.Client
import ClassVerification.Proofs.Multipart.Decode

/-! The characters of a form, told field by field, beside the function that writes them. -/
namespace ClassVerification

namespace Multipart

/-- The characters of a field name between its quotes. Two code points are escaped, and so is every
control character but ESC, by its number. -/
inductive SpellsName : Text → Text → Prop where
  | nil : SpellsName [] []
  | quote {name shown : Text} : SpellsName name shown →
      SpellsName (.char '"' :: name) ("%22" ++ shown)
  | backslash {name shown : Text} : SpellsName name shown →
      SpellsName (.char '\\' :: name) ("\\\\" ++ shown)
  | control {c : CodePoint} {name shown : Text} : c.value < 0x20 → c.value ≠ 0x1B →
      SpellsName name shown → SpellsName (c :: name)
        (.char '%' :: Percent.hexCapital (c.value / 16) :: Percent.hexCapital (c.value % 16) ::
          shown)
  | plain {c : CodePoint} {name shown : Text} : c ≠ .char '"' → c ≠ .char '\\' →
      (c.value < 0x20 → c.value = 0x1B) → SpellsName name shown →
      SpellsName (c :: name) (c :: shown)

/-- The characters of a form with some fields. -/
inductive Spells : List FormField → Text → Prop where
  | closed : Spells [] "--BOUNDARY--\r\n"
  | part {name shown value rest : Text} {fields : List FormField} :
      SpellsName name shown → Spells fields rest → Spells ((name, value) :: fields)
        ("--BOUNDARY\r\nContent-Disposition: form-data; name=\"" ++ shown ++ "\"\r\n\r\n" ++
          value ++ "\r\n" ++ rest)

variable {name shown t : Text} {fields : List FormField}

theorem spellsName_iff : SpellsName name shown ↔ shown = name.flatMap escapeNameChar := by
  constructor
  · intro h
    induction h with
    | nil => rfl
    | quote _ ih | backslash _ ih =>
      rw [ih]
      rfl
    | @control c name _ hlow hescape _ ih =>
      rcases escapeNameChar_cases c with
          ⟨rfl, -⟩ | ⟨rfl, -⟩ | ⟨-, -, hself⟩ | ⟨-, -, hplain, -⟩
      · exact absurd hlow (by decide)
      · exact absurd hlow (by decide)
      · rw [ih, List.flatMap_cons, hself]
        rfl
      · exact (hescape (hplain hlow)).elim
    | @plain c name _ hquote hslash hplain _ ih =>
      rcases escapeNameChar_cases c with
          ⟨rfl, -⟩ | ⟨rfl, -⟩ | ⟨hlow, hescape, -⟩ | ⟨-, -, -, hself⟩
      · exact (hquote rfl).elim
      · exact (hslash rfl).elim
      · exact (hescape (hplain hlow)).elim
      · rw [ih, List.flatMap_cons, hself, List.singleton_append]
  · rintro rfl
    induction name with
    | nil => exact .nil
    | cons c name ih =>
      rw [List.flatMap_cons]
      rcases escapeNameChar_cases c with
          ⟨rfl, hself⟩ | ⟨rfl, hself⟩ | ⟨hlow, hescape, hself⟩ | ⟨hquote, hslash, hplain, hself⟩
      · exact hself ▸ .quote ih
      · exact hself ▸ .backslash ih
      · exact hself ▸ .control hlow hescape ih
      · exact hself ▸ .plain hquote hslash hplain ih

theorem body_cons (field : FormField) (fields : List FormField) :
    body Client.boundary (field :: fields) =
      Text.ofString "--BOUNDARY\r\nContent-Disposition: form-data; name=\"" ++
        field.1.flatMap escapeNameChar ++ "\"\r\n\r\n" ++ field.2 ++ "\r\n" ++
        body Client.boundary fields := by
  have hstart : Text.ofString "--BOUNDARY\r\nContent-Disposition: form-data; name=\"" =
      delimiter Client.boundary ++ lineEnd ++ "Content-Disposition: form-data; " ++ "name=\"" := rfl
  have hend : Text.ofString "\"\r\n\r\n" = "\"" ++ lineEnd ++ lineEnd := rfl
  simp only [body, part, nameParameter, List.flatMap_cons, hstart, hend, List.append_assoc, lineEnd]

/-- The writer writes the characters of a form, and no others. -/
theorem spells_iff : Spells fields t ↔ t = body Client.boundary fields := by
  constructor
  · intro h
    induction h with
    | closed => rfl
    | part hname _ ih => rw [body_cons, ← spellsName_iff.1 hname, ih]
  · rintro rfl
    induction fields with
    | nil => exact .closed
    | cons field fields ih =>
      rw [body_cons]
      exact .part (spellsName_iff.2 rfl) ih

end Multipart

/-- A request that carries a form tells what parts it, and its body holds its fields. -/
structure Request.Carries (request : Request) (fields : List Multipart.FormField) : Prop where
  contentType : request.contentType = some "multipart/form-data; boundary=BOUNDARY"
  body : Multipart.Spells fields request.body

end ClassVerification
