import ClassVerification.JobRecord
import ClassVerification.Proofs.Outcome

/-! Which objects spell a job record, said field by field and apart from the reader. -/
namespace ClassVerification

variable {α : Type} {members : Members Json} {name : Text}

/-- How a time may be given: as a number, as a truth value, or as text that spells a number. -/
inductive SpellsTime : Json → Binary64 → Prop where
  | float (x : Binary64) : SpellsTime (.float x) x
  | int {n : Int} {x : Binary64} : Binary64.ofInt? n = some x → SpellsTime (.int n) x
  | bool (b : Bool) : SpellsTime (.bool b) (Binary64.ofNat (if b then 1 else 0))
  | text {t : Text} {x : Binary64} : t.all CodePoint.isScalar → Number.looseDecimal? t = some x →
      SpellsTime (.text t) x

/-- Text is given by text alone. -/
def SpellsText (value : Json) (t : Text) : Prop := value = .text t

/-- An optional member is left out, null, or a value that spells it. -/
def SpellsMember (spells : Json → α → Prop) (members : Members Json) (name : Text) :
    Option α → Prop
  | none => members.get? name = none ∨ members.get? name = some .null
  | some a => ∃ value, members.get? name = some value ∧ spells value a

/-- The object that members make is well formed, and this is its record. The status has to be an
integer as such; members of other names do not count. -/
structure JobRecord.Spelled (r : JobRecord) (members : Members Json) : Prop where
  jobId : members.get? "job_id" = some (.text r.jobId)
  status : members.get? "status" = some (.int r.status)
  statusDescription : SpellsMember SpellsText members "status_description" r.statusDescription
  classHash : members.get? "class_hash" = some (.text r.classHash)
  createdTimestamp : SpellsMember SpellsTime members "created_timestamp" r.createdTimestamp
  updatedTimestamp : SpellsMember SpellsTime members "updated_timestamp" r.updatedTimestamp
  address : SpellsMember SpellsText members "address" r.address
  contractFile : SpellsMember SpellsText members "contract_file" r.contractFile
  name : SpellsMember SpellsText members "name" r.name
  version : SpellsMember SpellsText members "version" r.version
  license : SpellsMember SpellsText members "license" r.license

namespace Field

theorem float_eq_ok_iff {value : Json} {x : Binary64} :
    float value = .ok x ↔ SpellsTime value x := by
  constructor
  · intro h
    cases value with
    | float _ =>
      cases h
      exact .float x
    | int n =>
      cases hn : Binary64.ofInt? n with
      | none => simp [float, hn] at h
      | some y =>
        simp only [float, hn, Option.elim_some, Except.ok.injEq] at h
        exact .int (h ▸ hn)
    | bool b =>
      cases h
      exact .bool b
    | text t =>
      by_cases ht : t.all CodePoint.isScalar
      · cases hx : Number.looseDecimal? t with
        | none => simp [float, spelled, ht, hx] at h
        | some y =>
          simp only [float, spelled, ht, hx, if_true, Option.elim_some, Except.ok.injEq] at h
          exact .text ht (h ▸ hx)
      · simp [float, spelled, ht] at h
    | null | list _ | object _ => cases h
  · intro h
    cases h with
    | float | bool => rfl
    | int hn => simp [float, hn]
    | text ht hx => simp [float, spelled, ht, hx]

theorem text_eq_ok_iff {value : Json} {t : Text} : text value = .ok t ↔ SpellsText value t := by
  cases value <;> simp [text, SpellsText]

theorem required_text_eq_ok_iff {t : Text} :
    required text members name = .ok t ↔ members.get? name = some (.text t) := by
  cases h : members.get? name with
  | none => simp [required, h]
  | some value => cases value <;> simp [required, h, text]

theorem required_strictInt_eq_ok_iff {n : Int} :
    required strictInt members name = .ok n ↔ members.get? name = some (.int n) := by
  cases h : members.get? name with
  | none => simp [required, h]
  | some value => cases value <;> simp [required, h, strictInt]

/-- A reader that refuses null and reads what a relation says makes an optional member of it. -/
theorem optional_eq_ok_iff {read : Json → Reading α} {spells : Json → α → Prop}
    (hread : ∀ value a, read value = .ok a ↔ spells value a) (hnull : ∀ a, ¬ spells .null a)
    {a? : Option α} :
    withDefault none (optional read) members name = .ok a? ↔
      SpellsMember spells members name a? := by
  cases h : members.get? name with
  | none => cases a? <;> simp [withDefault, h, SpellsMember]
  | some value =>
    cases value with
    | null => cases a? <;> simp [withDefault, optional, h, SpellsMember, hnull]
    | bool _ | int _ | float _ | text _ | list _ | object _ =>
      cases a? with
      | none =>
        simp only [withDefault, h, optional, SpellsMember]
        cases read _ <;> simp [Except.map]
      | some a =>
        simp only [withDefault, h, optional, SpellsMember, Option.some.injEq, exists_eq_left',
          ← hread]
        cases read _ <;> simp [Except.map]

end Field

namespace JobRecord

theorem optionalText_eq_ok_iff {t? : Option Text} :
    optionalText members name = .ok t? ↔ SpellsMember SpellsText members name t? :=
  Field.optional_eq_ok_iff (fun _ _ => Field.text_eq_ok_iff) (by simp [SpellsText])

theorem optionalTime_eq_ok_iff {x? : Option Binary64} :
    optionalTime members name = .ok x? ↔ SpellsMember SpellsTime members name x? :=
  Field.optional_eq_ok_iff (fun _ _ => Field.float_eq_ok_iff) (by intro _ h; cases h)

/-- Where all fields can be read there is a record, and nowhere else. -/
theorem ofMembers_eq_ok_iff {r : JobRecord} : ofMembers members = .ok r ↔ r.Spelled members := by
  constructor
  · intro h
    simp only [ofMembers] at h
    split at h
    · next record hrecord =>
      cases h
      simp only [Outcome.bind_eq_ok_iff, Field.required_text_eq_ok_iff,
        Field.required_strictInt_eq_ok_iff, optionalText_eq_ok_iff, optionalTime_eq_ok_iff, pure,
        Except.pure, Except.ok.injEq] at hrecord
      obtain ⟨_, hjobId, _, hstatus, _, hdescription, _, hclassHash, _, hcreated, _, hupdated, _,
        haddress, _, hfile, _, hname, _, hversion, _, hlicense, rfl⟩ := hrecord
      exact ⟨hjobId, hstatus, hdescription, hclassHash, hcreated, hupdated, haddress, hfile, hname,
        hversion, hlicense⟩
    · cases h
  · intro h
    simp only [ofMembers, Field.required_text_eq_ok_iff.2 h.jobId,
      Field.required_strictInt_eq_ok_iff.2 h.status, optionalText_eq_ok_iff.2 h.statusDescription,
      Field.required_text_eq_ok_iff.2 h.classHash, optionalTime_eq_ok_iff.2 h.createdTimestamp,
      optionalTime_eq_ok_iff.2 h.updatedTimestamp, optionalText_eq_ok_iff.2 h.address,
      optionalText_eq_ok_iff.2 h.contractFile, optionalText_eq_ok_iff.2 h.name,
      optionalText_eq_ok_iff.2 h.version, optionalText_eq_ok_iff.2 h.license, bind, Except.bind,
      pure, Except.pure]

theorem ofJson_eq_ok_iff {value : Json} {r : JobRecord} :
    ofJson value = .ok r ↔ ∃ members, value = .object members ∧ r.Spelled members := by
  cases value with
  | object members => simp [ofJson, recordMembers, Except.bind, ofMembers_eq_ok_iff]
  | null | bool _ | int _ | float _ | text _ | list _ =>
    simp [ofJson, recordMembers, Except.bind]

end JobRecord

/-- A text is read from an object that has it under the name, and from nothing else. -/
theorem textField_eq_ok_iff {name : Text} {value : Json} {t : Text} :
    textField name value = .ok t ↔ ∃ members : Members Json, value = .object members ∧
      members.get? name = some (.text t) := by
  constructor
  · intro h
    cases value with
    | object members =>
      refine ⟨members, rfl, Field.required_text_eq_ok_iff.1 ?_⟩
      simp only [textField, recordMembers, Except.bind] at h
      split at h
      · next hread => rw [hread, Except.ok.inj h]
      · cases h
    | null | bool _ | int _ | float _ | text _ | list _ => cases h
  · rintro ⟨members, rfl, h⟩
    simp only [textField, recordMembers, Except.bind, Field.required_text_eq_ok_iff.2 h]

end ClassVerification
