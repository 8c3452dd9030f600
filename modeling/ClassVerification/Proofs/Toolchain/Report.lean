import ClassVerification.Proofs.Toolchain.Build

/-! Where in an output the version of the build tool is read: at the first line that reports one. -/
namespace ClassVerification.Toolchain

variable {t space after v w : Text} {atStart : Bool} {i : Nat} {c : CodePoint}

/-- A text begins with the name of the tool, white space and a version, whatever follows. -/
def HasVersion (t v : Text) : Prop :=
  IsVersion v ∧ ∃ space after, space ≠ [] ∧ (∀ c ∈ space, c.isBlank) ∧
    t = Text.ofString "scarb" ++ space ++ v ++ after

/-- A line begins at a place: right after a line feed, or at the front, if one begins there. -/
def BeginsLine (atStart : Bool) (t : Text) : Nat → Prop
  | 0 => atStart
  | i + 1 => t[i]? = some (.char '\n')

/-- A line that begins at a place of an output reports a version. The white space in it may go on
to further lines. -/
def HasVersionAt (output : Text) (i : Nat) (v : Text) : Prop :=
  BeginsLine true output i ∧ HasVersion (output.drop i) v

theorem IsVersion.ne_nil (h : IsVersion v) : v ≠ [] := by
  obtain ⟨major, minor, patch, hmajor, -, -, rfl⟩ := h
  simp [hmajor.1]

theorem IsVersion.dropWhile_isBlank (h : IsVersion v) (after : Text) :
    (v ++ after).dropWhile CodePoint.isBlank = v ++ after := by
  obtain ⟨c, rest, rfl⟩ := List.exists_cons_of_ne_nil h.ne_nil
  simp [h.not_isBlank c List.mem_cons_self]

/-- A version that is reported is read with its last number as long as possible. -/
theorem reported?_of_isVersion (hv : IsVersion v) (hne : space ≠ [])
    (hspace : ∀ c ∈ space, c.isBlank) (after : Text) :
    reported? (Text.ofString "scarb" ++ space ++ v ++ after) =
      some (v ++ after.takeWhile CodePoint.isDecimalDigit) := by
  have hname : afterName? (Text.ofString "scarb" ++ space ++ v ++ after) = some (v ++ after) := by
    have hhead : (space ++ (v ++ after)).head?.any CodePoint.isBlank := by
      obtain ⟨c, rest, rfl⟩ := List.exists_cons_of_ne_nil hne
      simpa using hspace c List.mem_cons_self
    rw [List.append_assoc, List.append_assoc, afterName?, Text.dropPrefix?_append,
      Option.bind_some, if_pos hhead, List.dropWhile_append_of_pos hspace, hv.dropWhile_isBlank]
  rw [reported?_eq, hname, Option.bind_some, triple?_append_of_isVersion hv]

theorem hasVersion_of_reported? (h : reported? t = some v) : HasVersion t v := by
  rw [reported?_eq, Option.bind_eq_some_iff] at h
  obtain ⟨_, hname, hversion⟩ := h
  obtain ⟨rest, hrest, hblank⟩ := Option.bind_eq_some_iff.1 hname
  obtain rfl := Text.dropPrefix?_eq_some_iff.1 hrest
  split at hblank
  · next hhead =>
    cases hblank
    obtain ⟨hv, after, -, hafter⟩ := triple?_eq_some_iff.1 hversion
    refine ⟨hv, rest.takeWhile CodePoint.isBlank, after, ?_, ?_, ?_⟩
    · cases rest with
      | nil => cases hhead
      | cons c rest => simpa using hhead
    · exact fun c hc => List.mem_takeWhile_imp hc
    · rw [List.append_assoc _ v, ← hafter, List.append_assoc, List.takeWhile_append_dropWhile]
  · cases hblank

/-- What is read at the front of a text is the longest version that it reports. -/
theorem reported?_eq_some_iff :
    reported? t = some v ↔ HasVersion t v ∧ ∀ w, HasVersion t w → w <+: v := by
  constructor
  · intro h
    refine ⟨hasVersion_of_reported? h, ?_⟩
    rintro w ⟨hw, space, after, hne, hspace, rfl⟩
    rw [reported?_of_isVersion hw hne hspace] at h
    exact Option.some.inj h ▸ List.prefix_append w _
  · rintro ⟨⟨hv, space, after, hne, hspace, rfl⟩, hlongest⟩
    have hread := reported?_of_isVersion hv hne hspace after
    have hshort := (hlongest _ (hasVersion_of_reported? hread)).length_le
    rw [List.length_append] at hshort
    have hnone : after.takeWhile CodePoint.isDecimalDigit = [] :=
      List.length_eq_zero_iff.1 (by omega)
    rw [hread, hnone, List.append_nil]

theorem reported?_eq_none_iff : reported? t = none ↔ ∀ v, ¬ HasVersion t v := by
  constructor
  · rintro hnone v ⟨hv, space, after, hne, hspace, rfl⟩
    rw [reported?_of_isVersion hv hne hspace] at hnone
    cases hnone
  · intro h
    rw [Option.eq_none_iff_forall_ne_some]
    exact fun v hv => h v (hasVersion_of_reported? hv)

theorem beginsLine_cons_succ :
    BeginsLine atStart (c :: t) (i + 1) ↔ BeginsLine (c = .char '\n') t i := by
  cases i with
  | zero => simp [BeginsLine]
  | succ i => simp [BeginsLine]

/-- The front of a text is looked at, if a line begins there, and then its rest. -/
theorem search_cons : search atStart (c :: t) =
    (if atStart then reported? (c :: t) else none).or (search (c = .char '\n') t) := by
  rw [search]
  cases (if atStart then reported? (c :: t) else none) <;> rfl

/-- The search finds nothing just if there is no report where a line begins. -/
theorem search_eq_none_iff : search atStart t = none ↔
    ∀ i, BeginsLine atStart t i → reported? (t.drop i) = none := by
  induction t generalizing atStart with
  | nil =>
    have hempty : reported? [] = none := rfl
    simp [search, hempty]
  | cons c t ih =>
    rw [search_cons, Option.or_eq_none_iff, ite_eq_right_iff, ih]
    constructor
    · rintro ⟨hfront, hrest⟩ i hi
      cases i with
      | zero => exact hfront hi
      | succ i => exact hrest i (beginsLine_cons_succ.1 hi)
    · intro h
      exact ⟨h 0, fun i hi => h (i + 1) (beginsLine_cons_succ.2 hi)⟩

/-- What the search finds is the report of the first line that has one. -/
theorem search_eq_some_iff : search atStart t = some v ↔
    ∃ i, BeginsLine atStart t i ∧ reported? (t.drop i) = some v ∧
      ∀ j < i, BeginsLine atStart t j → reported? (t.drop j) = none := by
  induction t generalizing atStart with
  | nil =>
    have hempty : reported? [] = none := rfl
    simp [search, hempty]
  | cons c t ih =>
    rw [search_cons, Option.or_eq_some_iff, Option.ite_none_right_eq_some, ite_eq_right_iff, ih]
    constructor
    · rintro (⟨hstart, hv⟩ | ⟨hfront, i, hi, hv, hbefore⟩)
      · exact ⟨0, hstart, hv, fun j hj => (Nat.not_lt_zero j hj).elim⟩
      · refine ⟨i + 1, beginsLine_cons_succ.2 hi, hv, fun j hj hline => ?_⟩
        cases j with
        | zero => exact hfront hline
        | succ j => exact hbefore j (by omega) (beginsLine_cons_succ.1 hline)
    · rintro ⟨i, hi, hv, hbefore⟩
      cases i with
      | zero => exact Or.inl ⟨hi, hv⟩
      | succ i =>
        refine Or.inr ⟨hbefore 0 i.succ_pos, i, beginsLine_cons_succ.1 hi, hv, fun j hj hline => ?_⟩
        exact hbefore (j + 1) (by omega) (beginsLine_cons_succ.2 hline)

theorem run_installedVersion_finished (toolchain : Toolchain) (folder : FilePath) {s : Session}
    {stdout stderr : Text} {code : Int} {rest : List RunOutcome}
    (hruns : s.toolRuns = .finished stdout stderr code :: rest) :
    ∃ u, Session.run (toolchain.installedVersion folder) s =
      (.ok (installedVersion? stdout), u) := by
  simp only [installedVersion, Session.run_bind, run_run_finished toolchain _ folder hruns,
    Session.run_pure]
  exact ⟨_, rfl⟩

/-- The version that the tool tells is that of the first line of its output that reports one, and
as long as it can be there. It tells none just if no line reports one. -/
theorem installedVersion_leftmost (toolchain : Toolchain) (folder : FilePath) (s : Session)
    (output stderr : Text) (code : Int) :
    ∃ told u, Session.run (toolchain.installedVersion folder)
        { s with toolRuns := .finished output stderr code :: s.toolRuns } = (.ok told, u) ∧
      (∀ v, told = some v ↔ ∃ i, HasVersionAt output i v ∧
        (∀ w, HasVersionAt output i w → w <+: v) ∧ ∀ j < i, ∀ w, ¬ HasVersionAt output j w) ∧
      (told = none ↔ ∀ i v, ¬ HasVersionAt output i v) := by
  obtain ⟨u, hrun⟩ := run_installedVersion_finished toolchain folder
    (s := { s with toolRuns := .finished output stderr code :: s.toolRuns }) rfl
  refine ⟨installedVersion? output, u, hrun, fun v => ?_, ?_⟩
  · rw [installedVersion?, search_eq_some_iff]
    refine exists_congr fun i => ?_
    simp only [reported?_eq_some_iff, reported?_eq_none_iff, HasVersionAt]
    tauto
  · rw [installedVersion?, search_eq_none_iff]
    simp only [reported?_eq_none_iff, HasVersionAt, not_and]
    exact forall_congr' fun i => forall_comm

/-- A line on which the name is followed by no version is passed over, white space may span lines,
and the last number is not cut short. -/
example : installedVersion? "no scarb 1.0.0\nscarb x\nscarb \n\t2.8.40-rc (2.8.4)\nscarb 2.8.4" =
    some (Text.ofString "2.8.40") := by cbv

end ClassVerification.Toolchain
