import ClassVerification.FilePath

/-! Writing a path and reading it again: nothing is lost that names a path. -/
namespace ClassVerification

namespace Text

variable {sep : CodePoint} {t part : Text} {parts : List Text}

theorem startsWith_iff {start : Text} : t.startsWith start ↔ ∃ rest, t = start ++ rest := by
  simp [startsWith, Option.isSome_iff_exists, dropPrefix?_eq_some_iff]

theorem split_of_not_mem (h : sep ∉ t) : split sep t = [t] := by
  induction t with
  | nil => rfl
  | cons c t ih =>
    have hc : c ≠ sep := fun hc => h (by simp [hc])
    simp [split, hc, ih (fun ht => h (by simp [ht]))]

theorem split_append_cons (h : sep ∉ t) (rest : Text) :
    split sep (t ++ sep :: rest) = t :: split sep rest := by
  induction t with
  | nil => simp [split]
  | cons c t ih =>
    have hc : c ≠ sep := fun hc => h (by simp [hc])
    simp [split, hc, ih (fun ht => h (by simp [ht]))]

/-- Cutting undoes joining where no part holds the separator. -/
theorem split_join (hne : parts ≠ []) (h : ∀ part ∈ parts, sep ∉ part) :
    split sep (join [sep] parts) = parts := by
  induction parts with
  | nil => exact (hne rfl).elim
  | cons part parts ih =>
    cases parts with
    | nil => exact split_of_not_mem (h part (by simp))
    | cons next parts =>
      have hjoin : join [sep] (part :: next :: parts) =
          part ++ sep :: join [sep] (next :: parts) := by simp [join]
      rw [hjoin, split_append_cons (h part (by simp)),
        ih (by simp) (fun p hp => h p (List.mem_cons_of_mem _ hp))]

theorem not_mem_of_mem_split (h : part ∈ split sep t) : sep ∉ part := by
  induction t generalizing part with
  | nil => simp_all [split]
  | cons c t ih =>
    obtain ⟨first, rest, hs⟩ := List.exists_cons_of_ne_nil (split_ne_nil sep t)
    simp only [split, hs] at h
    split at h
    · rcases List.mem_cons.1 h with rfl | h
      · simp
      · exact ih (hs ▸ h)
    · next hc =>
      rcases List.mem_cons.1 h with rfl | h
      · have hfirst : sep ∉ first := ih (hs ▸ List.mem_cons_self)
        simp [hfirst, Ne.symm hc]
      · exact ih (hs ▸ List.mem_cons_of_mem _ h)

end Text

namespace FilePath

/-- A name as it stands in a path: not empty, no single dot, and without a slash. -/
def IsName (name : Text) : Prop := name ≠ [] ∧ name ≠ "." ∧ slash ∉ name

/-- A path whose names are what they seem to be when it is written. -/
def IsNormal (p : FilePath) : Prop := ∀ name ∈ p.names, IsName name

variable {p : FilePath} {names : List Text} {t : Text}

/-- Every path that is read from a text is normal. -/
theorem isNormal_ofText (t : Text) : (ofText t).IsNormal := by
  intro name hname
  obtain ⟨hsplit, hfilter⟩ := List.mem_filter.1 hname
  simp only [Bool.and_eq_true, bne_iff_ne] at hfilter
  exact ⟨hfilter.1, hfilter.2, Text.not_mem_of_mem_split hsplit⟩

theorem IsNormal.child (h : p.IsNormal) {name : Text} (hname : IsName name) :
    (p.child name).IsNormal := by
  intro n hn
  rcases List.mem_append.1 hn with hn | hn
  · exact h n hn
  · exact List.mem_singleton.1 hn ▸ hname

theorem namesOf_join (h : ∀ name ∈ names, IsName name) : namesOf (Text.join "/" names) = names := by
  by_cases hne : names = []
  · subst hne
    rfl
  · have hsplit : (Text.join "/" names).split slash = names :=
      Text.split_join hne (fun name hname => (h name hname).2.2)
    rw [namesOf, hsplit, List.filter_eq_self]
    intro name hname
    simp [(h name hname).1, (h name hname).2.1]

theorem namesOf_slash_cons (t : Text) : namesOf (slash :: t) = namesOf t := by
  simp [namesOf, Text.split]

/-- The names of a normal path do not begin with a slash. -/
theorem join_ne_slash_cons (h : ∀ name ∈ names, IsName name) (rest : Text) :
    Text.join "/" names ≠ slash :: rest := by
  cases names with
  | nil => simp [Text.join]
  | cons name names =>
    obtain ⟨hne, -, hslash⟩ := h name (by simp)
    obtain ⟨c, cs, rfl⟩ := List.exists_cons_of_ne_nil hne
    have hc : c ≠ slash := fun hc => hslash (by simp [hc])
    cases names <;> simp [Text.join, hc]

theorem rootOf_relative (h : ∀ rest, t ≠ slash :: rest) : rootOf t = .relative := by
  have hstart : t.startsWith "/" = false := by
    rw [← Bool.not_eq_true, Text.startsWith_iff]
    rintro ⟨rest, rfl⟩
    exact h rest rfl
  simp [rootOf, hstart]

theorem rootOf_slash (h : ∀ rest, t ≠ slash :: rest) : rootOf (slash :: t) = .slash := by
  have hone : Text.startsWith (slash :: t) "/" := Text.startsWith_iff.2 ⟨t, rfl⟩
  have htwo : Text.startsWith (slash :: t) "//" = false := by
    rw [← Bool.not_eq_true, Text.startsWith_iff]
    rintro ⟨rest, heq⟩
    exact h rest (List.cons.inj heq).2
  simp [rootOf, hone, htwo]

theorem rootOf_doubleSlash (h : ∀ rest, t ≠ slash :: rest) :
    rootOf (slash :: slash :: t) = .doubleSlash := by
  have hone : Text.startsWith (slash :: slash :: t) "/" := Text.startsWith_iff.2 ⟨_, rfl⟩
  have htwo : Text.startsWith (slash :: slash :: t) "//" := Text.startsWith_iff.2 ⟨t, rfl⟩
  have hthree : Text.startsWith (slash :: slash :: t) "///" = false := by
    rw [← Bool.not_eq_true, Text.startsWith_iff]
    rintro ⟨rest, heq⟩
    exact h rest (List.cons.inj (List.cons.inj heq).2).2
  simp [rootOf, hone, htwo, hthree]

/-- Reading undoes writing. -/
theorem ofText_text (h : p.IsNormal) : ofText p.text = p := by
  obtain ⟨root, names⟩ := p
  have hstart : ∀ rest, Text.join "/" names ≠ slash :: rest := join_ne_slash_cons h
  have hnames : namesOf (Text.join "/" names) = names := namesOf_join h
  cases root with
  | relative =>
    by_cases hne : names = []
    · subst hne
      rfl
    · have htext : text ⟨.relative, names⟩ = Text.join "/" names := by
        simp [text, rootText, hne, Text.ofString, Text.ofChars]
      rw [htext, ofText, rootOf_relative hstart, hnames]
  | slash =>
    have htext : text ⟨.slash, names⟩ = slash :: Text.join "/" names := by
      simp [text, rootText, Text.ofString, Text.ofChars, slash]
    rw [htext, ofText, rootOf_slash hstart, namesOf_slash_cons, hnames]
  | doubleSlash =>
    have htext : text ⟨.doubleSlash, names⟩ = slash :: slash :: Text.join "/" names := by
      simp [text, rootText, Text.ofString, Text.ofChars, slash]
    rw [htext, ofText, rootOf_doubleSlash hstart, namesOf_slash_cons, namesOf_slash_cons, hnames]

end FilePath

end ClassVerification
