import ClassVerification.Multipart
import ClassVerification.Proofs.FilePath.Text
import ClassVerification.Proofs.Percent

/-! Reading a form of several parts again, as its receiver does. -/
namespace ClassVerification

namespace Text

variable {c d : CodePoint} {mark front rest t : Text}

/-- What stands before the first occurrence of a mark, and what follows it. -/
def cut? : Text → Text → Option (Text × Text)
  | [], mark => (dropPrefix? [] mark).map ([], ·)
  | c :: t, mark =>
    match dropPrefix? (c :: t) mark with
    | some rest => some ([], rest)
    | none => (cut? t mark).map fun (front, rest) => (c :: front, rest)

/-- A cut loses nothing. -/
theorem eq_of_cut? (h : t.cut? mark = some (front, rest)) : t = front ++ (mark ++ rest) := by
  induction t generalizing front with
  | nil =>
    obtain ⟨after, hdrop, heq⟩ := Option.map_eq_some_iff.1 h
    obtain ⟨rfl, rfl⟩ := Prod.mk.inj heq
    rw [List.nil_append]
    exact dropPrefix?_eq_some_iff.1 hdrop
  | cons c t ih =>
    rw [cut?] at h
    cases hdrop : dropPrefix? (c :: t) mark with
    | some after =>
      rw [hdrop] at h
      obtain ⟨rfl, rfl⟩ := Prod.mk.inj (Option.some.inj h)
      rw [dropPrefix?_eq_some_iff.1 hdrop, List.nil_append]
    | none =>
      rw [hdrop] at h
      obtain ⟨⟨before, after⟩, hcut, heq⟩ := Option.map_eq_some_iff.1 h
      obtain ⟨rfl, rfl⟩ := Prod.mk.inj heq
      rw [ih hcut, List.cons_append]

theorem cut?_append_self (mark rest : Text) : (mark ++ rest).cut? mark = some ([], rest) := by
  have hdrop := dropPrefix?_append mark rest
  cases hmark : mark ++ rest with
  | nil =>
    rw [hmark] at hdrop
    rw [cut?, hdrop]
    rfl
  | cons c t =>
    rw [hmark] at hdrop
    rw [cut?, hdrop]

theorem cut?_cons_of_none (h : dropPrefix? (c :: t) mark = none) :
    cut? (c :: t) mark = (t.cut? mark).map fun (front, rest) => (c :: front, rest) := by
  rw [cut?, h]

/-- A mark is found where its first code point stands for the first time. -/
theorem cut?_of_not_mem (h : c ∉ front) (t rest : Text) :
    cut? (front ++ (c :: t ++ rest)) (c :: t) = some (front, rest) := by
  induction front with
  | nil => exact cut?_append_self _ rest
  | cons d front ih =>
    obtain ⟨hd, hfront⟩ : c ≠ d ∧ c ∉ front := by simpa [List.mem_cons] using h
    have hdrop : dropPrefix? (d :: (front ++ (c :: t ++ rest))) (c :: t) = none := by
      simp [dropPrefix?, Ne.symm hd]
    rw [List.cons_append, cut?_cons_of_none hdrop, ih hfront]
    rfl

/-- A mark does not begin in a text that it does not occur in, also where the text is followed by
the mark, if the first code point of the mark does not come back in it. -/
theorem dropPrefix?_eq_none (hmem : c ∉ t) (h : ¬ c :: t <:+: d :: front) (rest : Text) :
    dropPrefix? (d :: (front ++ (c :: t ++ rest))) (c :: t) = none := by
  rw [Option.eq_none_iff_forall_ne_some]
  intro after hafter
  rw [dropPrefix?_eq_some_iff, ← List.cons_append] at hafter
  rcases List.append_eq_append_iff.1 hafter with ⟨inner, hmark, hrest⟩ | ⟨inner, hfront, -⟩
  · -- the text is a beginning of the mark, and the rest of the mark begins another one
    cases inner with
    | nil =>
      rw [List.append_nil] at hmark
      exact h (hmark ▸ List.infix_refl _)
    | cons e inner =>
      obtain ⟨rfl, htail⟩ := List.cons.inj hmark
      obtain ⟨rfl, -⟩ := List.cons.inj hrest
      exact hmem (htail ▸ List.mem_append_right _ List.mem_cons_self)
  · exact h ⟨[], inner, by simpa using hfront.symm⟩

/-- A mark is found at the end of a text that it does not occur in. -/
theorem cut?_of_absent (hmem : c ∉ t) (h : ¬ c :: t <:+: front) (rest : Text) :
    cut? (front ++ (c :: t ++ rest)) (c :: t) = some (front, rest) := by
  induction front with
  | nil => exact cut?_append_self _ rest
  | cons d front ih =>
    have hfront : ¬ c :: t <:+: front := fun hwithin => h (List.infix_cons hwithin)
    rw [List.cons_append, cut?_cons_of_none (dropPrefix?_eq_none hmem h rest), ih hfront]
    rfl

/-- What begins with a code point that a text does not hold occurs only after that text. -/
theorem infix_of_infix_append (hmem : c ∉ front) (h : c :: t <:+: front ++ rest) :
    c :: t <:+: rest := by
  induction front with
  | nil => exact h
  | cons d front ih =>
    obtain ⟨hd, hfront⟩ : c ≠ d ∧ c ∉ front := by simpa [List.mem_cons] using hmem
    rcases List.infix_cons_iff.1 h with hstarts | hwithin
    · exact (hd (List.cons_prefix_cons.1 hstarts).1).elim
    · exact ih hfront hwithin

end Text

namespace Multipart

variable {boundary name t rest : Text} {field : FormField} {fields : List FormField}

/-- A code point put in front of what has been read. -/
def push (c : CodePoint) (read : Text × Text) : Text × Text := (c :: read.1, read.2)

/-- The code point that two hexadecimal digits stand for. -/
def ofDigits? (high low : CodePoint) : Option CodePoint := do
  CodePoint.ofNat? (16 * (← high.hexDigit?) + (← low.hexDigit?))

/-- A name up to its closing quote, with its escapes undone, and what follows the quote. -/
def readName? : Text → Option (Text × Text)
  | [] => none
  | .char '"' :: t => some ([], t)
  | .char '\\' :: c :: t => (readName? t).map (push c)
  | .char '%' :: high :: low :: t =>
    match ofDigits? high low with
    | some c => (readName? t).map (push c)
    | none => (readName? (high :: low :: t)).map (push (.char '%'))
  | c :: t => (readName? t).map (push c)

/-- The beginning of the header line that names a field. -/
def disposition : Text := "Content-Disposition: form-data; name=\""

/-- The name that a header line gives to its field, if it gives one. -/
def nameIn? (line : Text) : Option Text := do
  let rest ← line.dropPrefix? disposition
  return (← readName? rest).1

/-- The field of a part: the first name that its header lines give, and all after the first empty
line. -/
def readPart? (part : Text) : Option FormField := do
  let (header, value) ← part.cut? (lineEnd ++ lineEnd)
  let name ← (header.split (.char '\n')).findSome? nameIn?
  return (name, value)

/-- What ends a part: a line end and the delimiter. -/
def separator (boundary : Text) : Text := lineEnd ++ delimiter boundary

/-- The part that begins after a delimiter and its line end, and what follows the next delimiter. -/
def nextPart? (boundary t : Text) : Option (Text × Text) := do
  (← t.dropPrefix? lineEnd).cut? (separator boundary)

theorem length_lt_of_nextPart? {part : Text} (h : nextPart? boundary t = some (part, rest)) :
    rest.length < t.length := by
  obtain ⟨after, hline, hcut⟩ := Option.bind_eq_some_iff.1 h
  have hline := congrArg List.length (Text.dropPrefix?_eq_some_iff.1 hline)
  have hcut := congrArg List.length (Text.eq_of_cut? hcut)
  have hend : lineEnd.length = 2 := rfl
  simp only [List.length_append] at hline hcut
  omega

/-- The parts that follow a delimiter, up to the delimiter that two dashes close. -/
def partsAfter? (boundary t : Text) : Option (List Text) :=
  if t.startsWith "--" then some []
  else
    match _h : nextPart? boundary t with
    | none => none
    | some (part, rest) => (partsAfter? boundary rest).map (part :: ·)
termination_by t.length
decreasing_by exact length_lt_of_nextPart? _h

/-- The fields of a form, read from its body. What stands before the first delimiter is passed
over, and so is what follows the closing one. -/
def decode? (boundary body : Text) : Option (List FormField) := do
  let (_, rest) ← (lineEnd ++ body).cut? (separator boundary)
  (← partsAfter? boundary rest).mapM readPart?

theorem hexPair_eq : ∀ n < 0x20,
    hexPair n = [Percent.hexCapital (n / 16), Percent.hexCapital (n % 16)] := by decide

theorem ofDigits?_hexCapital {n : Nat} (h : n < 0x100) :
    ofDigits? (Percent.hexCapital (n / 16)) (Percent.hexCapital (n % 16)) =
      CodePoint.ofNat? n := by
  have hhigh := Percent.hexDigit?_hexCapital (n := n / 16) (by omega)
  have hlow := Percent.hexDigit?_hexCapital (n := n % 16) (by omega)
  have hsum : 16 * (n / 16) + n % 16 = n := by omega
  simp [ofDigits?, hhigh, hlow, hsum]

/-- A code point is written as itself, or as one of three kinds of escape. -/
theorem escapeNameChar_cases (c : CodePoint) :
    (c = .char '"' ∧ escapeNameChar c = [.char '%', .char '2', .char '2']) ∨
      (c = .char '\\' ∧ escapeNameChar c = [.char '\\', .char '\\']) ∨
      (c.value < 0x20 ∧ c.value ≠ 0x1B ∧ escapeNameChar c =
        [.char '%', Percent.hexCapital (c.value / 16), Percent.hexCapital (c.value % 16)]) ∨
      (c ≠ .char '"' ∧ c ≠ .char '\\' ∧ (c.value < 0x20 → c.value = 0x1B) ∧
        escapeNameChar c = [c]) := by
  rw [escapeNameChar]
  split
  · next hquote => exact Or.inl ⟨hquote, rfl⟩
  split
  · next hslash => exact Or.inr (Or.inl ⟨hslash, rfl⟩)
  split
  · next hcontrol =>
    rw [Bool.and_eq_true, decide_eq_true_eq, bne_iff_ne] at hcontrol
    refine Or.inr (Or.inr (Or.inl ⟨hcontrol.1, hcontrol.2, ?_⟩))
    rw [hexPair_eq _ hcontrol.1]
    rfl
  · next hquote hslash hcontrol =>
    refine Or.inr (Or.inr (Or.inr ⟨hquote, hslash, ?_, rfl⟩))
    intro hlow
    simpa [hlow] using hcontrol

/-- Reading undoes escaping for a name without percent signs. -/
theorem readName?_escaped (h : .char '%' ∉ name) (rest : Text) :
    readName? (name.flatMap escapeNameChar ++ .char '"' :: rest) = some (name, rest) := by
  induction name with
  | nil => rfl
  | cons c name ih =>
    obtain ⟨hc, hname⟩ : .char '%' ≠ c ∧ .char '%' ∉ name := by simpa [List.mem_cons] using h
    have hread := ih hname
    rw [List.flatMap_cons, List.append_assoc]
    rcases escapeNameChar_cases c with
        ⟨rfl, hself⟩ | ⟨rfl, hself⟩ | ⟨hlow, -, hself⟩ | ⟨hquote, hslash, -, hself⟩
    · have hdigits : ofDigits? (.char '2') (.char '2') = some (.char '"') := rfl
      rw [hself, List.cons_append, List.cons_append, List.singleton_append, readName?]
      simp only [hdigits, hread]
      rfl
    · rw [hself, List.cons_append, List.singleton_append, readName?, hread]
      rfl
    · cases c with
      | surrogate i =>
        simp only [CodePoint.value] at hlow
        omega
      | char a =>
        have hdigits := ofDigits?_hexCapital (n := a.toNat) (Nat.lt_trans hlow (by decide))
        rw [CodePoint.ofNat?_toNat] at hdigits
        rw [hself, List.cons_append, List.cons_append, List.singleton_append, readName?]
        simp only [CodePoint.value, hdigits, hread]
        rfl
    · rw [hself, List.singleton_append]
      simp [readName?, hslash, hc.symm, hread, push]

/-- The header line of a part. -/
def header (name : Text) : Text := "Content-Disposition: form-data; " ++ nameParameter name

theorem header_eq (name : Text) :
    header name = disposition ++ (name.flatMap escapeNameChar ++ [.char '"']) := by
  rw [header, nameParameter, List.append_assoc, ← List.append_assoc]
  rfl

theorem nameIn?_header (h : .char '%' ∉ name) : nameIn? (header name) = some name := by
  have hread := readName?_escaped h []
  rw [nameIn?, header_eq, Text.dropPrefix?_append]
  simp [hread]

/-- Escaping leaves no control character but one, which ends no line. -/
theorem not_mem_escapeNameChar {d : CodePoint} (hlow : d.value < 0x20) (hescape : d.value ≠ 0x1B)
    (c : CodePoint) : d ∉ escapeNameChar c := by
  have hdigit : ∀ n < 16, 0x20 ≤ (Percent.hexCapital n).value := by decide
  have hne : ∀ e : CodePoint, 0x20 ≤ e.value → d ≠ e := by
    rintro e he rfl
    omega
  rcases escapeNameChar_cases c with
      ⟨-, hself⟩ | ⟨-, hself⟩ | ⟨hcontrol, -, hself⟩ | ⟨-, -, hcontrol, hself⟩
  · simp [hself, hne (.char '%') (by decide), hne (.char '2') (by decide)]
  · simp [hself, hne (.char '\\') (by decide)]
  · have hhigh := hne _ (hdigit (c.value / 16) (by omega))
    have hlow := hne _ (hdigit (c.value % 16) (by omega))
    simp [hself, hne (.char '%') (by decide), hhigh, hlow]
  · rw [hself, List.mem_singleton]
    rintro rfl
    exact hescape (hcontrol hlow)

theorem not_mem_header {d : CodePoint} (hlow : d.value < 0x20) (hescape : d.value ≠ 0x1B)
    (name : Text) : d ∉ header name := by
  have hstart : ∀ c ∈ disposition, 0x20 ≤ c.value := by decide
  rw [header_eq, List.mem_append, List.mem_append]
  rintro (hmem | hmem | hmem)
  · have := hstart d hmem
    omega
  · obtain ⟨c, -, hc⟩ := List.mem_flatMap.1 hmem
    exact not_mem_escapeNameChar hlow hescape c hc
  · rw [List.mem_singleton.1 hmem] at hlow
    exact absurd hlow (by decide)

/-- A header is one line. -/
theorem lineEnd_not_mem_header (name : Text) :
    .char '\r' ∉ header name ∧ .char '\n' ∉ header name :=
  ⟨not_mem_header (by decide) (by decide) name, not_mem_header (by decide) (by decide) name⟩

/-- A part as it stands between two delimiters. -/
def partText (field : FormField) : Text :=
  header field.1 ++ (lineEnd ++ lineEnd ++ field.2)

theorem readPart?_partText (h : .char '%' ∉ field.1) : readPart? (partText field) = some field := by
  obtain ⟨hreturn, hfeed⟩ := lineEnd_not_mem_header field.1
  have hcut : (partText field).cut? (lineEnd ++ lineEnd) = some (header field.1, field.2) :=
    Text.cut?_of_not_mem hreturn _ field.2
  have hlines : (header field.1).split (.char '\n') = [header field.1] :=
    Text.split_of_not_mem hfeed
  simp [readPart?, hcut, hlines, nameIn?_header h]

/-- A value that does not hold the delimiter makes a part that does not hold the separator. -/
theorem separator_absent (hvalue : ¬ delimiter boundary <:+: field.2) :
    ¬ separator boundary <:+: partText field := by
  intro h
  obtain ⟨hreturn, -⟩ := lineEnd_not_mem_header field.1
  have hwithin : separator boundary <:+: lineEnd ++ lineEnd ++ field.2 :=
    Text.infix_of_infix_append hreturn h
  have hdelimiter : delimiter boundary <:+: separator boundary := (List.suffix_append _ _).isInfix
  -- where a line end of the two before the value begins, no dash follows it
  change .char '\r' :: .char '\n' :: delimiter boundary <:+:
    .char '\r' :: .char '\n' :: .char '\r' :: .char '\n' :: field.2 at hwithin
  simp only [List.infix_cons_iff, List.cons_prefix_cons] at hwithin
  rcases hwithin with ⟨-, -, hdash⟩ | ⟨hfirst, -⟩ | ⟨-, -, hstart⟩ | ⟨hfirst, -⟩ | hinner
  · exact absurd (List.cons_prefix_cons.1 hdash).1 (by decide)
  · exact absurd hfirst (by decide)
  · exact hvalue hstart.isInfix
  · exact absurd hfirst (by decide)
  · exact hvalue (hdelimiter.trans hinner)

/-- What follows the first delimiter of a body. -/
def afterDelimiter (boundary : Text) : List FormField → Text
  | [] => "--" ++ lineEnd
  | field :: fields =>
    lineEnd ++ (partText field ++ (separator boundary ++ afterDelimiter boundary fields))

theorem lineEnd_append_body (boundary : Text) (fields : List FormField) :
    lineEnd ++ body boundary fields = separator boundary ++ afterDelimiter boundary fields := by
  induction fields with
  | nil =>
    rw [body, List.flatMap_nil, List.nil_append, separator, afterDelimiter]
    simp only [List.append_assoc]
  | cons field fields ih =>
    have hpart : body boundary (field :: fields) = part boundary field ++ body boundary fields := by
      simp only [body, List.flatMap_cons, List.append_assoc]
    have hfield : lineEnd ++ part boundary field =
        separator boundary ++ (lineEnd ++ (partText field ++ lineEnd)) := by
      simp only [part, partText, header, separator, List.append_assoc]
    calc lineEnd ++ body boundary (field :: fields)
        = separator boundary ++
            (lineEnd ++ (partText field ++ (lineEnd ++ body boundary fields))) := by
          rw [hpart, ← List.append_assoc, hfield]
          simp only [List.append_assoc]
      _ = separator boundary ++ afterDelimiter boundary (field :: fields) := by
          rw [ih, afterDelimiter]

theorem partsAfter?_afterDelimiter (hboundary : .char '\r' ∉ boundary)
    (hvalues : ∀ field ∈ fields, ¬ delimiter boundary <:+: field.2) :
    partsAfter? boundary (afterDelimiter boundary fields) = some (fields.map partText) := by
  induction fields with
  | nil =>
    have hclosed : (afterDelimiter boundary []).startsWith "--" := rfl
    rw [partsAfter?, if_pos hclosed]
    rfl
  | cons field fields ih =>
    obtain ⟨hvalue, hvalues⟩ := List.forall_mem_cons.1 hvalues
    have hopen : (afterDelimiter boundary (field :: fields)).startsWith "--" = false := rfl
    have hnext : nextPart? boundary (afterDelimiter boundary (field :: fields)) =
        some (partText field, afterDelimiter boundary fields) := by
      rw [nextPart?, afterDelimiter, Text.dropPrefix?_append]
      have htail : .char '\r' ∉ .char '\n' :: .char '-' :: .char '-' :: boundary := by
        simpa using hboundary
      exact Text.cut?_of_absent htail (separator_absent hvalue) _
    rw [partsAfter?, hopen, hnext]
    simp [ih hvalues]

theorem mapM_readPart?_partText (hnames : ∀ field ∈ fields, .char '%' ∉ field.1) :
    (fields.map partText).mapM readPart? = some fields := by
  induction fields with
  | nil => rfl
  | cons field fields ih =>
    obtain ⟨hname, hnames⟩ := List.forall_mem_cons.1 hnames
    simp [readPart?_partText hname, ih hnames]

/-- Reading undoes writing, where no name holds a percent sign and no value the delimiter. -/
theorem decode?_body (hboundary : .char '\r' ∉ boundary)
    (hnames : ∀ field ∈ fields, .char '%' ∉ field.1)
    (hvalues : ∀ field ∈ fields, ¬ delimiter boundary <:+: field.2) :
    decode? boundary (body boundary fields) = some fields := by
  have hparts := partsAfter?_afterDelimiter hboundary hvalues
  have hread := mapM_readPart?_partText hnames
  rw [decode?, lineEnd_append_body, Text.cut?_append_self]
  simp [hparts, hread]

end Multipart

end ClassVerification
