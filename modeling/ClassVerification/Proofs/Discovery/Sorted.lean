import ClassVerification.Proofs.Discovery.Candidates

/-! The order of a listing: paths are compared name by name, and names by their code points. -/
namespace ClassVerification

theorem CodePoint.value_injective : Function.Injective value := by
  intro c d h
  have hchar (a : Char) : a.toNat < 0xD800 ∨ 0xDFFF < a.toNat ∧ a.toNat < 0x110000 := a.valid
  cases c with
  | char a =>
    cases d with
    | char b => exact congrArg char (Char.toNat_inj.1 h)
    | surrogate i =>
      have ha := hchar a
      have hi := i.isLt
      simp only [value] at h
      omega
  | surrogate i =>
    cases d with
    | char b =>
      have hb := hchar b
      have hi := i.isLt
      simp only [value] at h
      omega
    | surrogate j =>
      simp only [value] at h
      exact congrArg surrogate (Fin.ext (by omega))

/-- A code point with a smaller number. -/
def CodePoint.Before (c d : CodePoint) : Prop := c.value < d.value

instance : Std.Asymm CodePoint.Before := ⟨fun _ _ h h' => Nat.lt_asymm h h'⟩

instance : Std.Trichotomous CodePoint.Before where
  trichotomous _ _ hno hno' :=
    CodePoint.value_injective (Nat.le_antisymm (Nat.not_lt.1 hno') (Nat.not_lt.1 hno))

instance : IsOrderConnected CodePoint CodePoint.Before where
  conn c d e h := by
    have hlt : c.value < e.value := h
    have hcases : c.value < d.value ∨ d.value < e.value := by omega
    exact hcases

/-- A text that comes first: the first code points that differ decide. -/
abbrev Text.Before : Text → Text → Prop := List.Lex CodePoint.Before

/-- A path that comes first, component by component: the first names that differ decide. -/
def FilePath.Before (p q : FilePath) : Prop := List.Lex Text.Before p.names q.names

namespace Discovery

variable {a b : Text} {first second : List Text}

/-- The order of texts has what comes first in front. -/
theorem le_iff : Text.le a b ↔ ¬ Text.Before b a := by
  induction a generalizing b with
  | nil =>
    refine iff_of_true rfl ?_
    rintro ⟨⟩
  | cons c a ih =>
    cases b with
    | nil => exact iff_of_false (by simp [Text.le]) fun h => h .nil
    | cons d b =>
      have hle : Text.le (c :: a) (d :: b) ↔
          c.value < d.value ∨ c.value = d.value ∧ Text.le a b := by
        simp [Text.le]
      rw [hle, ih]
      rcases Nat.lt_trichotomy c.value d.value with hlt | heq | hlt
      · refine iff_of_true (Or.inl hlt) fun h => ?_
        cases h with
        | rel h => exact Nat.lt_asymm hlt h
        | cons _ => exact Nat.lt_irrefl _ hlt
      · obtain rfl := CodePoint.value_injective heq
        simp [List.lex_cons_iff]
      · refine iff_of_false (by omega) fun h => h (.rel hlt)

theorem namesLe_iff : namesLe first second ↔ ¬ List.Lex Text.Before second first := by
  induction first generalizing second with
  | nil =>
    refine iff_of_true rfl ?_
    rintro ⟨⟩
  | cons name first ih =>
    cases second with
    | nil => exact iff_of_false (by simp [namesLe]) fun h => h .nil
    | cons other second =>
      rw [namesLe]
      by_cases hname : name = other
      · subst hname
        rw [if_pos rfl, ih, List.lex_cons_iff]
      · rw [if_neg hname, le_iff]
        refine not_congr ⟨.rel, fun h => ?_⟩
        cases h with
        | rel h => exact h
        | cons _ => exact (hname rfl).elim

theorem pairwise_sourcesBelow (tree : FileTree) (base : Place) :
    (sourcesBelow tree base).Pairwise fun first second => ¬ List.Lex Text.Before second first := by
  have hsorted : (sourcesBelow tree base).Pairwise fun first second => namesLe first second := by
    refine List.pairwise_mergeSort (fun first second third h h' => ?_) (fun first second => ?_) _
    · rw [namesLe_iff] at h h' ⊢
      exact IsOrderConnected.neg_trans h' h
    · rw [Bool.or_eq_true, namesLe_iff, namesLe_iff]
      by_contra hboth
      rw [not_or, not_not, not_not] at hboth
      exact Std.Asymm.asymm _ _ hboth.1 hboth.2
  exact hsorted.imp namesLe_iff.1

theorem lex_append_iff (front : List Text) :
    List.Lex Text.Before (front ++ first) (front ++ second) ↔
      List.Lex Text.Before first second := by
  induction front with
  | nil => rfl
  | cons name front ih => rw [List.cons_append, List.cons_append, List.lex_cons_iff, ih]

/-- Each listing is sorted: no path stands behind one that it comes before. -/
theorem pairwise_listing (s : Session) (package : FilePath) :
    (listing s package).Pairwise fun p q => ¬ q.Before p := by
  cases hsources : sources s (package.child "src") with
  | error e =>
    rw [listing, hsources]
    exact .nil
  | ok paths =>
    rw [listing_of_sources hsources]
    rcases sources_cases hsources with ⟨-, rfl⟩ | ⟨-, base, -, rfl⟩
    · exact .nil
    · refine (pairwise_sourcesBelow s.files base).map _ fun first second h hbefore => h ?_
      exact (lex_append_iff _).1 hbefore

end Discovery

end ClassVerification
