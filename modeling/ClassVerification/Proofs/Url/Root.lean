import Mathlib.Data.List.TakeDrop
import Mathlib.Data.List.TakeWhile
import ClassVerification.Proofs.Api.Request
import ClassVerification.Proofs.Url.Host
import ClassVerification.Proofs.Url.Path

/-! Addresses of resources below a root: how they are cut into parts, and the path they lead to. -/
namespace ClassVerification

namespace Text

variable {p : CodePoint → Bool} {t rest front : Text}

theorem span_append (h : ∀ c ∈ t, p c) (hrest : ∀ c, rest.head? = some c → p c = false) :
    (t ++ rest).span p = (t, rest) := by
  rw [List.span_eq_takeWhile_dropWhile, List.takeWhile_append_of_pos h,
    List.dropWhile_append_of_pos h]
  cases rest with
  | nil => simp
  | cons c rest => simp [hrest c rfl]

/-- What is dropped from the end is all of the class. -/
theorem exists_dropTrailing_append (p : CodePoint → Bool) (t : Text) :
    ∃ rest, t = t.dropTrailing p ++ rest ∧ ∀ c ∈ rest, p c := by
  refine ⟨(t.reverse.takeWhile p).reverse, ?_, fun c hc => ?_⟩
  · rw [dropTrailing, ← List.reverse_append, List.takeWhile_append_dropWhile, List.reverse_reverse]
  · exact List.all_eq_true.1 List.all_takeWhile c (List.mem_reverse.1 hc)

theorem dropTrailing_append_of_last (h : ∀ c, front.getLast? = some c → p c = false) :
    (front ++ t).dropTrailing p = front ++ t.dropTrailing p := by
  simp only [dropTrailing, List.reverse_append, List.dropWhile_append]
  split
  · next hnil =>
    have hfront : front.reverse.dropWhile p = front.reverse := by
      cases hrev : front.reverse with
      | nil => rfl
      | cons c rest =>
        have hc := h c (by rw [List.getLast?_eq_head?_reverse, hrev]; rfl)
        simp [hc]
    rw [hfront, List.isEmpty_iff.1 hnil]
    simp
  · simp

end Text

namespace Url

variable {u : Url} {parts : Parts} {pieces : Authority}

theorem host_ne_nil_of_pieces {authority : Text} (hstart : authority.head?.any (· ≠ .char ':'))
    (hat : .char '@' ∉ authority) : (splitAuthorityPieces authority).host ≠ [] := by
  have hinfo : splitUserInfo authority = ([], authority) := by simp [splitUserInfo, hat]
  simp only [splitAuthorityPieces, hinfo, splitPort]
  split
  · next hbracket =>
    simp only [Bool.and_eq_true, List.contains_iff_mem] at hbracket
    intro hnil
    rw [List.span_eq_takeWhile_dropWhile, List.reverse_eq_nil_iff,
      List.dropWhile_eq_nil_iff] at hnil
    have hother := hnil _ (List.mem_reverse.2 hbracket.2)
    simp at hother
  · cases authority with
    | nil => cases hstart
    | cons c authority =>
      have hc : c ≠ .char ':' := by simpa using hstart
      simp [List.span_eq_takeWhile_dropWhile, hc]

theorem ofPieces_eq_ok (h : ofPieces parts pieces = .ok u) (hscheme : parts.scheme ≠ []) :
    u.scheme = Text.lowerBasic parts.scheme ∧ Host.normalize pieces.host = .ok u.host ∧
      u.path = encodedPath (resolveDots parts.path) := by
  simp only [ofPieces, Outcome.bind_eq_ok_iff] at h
  obtain ⟨info, -, host, hhost, port, -, -, -, path, hpath, query, -, fragment, -, h⟩ := h
  obtain rfl := Except.ok.inj h
  refine ⟨rfl, hhost, encodePart_pathSafe_eq_ok ?_⟩
  simpa [hscheme] using hpath

theorem ofText_eq_ok {t : Text} (h : ofText t = .ok u) :
    ofPieces (split t) (splitAuthorityPieces (split t).authority) = .ok u := by
  simp only [ofText] at h
  split at h
  · cases h
  split at h
  · cases h
  · exact h

end Url

/-- A root address: a scheme, a host that may have a port, and a path without dot segments that may
end in slashes. There is neither user information nor a query nor a fragment. -/
structure RootAddress where
  scheme : Text
  authority : Text
  path : Text
  scheme_start : scheme.head?.any fun c => c.isUpperLatin || c.isLowerLatin
  scheme_chars : ∀ c ∈ scheme, Url.isSchemeChar c
  host_start : authority.head?.any (· ≠ .char ':')
  authority_chars : ∀ c ∈ authority,
    c ≠ .char '/' ∧ c ≠ .char '?' ∧ c ≠ .char '#' ∧ c ≠ .char '@'
  path_start : path.head?.all (· = .char '/')
  path_chars : ∀ c ∈ path, c ≠ .char '?' ∧ c ≠ .char '#'
  path_plain : Url.IsPlain path

namespace RootAddress

variable {r : RootAddress} {e : Endpoint} {p : Text}

def text (r : RootAddress) : Text := r.scheme ++ "://" ++ r.authority ++ r.path

/-- The path without the slashes at its end. -/
def base (r : RootAddress) : Text := r.path.dropTrailing (· = .char '/')

theorem exists_path_eq_base_append (r : RootAddress) :
    r.path = r.base ∨ ∃ rest, r.path = r.base ++ .char '/' :: rest := by
  obtain ⟨rest, hrest, hslash⟩ := Text.exists_dropTrailing_append (· = .char '/') r.path
  cases rest with
  | nil => exact Or.inl (hrest.trans (List.append_nil _))
  | cons c rest =>
    obtain rfl : c = .char '/' := by simpa using hslash c List.mem_cons_self
    exact Or.inr ⟨rest, hrest⟩

theorem mem_path_of_mem_base {c : CodePoint} (h : c ∈ r.base) : c ∈ r.path := by
  rcases r.exists_path_eq_base_append with heq | ⟨rest, heq⟩
  · exact heq ▸ h
  · exact heq ▸ List.mem_append_left _ h

theorem isPlain_base (r : RootAddress) : Url.IsPlain r.base := by
  have hplain := r.path_plain
  rcases r.exists_path_eq_base_append with heq | ⟨rest, heq⟩
  · rwa [heq] at hplain
  · rw [heq, Url.isPlain_append] at hplain
    exact hplain.1

theorem base_start (r : RootAddress) : r.base.head?.all (· = .char '/') := by
  have hstart := r.path_start
  rcases r.exists_path_eq_base_append with heq | ⟨rest, heq⟩
  · rwa [heq] at hstart
  · cases hbase : r.base with
    | nil => rfl
    | cons c base =>
      rw [heq, hbase] at hstart
      exact hstart

theorem authority_ne_nil (r : RootAddress) : r.authority ≠ [] := by
  have hstart := r.host_start
  intro heq
  rw [heq] at hstart
  cases hstart

/-- The slashes that do not count are those of the path. -/
theorem dropTrailing_text (r : RootAddress) :
    r.text.dropTrailing (· = .char '/') = r.scheme ++ "://" ++ r.authority ++ r.base := by
  refine Text.dropTrailing_append_of_last fun c hc => ?_
  rw [List.getLast?_append, List.getLast?_eq_some_getLast r.authority_ne_nil,
    Option.some_or, ← List.getLast?_eq_some_getLast r.authority_ne_nil] at hc
  have hslash := (r.authority_chars c (List.mem_of_getLast? hc)).1
  simpa using hslash

/-- The path of a resource below the root as it is written. -/
def resourcePath (r : RootAddress) (e : Endpoint) (p : Text) : Text :=
  r.base ++ (e.stem ++ Percent.segment p)

theorem address_text (r : RootAddress) (e : Endpoint) (p : Text) :
    e.address r.text p = r.scheme ++ .char ':' ::
      (Text.ofString "//" ++ (r.authority ++ r.resourcePath e p)) := by
  simp [Endpoint.address, dropTrailing_text, resourcePath, Percent.segment, Text.ofString,
    Text.ofChars]

theorem resourcePath_start (r : RootAddress) (e : Endpoint) (p : Text) :
    (r.resourcePath e p).head? = some (.char '/') := by
  have hstart := r.base_start
  rw [resourcePath]
  cases hbase : r.base with
  | nil => cases e <;> rfl
  | cons c base =>
    rw [hbase] at hstart
    simpa using hstart

theorem resourcePath_chars (r : RootAddress) (e : Endpoint) (p : Text) :
    ∀ c ∈ r.resourcePath e p, c ≠ .char '?' ∧ c ≠ .char '#' := by
  intro c hc
  rcases List.mem_append.1 hc with hc | hc
  · exact r.path_chars c (mem_path_of_mem_base hc)
  rcases List.mem_append.1 hc with hc | hc
  · have hstem : ∀ c ∈ e.stem, c ≠ .char '?' ∧ c ≠ .char '#' := by cases e <;> decide
    exact hstem c hc
  · constructor
    · rintro rfl
      rcases Percent.mem_segment hc with h | h <;> cases h
    · rintro rfl
      rcases Percent.mem_segment hc with h | h <;> cases h

theorem split_address (r : RootAddress) (e : Endpoint) (p : Text) :
    Url.split (e.address r.text p) = ⟨r.scheme, r.authority, r.resourcePath e p, none, none⟩ := by
  have hscheme : Url.splitScheme (e.address r.text p) =
      (r.scheme, Text.ofString "//" ++ (r.authority ++ r.resourcePath e p)) := by
    have hstart := r.scheme_start
    rw [address_text, Url.splitScheme, Text.span_append r.scheme_chars (by simp; rfl)]
    cases hs : r.scheme with
    | nil => simp [hs] at hstart
    | cons c scheme =>
      have hc : c.isUpperLatin || c.isLowerLatin := by simpa [hs] using hstart
      simp [Text.dropPrefix?, Text.ofString, Text.ofChars, hc]
  have hauthority : Url.splitAuthority (Text.ofString "//" ++ (r.authority ++ r.resourcePath e p)) =
      (r.authority, r.resourcePath e p) := by
    rw [Url.splitAuthority, Text.dropPrefix?_append]
    refine Text.span_append (fun c hc => ?_) (fun c hc => ?_)
    · obtain ⟨hslash, hquery, hhash, -⟩ := r.authority_chars c hc
      simp [hslash, hquery, hhash]
    · rw [resourcePath_start] at hc
      obtain rfl := Option.some.inj hc
      rfl
  have hpath : (r.resourcePath e p).span (fun c => c != .char '?' && c != .char '#') =
      (r.resourcePath e p, []) := by
    have hspan := @Text.span_append (fun c => c != .char '?' && c != .char '#')
      (r.resourcePath e p) [] (fun c hc => by simpa using r.resourcePath_chars e p c hc) (by simp)
    rwa [List.append_nil] at hspan
  simp only [Url.split, hscheme, hauthority, hpath]
  rfl

theorem scheme_ne_nil (r : RootAddress) : r.scheme ≠ [] := by
  have hstart := r.scheme_start
  intro heq
  rw [heq] at hstart
  cases hstart

/-- The normal form of an address below a root names the host, and its path is the one that was
written, less its dot segments. -/
theorem path_of_target {u : Url} (h : Url.target (e.address r.text p) = .ok u) :
    u.path = Url.encodedPath (Url.resolveDots (r.resourcePath e p)) := by
  obtain ⟨v, hv, h⟩ := Outcome.bind_eq_ok_iff.1 h
  have hparts := Url.ofText_eq_ok hv
  rw [split_address] at hparts
  obtain ⟨hscheme, hhost, hpath⟩ := Url.ofPieces_eq_ok hparts r.scheme_ne_nil
  have hnamed : v.host ≠ [] := Host.normalize_ne_nil
    (Url.host_ne_nil_of_pieces r.host_start fun hat => (r.authority_chars _ hat).2.2.2 rfl) hhost
  have habsolute : v.isAbsolute := by
    simp [Url.isAbsolute, hscheme, hnamed, Text.lowerBasic, r.scheme_ne_nil]
  rw [if_pos habsolute] at h
  obtain rfl := Except.ok.inj h
  exact hpath

end RootAddress

end ClassVerification
