import ClassVerification.Proofs.Api.Resource

/-! Addresses that a request can be sent to: below a root in visible letters all but the length is
given. -/
namespace ClassVerification

namespace Url

/-- An address that a request can be sent to: its normal form names a host that can be told, and has
no fragment. -/
def IsSendable (t : Text) : Prop :=
  ∃ u, target t = .ok u ∧ u.checkHost = .ok () ∧ u.isAbsolute ∧ u.fragment = none

theorem isVisible_of_pathSafe {c : CodePoint} (h : pathSafe c) : isVisible c := by
  simp only [pathSafe, outside, Bool.and_eq_true] at h
  exact h.1

theorem isScalar_of_isVisible {t : Text} (h : ∀ c ∈ t, isVisible c) : t.IsScalar := by
  intro i hi
  have hvisible := h _ hi
  rw [isVisible, Bool.and_eq_true, decide_eq_true_eq, decide_eq_true_eq] at hvisible
  have hlt : 0xD800 + i.val < 0x7F := hvisible.2
  omega

theorem find?_isNonPrintable {t : Text} (h : ∀ c ∈ t, isVisible c) :
    t.find? isNonPrintable = none := by
  rw [List.find?_eq_none]
  intro c hc
  simp [isNonPrintable, h c hc]

theorem encodePart_of_isScalar {t : Text} (h : t.IsScalar) :
    encodePart pathSafe t = .ok (encodedPath t) := by
  have hencoded : Percent.encodeAround pathSafe t = .ok (encodedPath t) :=
    (Percent.encodeAround_eq_ok_iff rfl fun c => pathSafe_of_hexDigit?).2 ⟨h, rfl⟩
  rw [encodePart, hencoded]

theorem checkPath_of_start {path : Text} {hasAuthority : Bool}
    (h : path.head? = some (.char '/')) : checkPath path true hasAuthority = .ok () := by
  obtain ⟨rest, rfl⟩ := List.head?_eq_some_iff.1 h
  simp [checkPath, Text.startsWith, Text.dropPrefix?, Text.ofString, Text.ofChars]

end Url

namespace RootAddress

variable {r : RootAddress} {e : Endpoint} {p host : Text} {port : Option Int}

/-- The address of a host, as far as the root tells it. -/
def atHost (r : RootAddress) (host : Text) (port : Option Int) (path : Text) : Url where
  scheme := Text.lowerBasic r.scheme
  userInfo := []
  host
  port
  path
  query := none
  fragment := none

/-- A root in visible letters whose host and port have a normal form that can be told. -/
structure Reads (r : RootAddress) (host : Text) (port : Option Int) : Prop where
  visible : ∀ c ∈ r.text, Url.isVisible c
  noUser : (Url.splitAuthorityPieces r.authority).userInfo = []
  ofHost : Host.normalize (Url.splitAuthorityPieces r.authority).host = .ok host
  ofPort : Url.normalizePort r.scheme (Url.splitAuthorityPieces r.authority).port = .ok port
  named : host ≠ []
  told : (r.atHost host port []).checkHost = .ok ()

theorem isVisible_address (hvisible : ∀ c ∈ r.text, Url.isVisible c) :
    ∀ c ∈ e.address r.text p, Url.isVisible c := by
  intro c hc
  obtain ⟨rest, htext, -⟩ := Text.exists_dropTrailing_append (· = .char '/') r.text
  have hstem : ∀ c ∈ e.stem, Url.isVisible c := by cases e <;> decide
  rcases List.mem_append.1 hc with hc | hc
  · exact hvisible c (htext ▸ List.mem_append_left _ hc)
  rcases List.mem_append.1 hc with hc | hc
  · exact hstem c hc
  rcases Percent.mem_segment hc with h | rfl
  · exact Url.isVisible_of_pathSafe (Url.pathSafe_of_isUnreserved h)
  · rfl

/-- Below such a root every resource has an address, unless it is too long. -/
theorem ofText_address (hp : p.IsScalar) (hreads : r.Reads host port)
    (hlength : (e.address r.text p).length ≤ Url.lengthLimit) :
    Url.ofText (e.address r.text p) =
      .ok (r.atHost host port (Url.encodedPath r.base ++ e.landing p)) := by
  have hscheme : r.scheme.isEmpty = false := by simp [r.scheme_ne_nil]
  have hbase : r.base.IsScalar := by
    refine Url.isScalar_of_isVisible fun c hc => hreads.visible c ?_
    exact List.mem_append_right _ (mem_path_of_mem_base hc)
  have hlanding : (e.landing p).IsScalar :=
    Url.isScalar_of_isVisible fun c hc => Url.isVisible_of_pathSafe (pathSafe_landing e p c hc)
  have hpath : Url.encodePart Url.pathSafe (Url.resolveDots (r.resourcePath e p)) =
      .ok (Url.encodedPath r.base ++ e.landing p) := by
    rw [r.resolveDots_resourcePath e hp,
      Url.encodePart_of_isScalar (Text.isScalar_append.2 ⟨hbase, hlanding⟩),
      Url.encodedPath_append, Url.encodedPath_of_safe (pathSafe_landing e p)]
  have huser : Url.encodePart Url.userInfoSafe [] = .ok [] := rfl
  rw [Url.ofText, if_neg (by omega), Url.find?_isNonPrintable (isVisible_address hreads.visible),
    Url.ofParts, split_address]
  simp only [Url.ofPieces, hreads.noUser, hreads.ofHost, hreads.ofPort, huser, hscheme, bind,
    Except.bind, Bool.not_false, Url.checkPath_of_start (r.resourcePath_start e p), Bool.true_or,
    if_true, hpath, Url.encodeOptional, pure, Except.pure, atHost]

theorem isSendable_address (hp : p.IsScalar) (hreads : r.Reads host port)
    (hlength : (e.address r.text p).length ≤ Url.lengthLimit) :
    Url.IsSendable (e.address r.text p) := by
  have habsolute : ∀ path, (r.atHost host port path).isAbsolute := by
    simp [Url.isAbsolute, atHost, Text.lowerBasic, r.scheme_ne_nil, hreads.named]
  refine ⟨r.atHost host port (Url.encodedPath r.base ++ e.landing p), ?_, hreads.told,
    habsolute _, rfl⟩
  rw [Url.target, ofText_address hp hreads hlength, Outcome.bind_eq_ok_iff]
  exact ⟨_, rfl, if_pos (habsolute _)⟩

end RootAddress

end ClassVerification
