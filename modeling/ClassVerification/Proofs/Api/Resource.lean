import ClassVerification.Proofs.Url.Root

/-! Which resource a request goes to: the one that its parameter names, dots apart. -/
namespace ClassVerification

namespace Endpoint

variable {e : Endpoint} {p q : Text}

/-- The front of a template without its last fixed segment. -/
def folder : Endpoint → Text
  | .getClass => "/api"
  | .getJobStatus => "/class-verify"
  | .verifyClass => []

/-- The last fixed segment of a template. -/
def word : Endpoint → Text
  | .getClass => "class"
  | .getJobStatus => "job"
  | .verifyClass => "class-verify"

theorem stem_eq (e : Endpoint) : e.stem = e.folder ++ .char '/' :: e.word ++ [.char '/'] := by
  cases e <;> decide

/-- The path below the root that a parameter leads to. A single dot leads to the template without
its parameter, and two dots to one segment less. -/
def landing (e : Endpoint) (p : Text) : Text :=
  if p = "." then e.folder ++ .char '/' :: e.word
  else if p = ".." then e.folder
  else e.stem ++ Percent.segment p

theorem landing_of_ne (hdot : p ≠ ".") (hdots : p ≠ "..") :
    e.landing p = e.stem ++ Percent.segment p := by
  rw [landing, if_neg hdot, if_neg hdots]

theorem length_stem (e : Endpoint) : e.stem.length = e.folder.length + e.word.length + 2 := by
  rw [stem_eq]
  simp only [List.length_append, List.length_cons, List.length_nil]
  omega

theorem landing_cases (e : Endpoint) (p : Text) :
    (p = "." ∧ (e.landing p).length = e.folder.length + e.word.length + 1) ∨
      (p = ".." ∧ (e.landing p).length = e.folder.length) ∨
      (p ≠ "." ∧ p ≠ ".." ∧ e.landing p = e.stem ++ Percent.segment p ∧
        e.folder.length + e.word.length + 2 ≤ (e.landing p).length) := by
  by_cases hdot : p = "."
  · refine Or.inl ⟨hdot, ?_⟩
    rw [landing, if_pos hdot, List.length_append, List.length_cons]
    omega
  by_cases hdots : p = ".."
  · refine Or.inr (Or.inl ⟨hdots, ?_⟩)
    rw [landing, if_neg hdot, if_pos hdots]
  · refine Or.inr (Or.inr ⟨hdot, hdots, landing_of_ne hdot hdots, ?_⟩)
    have hstem := e.length_stem
    rw [landing_of_ne hdot hdots, List.length_append]
    omega

/-- Different parameters lead to different paths. -/
theorem landing_inj (hp : p.IsScalar) (hq : q.IsScalar) (h : e.landing p = e.landing q) :
    p = q := by
  have hlength := congrArg List.length h
  rcases e.landing_cases p with ⟨rfl, hpl⟩ | ⟨rfl, hpl⟩ | ⟨-, -, hpath, hpl⟩
  · rcases e.landing_cases q with ⟨rfl, -⟩ | ⟨-, hql⟩ | ⟨-, -, -, hql⟩
    · rfl
    · omega
    · omega
  · rcases e.landing_cases q with ⟨-, hql⟩ | ⟨rfl, -⟩ | ⟨-, -, -, hql⟩
    · omega
    · rfl
    · omega
  · rcases e.landing_cases q with ⟨-, hql⟩ | ⟨-, hql⟩ | ⟨-, -, hother, -⟩
    · omega
    · omega
    · rw [hpath, hother] at h
      exact Percent.segment_inj hp hq (List.append_cancel_left h)

end Endpoint

namespace RootAddress

variable {r : RootAddress} {e : Endpoint} {p : Text} {u : Url}

theorem segment_dot : Percent.segment "." = "." := by decide

theorem segment_dots : Percent.segment ".." = ".." := by decide

theorem isPlain_segment (hp : p.IsScalar) (hdot : p ≠ ".") (hdots : p ≠ "..") :
    Url.IsPlain (Percent.segment p) := by
  intro segment hsegment
  rw [Text.split_of_not_mem (Percent.slash_not_mem_segment p), List.mem_singleton] at hsegment
  subst hsegment
  constructor
  · intro heq
    exact hdot (Percent.segment_inj hp (Text.isScalar_ofString _) (heq.trans segment_dot.symm))
  · intro heq
    exact hdots (Percent.segment_inj hp (Text.isScalar_ofString _) (heq.trans segment_dots.symm))

theorem isPlain_base_folder (r : RootAddress) (e : Endpoint) :
    Url.IsPlain (r.base ++ e.folder) := by
  have hbase := r.isPlain_base
  cases e with
  | verifyClass => simpa [Endpoint.folder] using hbase
  | getClass =>
    have hword : Url.IsPlain "api" := by decide
    exact Url.isPlain_append.2 ⟨hbase, hword⟩
  | getJobStatus =>
    have hword : Url.IsPlain "class-verify" := by decide
    exact Url.isPlain_append.2 ⟨hbase, hword⟩

theorem resolveDots_resourcePath (r : RootAddress) (e : Endpoint) (hp : p.IsScalar) :
    Url.resolveDots (r.resourcePath e p) = r.base ++ e.landing p := by
  have hfolder := r.isPlain_base_folder e
  have hword : Url.IsPlain e.word := by cases e <;> decide
  have hslash : .char '/' ∉ e.word := by cases e <;> decide
  have hpath : r.resourcePath e p =
      r.base ++ e.folder ++ .char '/' :: e.word ++ .char '/' :: Percent.segment p := by
    simp [resourcePath, Endpoint.stem_eq]
  rw [hpath]
  by_cases hdot : p = "."
  · subst hdot
    rw [segment_dot, Url.resolveDots_dot (Url.isPlain_append.2 ⟨hfolder, hword⟩), Endpoint.landing,
      if_pos rfl, List.append_assoc]
  by_cases hdots : p = ".."
  · subst hdots
    rw [segment_dots, Url.resolveDots_dots hfolder hword hslash, Endpoint.landing, if_neg hdot,
      if_pos rfl]
  · have hplain : Url.IsPlain (r.base ++ e.folder ++ .char '/' :: e.word ++
        .char '/' :: Percent.segment p) :=
      Url.isPlain_append.2 ⟨Url.isPlain_append.2 ⟨hfolder, hword⟩, isPlain_segment hp hdot hdots⟩
    rw [Url.resolveDots_of_isPlain hplain, Endpoint.landing_of_ne hdot hdots, Endpoint.stem_eq]
    simp

theorem pathSafe_landing (e : Endpoint) (p : Text) : ∀ c ∈ e.landing p, Url.pathSafe c := by
  intro c hc
  have hfolder : ∀ c ∈ e.folder, Url.pathSafe c := by cases e <;> decide
  have hword : ∀ c ∈ .char '/' :: e.word, Url.pathSafe c := by cases e <;> decide
  have hstem : ∀ c ∈ e.stem, Url.pathSafe c := by cases e <;> decide
  rw [Endpoint.landing] at hc
  split at hc
  · exact (List.mem_append.1 hc).elim (hfolder c) (hword c)
  split at hc
  · exact hfolder c hc
  rcases List.mem_append.1 hc with hc | hc
  · exact hstem c hc
  rcases Percent.mem_segment hc with h | rfl
  · exact Url.pathSafe_of_isUnreserved h
  · rfl

/-- The path that an address below a root has in its normal form. -/
theorem path_eq_landing (hp : p.IsScalar) (h : Url.target (e.address r.text p) = .ok u) :
    u.path = Url.encodedPath r.base ++ e.landing p := by
  rw [path_of_target h, r.resolveDots_resourcePath e hp, Url.encodedPath_append,
    Url.encodedPath_of_safe (pathSafe_landing e p)]

end RootAddress

/-- An address is that of the resource that a parameter names: below the path of the root and the
fixed segments stands one more segment, and it reads as the parameter. -/
def Url.Names (u : Url) (r : RootAddress) (e : Endpoint) (p : Text) : Prop :=
  ∃ segment, u.path = Url.encodedPath r.base ++ (e.stem ++ segment) ∧ .char '/' ∉ segment ∧
    Percent.decode? segment = some p

theorem Url.names_iff {u : Url} {r : RootAddress} {e : Endpoint} {p : Text} (hp : p.IsScalar)
    (h : u.path = Url.encodedPath r.base ++ e.landing p) :
    u.Names r e p ↔ p ≠ "." ∧ p ≠ ".." := by
  have hstem := e.length_stem
  constructor
  · rintro ⟨segment, hpath, -, -⟩
    have hlength := congrArg List.length (List.append_cancel_left (h.symm.trans hpath))
    rw [List.length_append] at hlength
    rcases e.landing_cases p with ⟨-, hl⟩ | ⟨-, hl⟩ | ⟨hdot, hdots, -, -⟩
    · omega
    · omega
    · exact ⟨hdot, hdots⟩
  · rintro ⟨hdot, hdots⟩
    rw [Endpoint.landing_of_ne hdot hdots] at h
    exact ⟨_, h, Percent.slash_not_mem_segment p, Percent.decode?_segment hp⟩

namespace Client

variable {client : Client} {settings : Settings} {r : RootAddress} {e : Endpoint}
  {method otherMethod : Method} {p q : Text} {fields otherFields : List Multipart.FormField}
  {call other : Call}

theorem isScalar_of_prepare (h : client.prepare method e p fields = .ok call) : p.IsScalar := by
  simp only [prepare, Outcome.bind_eq_ok_iff] at h
  obtain ⟨_, -, written, hwritten, -⟩ := h
  obtain ⟨path, hpath, -⟩ := Outcome.map_eq_ok_iff.1 hwritten
  rw [Endpoint.path] at hpath
  cases hsegment : Percent.encodeSegment p with
  | error flaw => simp [hsegment] at hpath
  | ok segment => exact (Percent.encodeSegment_eq_ok_iff.1 hsegment).1

theorem path_of_prepare (hclient : create r.text settings = .ok client)
    (h : client.prepare method e p fields = .ok call) :
    call.request.url.path = Url.encodedPath r.base ++ e.landing p :=
  RootAddress.path_eq_landing (isScalar_of_prepare h) (prepare_eq_ok hclient h).1.target

/-- A request goes to the resource that its parameter names, unless the parameter is a dot or two
dots; and no two parameters share an address. -/
theorem prepare_names_iff (hclient : create r.text settings = .ok client)
    (hcall : client.prepare method e p fields = .ok call) :
    (call.request.url.Names r e p ↔ p ≠ "." ∧ p ≠ "..") ∧
      ∀ otherMethod otherFields q other,
        client.prepare otherMethod e q otherFields = .ok other →
        other.request.url = call.request.url → q = p := by
  have hp := isScalar_of_prepare hcall
  have hpath := path_of_prepare hclient hcall
  refine ⟨Url.names_iff hp hpath, fun otherMethod otherFields q other hother hsame => ?_⟩
  have hq := isScalar_of_prepare hother
  have hotherPath := path_of_prepare hclient hother
  rw [hsame, hpath] at hotherPath
  exact (Endpoint.landing_inj hp hq (List.append_cancel_left hotherPath)).symm

/-- A root with a port, a blank in its path and slashes at its end. -/
def sampleRoot : RootAddress where
  scheme := "https"
  authority := "h.example:8443"
  path := "/be ta//"
  scheme_start := rfl
  scheme_chars := by decide
  host_start := rfl
  authority_chars := by decide
  path_start := rfl
  path_chars := by decide
  path_plain := by decide

/-- Slashes, dots between them, marks of a query and a fragment, and escapes are all part of the
parameter. -/
theorem sample_parameter_is_named :
    ∃ client call, create sampleRoot.text {} = .ok client ∧
      client.prepare .get .getJobStatus "a/../é?b#%2F" [] = .ok call ∧
      call.request.url.Names sampleRoot .getJobStatus "a/../é?b#%2F" := by
  obtain ⟨client, call, hclient, hcall⟩ : ∃ client call, create sampleRoot.text {} = .ok client ∧
      client.prepare .get .getJobStatus "a/../é?b#%2F" [] = .ok call := ⟨_, _, rfl, rfl⟩
  have hnames := (prepare_names_iff hclient hcall).1
  exact ⟨client, call, hclient, hcall, hnames.2 (by decide)⟩

/-- Two dots lead out of the template. -/
theorem dots_are_not_named :
    ∃ client call, create sampleRoot.text {} = .ok client ∧
      client.prepare .get .getJobStatus ".." [] = .ok call ∧
      call.request.url.path = "/be%20ta/class-verify" ∧
      ¬ call.request.url.Names sampleRoot .getJobStatus ".." := by
  obtain ⟨client, call, hclient, hcall⟩ : ∃ client call, create sampleRoot.text {} = .ok client ∧
      client.prepare .get .getJobStatus ".." [] = .ok call := ⟨_, _, rfl, rfl⟩
  have hpath := path_of_prepare hclient hcall
  refine ⟨client, call, hclient, hcall, ?_, ?_⟩
  · rw [hpath]
    decide
  · rw [Url.names_iff (isScalar_of_prepare hcall) hpath]
    simp

end Client

end ClassVerification
