import ClassVerification.Proofs.Api.Exchange
import ClassVerification.Proofs.Multipart.Scalar
import ClassVerification.Proofs.Session.Declared
import ClassVerification.Proofs.Url.Sendable

/-! Requests that can be built, and answers to them that can be taken. -/
namespace ClassVerification

/-- The place that a location leads to from an address: itself if it names a host, and else, if it
is a relative one, what it makes together with the address. -/
inductive Url.Leads (u location : Url) : Url → Prop
  | whole (habsolute : location.isAbsolute) : Leads u location location
  | relative {t : Text} {place : Url} (hscheme : location.scheme = [])
      (hjoin : join u.text location.text = .ok t) (hplace : ofText t = .ok place) :
      Leads u location place

/-- A response to a request for an address that sends the client nowhere, or to a place that can be
made out: its location is refused as no address, or it leads to a place whose host can be read. -/
def Response.IsTraceable (r : Response) (u : Url) : Prop :=
  ∀ t, r.location? = some t → (∃ reason, Url.ofText t = .error (.invalidUrl reason)) ∨
    ∃ location place host, Url.ofText t = .ok location ∧ u.Leads location place ∧
      Host.shown place.host = .ok host ∧ (location.scheme ≠ [] → host ≠ [])

theorem Response.isTraceable_of_location?_none {r : Response} (h : r.location? = none) (u : Url) :
    r.IsTraceable u := fun _ hlocation => nomatch h.symm.trans hlocation

/-- A response whose text can be read by the character set that it names. -/
def Response.IsReadable (r : Response) : Prop := ∃ t, r.text = .ok t

/-- Where no type of the content is told, the text is read as UTF-8 with replacements for flaws. -/
theorem Response.isReadable_of_untyped {r : Response}
    (h : Header.value? r.headers "content-type" = none) : r.IsReadable := by
  have hcharset : r.charset = .ok (.utf8 false) := by simp [charset, h]
  rw [IsReadable, text, hcharset]
  split
  · exact ⟨[], rfl⟩
  · exact ⟨Utf8.decodeReplacing r.body, rfl⟩

/-- A reply of the service or of the network to a request for an address: a response that can be
followed and read, or a request that was cut off. -/
def Reply.IsSound (u : Url) : Reply → Prop
  | .response r => r.IsTraceable u ∧ r.IsReadable
  | .broken _ => True
  | .refused _ => False

theorem Url.Leads.checkRedirect {u location place : Url} {host : Text} (h : u.Leads location place)
    (hfragment : u.fragment = none) (hshown : Host.shown place.host = .ok host)
    (hhost : location.scheme ≠ [] → host ≠ []) : u.checkRedirect location = .ok () := by
  have hnone : u.shownFragment = [] := by
    rw [shownFragment, hfragment]
    cbv
  have hwith : withHostOf u location = .ok location := by
    cases h with
    | whole habsolute =>
      have hscheme : location.scheme ≠ [] := by
        rintro hempty
        simp [isAbsolute, hempty] at habsolute
      simp [withHostOf, hscheme, hshown, hhost hscheme, bind, Except.bind, pure, Except.pure]
    | relative hscheme _ _ => simp [withHostOf, hscheme, pure, Except.pure]
  have habsolute : madeAbsolute u location = .ok place := by
    cases h with
    | whole habsolute => simp [madeAbsolute, habsolute]
    | relative hscheme hjoin hplace =>
      simp [madeAbsolute, isAbsolute, hscheme, hjoin, hplace, bind, Except.bind]
  have hplace : u.place location = .ok place := by
    simp [Url.place, hwith, habsolute, hnone, bind, Except.bind, pure, Except.pure]
  simp [Url.checkRedirect, hplace, hshown, bind, Except.bind, pure, Except.pure]

theorem Response.IsTraceable.checkRedirect_ne_fault {r : Response} {u : Url} (h : r.IsTraceable u)
    (hfragment : u.fragment = none) (f : Fault) : r.checkRedirect u ≠ .error (.fault f) := by
  rw [checkRedirect]
  cases hlocation : r.location? with
  | none => simp
  | some t =>
    rcases h t hlocation with ⟨reason, ht⟩ | ⟨location, place, host, ht, hleads, hshown, hhost⟩
    · simp [ht]
    · simp [ht, hleads.checkRedirect hfragment hshown hhost]

/-- A call whose answers can be taken: its address names a host, and has no fragment. -/
structure Call.IsSound (call : Call) : Prop where
  isAbsolute : call.request.url.isAbsolute
  fragment : call.request.url.fragment = none

open Outcome in
theorem Call.IsSound.isDeclared_exchange {call : Call} (h : call.IsSound) {replies : List Reply}
    (hreplies : ∀ reply ∈ replies, reply.IsSound call.request.url) :
    IsDeclared (call.exchange replies).outcome := by
  cases replies with
  | nil => exact isDeclared_noReplyLeft
  | cons reply rest =>
    have hreply := hreplies reply List.mem_cons_self
    cases reply with
    | broken reason => exact isDeclared_failure _
    | refused fault => exact hreply.elim
    | response r =>
      have hnofault := hreply.1.checkRedirect_ne_fault h.fragment
      simp only [exchange, receive, h.isAbsolute, Bool.not_true, Bool.false_eq_true, if_false]
      cases hredirect : r.checkRedirect call.request.url with
      | ok _ => exact isDeclared_ok r
      | error bad =>
        cases bad with
        | location reason => exact isDeclared_failure _
        | fault f => exact (hnofault f hredirect).elim

namespace Client

variable {client : Client} {settings : Settings} {root parameter : Text} {e : Endpoint}
  {method : Method} {fields : List Multipart.FormField}

theorem exists_create (h : ∀ c ∈ settings.apiKey, c.isAscii) (root : Text) :
    ∃ client, create root settings = .ok client ∧ client.isOpen := by
  rw [create_eq, Unencodable.find_eq_none_iff.2 h]
  exact ⟨_, rfl, rfl⟩

/-- A request can be built where its address can be sent to and all its texts can be written. -/
theorem exists_prepare (hclient : create root settings = .ok client) (hopen : client.isOpen)
    (hparameter : parameter.IsScalar) (haddress : Url.IsSendable (e.address root parameter))
    (hfields : ∀ field ∈ fields, field.1.IsScalar ∧ field.2.IsScalar) :
    ∃ call, client.prepare method e parameter fields = .ok call ∧ call.IsSound := by
  obtain ⟨u, htarget, hhost, habsolute, hfragment⟩ := haddress
  have hwritten : client.urlFor e parameter = .ok (e.address root parameter) := by
    rw [urlFor, Endpoint.path, Percent.encodeSegment_eq_ok_iff.2 ⟨hparameter, rfl⟩]
    simp [Except.map, root_of_create hclient, Endpoint.address, Percent.segment]
  have hvalue : utf8 (Multipart.checkAll (fields.map (·.2))) = .ok () := by
    rw [utf8_eq_ok_iff, Multipart.checkAll_eq_ok_iff, List.forall_mem_map]
    exact fun field hfield => (hfields field hfield).2
  have hname : utf8 (Multipart.checkAll
      (fields.map fun field => Multipart.nameParameter field.1)) = .ok () := by
    rw [utf8_eq_ok_iff, Multipart.checkAll_eq_ok_iff, List.forall_mem_map]
    exact fun field hfield => Multipart.isScalar_nameParameter (hfields field hfield).1
  simp only [prepare, hvalue, hwritten, htarget, hname, hhost, hopen, bind, Except.bind, pure,
    Except.pure, Bool.not_true, Bool.false_eq_true, if_false]
  exact ⟨_, rfl, habsolute, hfragment⟩

open Outcome in
/-- A request that can be built and whose answers can be taken ends as declared, if what is made of
its answer does. -/
theorem isDeclared_send {α : Type} {s : Session} {call : Call}
    {next : Call × Response → SessionM α}
    (hcall : client.prepare method e parameter fields = .ok call) (hsound : call.IsSound)
    (hreplies : ∀ reply ∈ s.replies, reply.IsSound call.request.url)
    (hnext : ∀ r t, r.IsReadable → IsDeclared (Session.run (next (call, r)) t).1) :
    IsDeclared (Session.run (client.send method e parameter fields >>= next) s).1 := by
  have htalk := hsound.isDeclared_exchange hreplies
  refine Session.isDeclared_bind ?_ fun answered t hrun => ?_
  · rw [run_send hcall]
    exact htalk.map _
  · rw [run_send hcall] at hrun
    obtain ⟨houtcome, -⟩ := Prod.mk.inj hrun
    obtain ⟨r, hanswer, rfl⟩ := Outcome.map_eq_ok_iff.1 houtcome
    obtain ⟨-, -, -, -, hcame⟩ := call.exchange_cases s.replies
    exact hnext r t (hreplies _ (List.mem_of_mem_head? (hcame r hanswer))).2

end Client

end ClassVerification
