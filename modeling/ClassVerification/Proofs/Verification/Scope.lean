import ClassVerification.Proofs.Members
import ClassVerification.Proofs.Verification.Keyed

/-! The fields that a verification binds in the log: they are in each of its events, and they are
gone when it has ended, together with what was bound under their names before. -/
namespace ClassVerification

/-- An event has a field as it sets it itself, or else as it is bound. -/
theorem LogEvent.get?_inContext (context : Members Json) (e : LogEvent) (name : Text) :
    (e.inContext context).fields.get? name = (e.fields.get? name).or (context.get? name) := by
  rw [inContext, Members.get?_append, Members.get?_filter fun k => !e.fields.has k]
  cases h : e.fields.get? name <;> simp [Members.has, h]

namespace Verification

open SessionM

/-- The fields of a verification are bound to its own values, whatever was bound before. -/
theorem get?_bound (v : Verification) (context : Members Json) {field : Text × Json}
    (h : field ∈ v.scope) :
    (Members.putAll context v.scope).get? field.1 = some field.2 := by
  have hne : Text.ofString "network" ≠ Text.ofString "class_hash" := by decide
  rcases List.mem_pair.1 h with rfl | rfl
  · exact (Members.get?_put_of_ne hne _ _).trans (Members.get?_put_self _ _ _)
  · exact Members.get?_put_self _ _ _

theorem scope_names {v : Verification} : ∀ field ∈ v.scope, field.1 ∈ scopeNames := by
  simp [scope, scopeNames]

/-- A verification ends alike and does alike whatever is bound in the log. Each event of it, from
whichever layer it comes, has the network and the class hash of the verification in it, unless it
sets them itself. After the verification all is bound that was bound before it, but for what was
bound under these two names: the binding is as before if and only if neither name was bound. -/
theorem binding_is_kept_iff_names_are_free (v : Verification) (settings : Settings) (s : Session)
    (hcompiler : ∀ c, v.compiler = some c → c.IsLocal) :
    ∃ (outcome : Except Error JobRecord) (t : Session) (deeds : List Action),
      ∀ context actions, ∃ after,
        Session.run (v.run settings) { s with context, actions } = (outcome, after) ∧
          after = { t with
            context := Members.dropKeys scopeNames context
            actions := actions ++
              deeds.map (Action.inContext (Members.putAll context v.scope)) } ∧
          (∀ e, .logged e ∈ deeds → ∀ field ∈ v.scope,
            (e.inContext (Members.putAll context v.scope)).fields.get? field.1 =
              some ((e.fields.get? field.1).getD field.2)) ∧
          (after.context = context ↔ ∀ name ∈ scopeNames, context.has name = false) := by
  obtain ⟨outcome, t, deeds, hstages⟩ :
      ∃ outcome t deeds, Does (v.stages settings) s outcome t deeds :=
    (isBlind_stages v settings hcompiler).exists_does s
  refine ⟨outcome, t, deeds, fun context actions =>
    ⟨_, ?_, rfl, fun e _ field hfield => ?_, Members.dropKeys_eq_self_iff⟩⟩
  · rw [← Members.dropKeys_putAll scope_names context]
    exact run_of_does hstages context actions
  · rw [LogEvent.get?_inContext, get?_bound v context hfield]
    cases e.fields.get? field.1 <;> rfl

/-- What a caller may have bound under another name. -/
def callerFields : Members Json := [("request_id", .text "r1")]

/-- The sample, which is built and sent, leaves what is bound under other names. -/
theorem built_sample_keeps_other_names :
    (∀ c, builtVerification.compiler = some c → c.IsLocal) ∧
      ∃ outcome after, Session.run (builtVerification.run {})
          { builtSession with context := callerFields } = (outcome, after) ∧
        after.context = callerFields := by
  have hcompiler := isLocal_of_compiler_builtVerification
  obtain ⟨outcome, t, deeds, hruns⟩ :=
    binding_is_kept_iff_names_are_free builtVerification {} builtSession hcompiler
  obtain ⟨after, hrun, -, -, hkept⟩ := hruns callerFields []
  exact ⟨hcompiler, outcome, after, hrun, hkept.2 (by decide)⟩

/-- A verification that has nowhere to be sent: the network has no address. -/
def strandedVerification : Verification where
  network := "custom"
  classHash := "0x1"
  submission := ⟨"MIT", "Hello", ⟨"2.8.4", "2.8.4", ".", "lib.cairo"⟩, []⟩

/-- A caller that has bound a network of its own. -/
def callerSession : Session where
  context := ("network", .text "outer") :: callerFields

/-- The network that the caller has bound is lost. -/
theorem network_of_caller_is_lost :
    ∃ e after, Session.run (strandedVerification.run {}) callerSession = (.error e, after) ∧
      after.context = callerFields ∧ after.context ≠ callerSession.context := by
  refine ⟨_, _, rfl, rfl, fun h => ?_⟩
  cases congrArg List.length h

end Verification

end ClassVerification
