import AgentSandbox.Proofs.Client.Receiving
import AgentSandbox.Proofs.Client.Requests
import AgentSandbox.Proofs.Cloud.Resource
import AgentSandbox.Proofs.Url.User

/-!
# Signatures in a session

What is signed is what is sent: in a session with a control plane every request that names an action
has the authorization that is expected of its headers and its body, on the day of the time that it
gives, and no answer comes without such a request (`Session.signed_run`).  It is the only
authorization if and only if the URL of the control plane names no user; the one of a user comes in
front of it (`Session.signed_behind_user`).
-/

namespace AgentSandbox.Session

open CloudBackend

/-- Every request that a session with a control plane sends is signed for what it is, and every
answer comes after a request that names an action.  The signed authorization stands alone if and
only if the URL of the control plane names no user, as is the case without an at sign in its text.
-/
theorem signed_run {config : CloudConfig} {requestLimit : Option Nat} {now : Instant}
    {b : CloudBackend} (h : CloudBackend.make config requestLimit now = .ok b) (limit : Option Nat)
    (connected : Bool) (steps : List Step) (st : State) :
    (∀ report ∈ run ⟨.cloud b, limit⟩ connected steps st,
      (∀ r ∈ report.sent, r.IsAuthentic ⟨config.secretId, config.secretKey⟩ ∧
        (r.NamesAction → (r.IsSigned ⟨config.secretId, config.secretKey⟩ [] ↔
          b.url.userAuthorization? = none))) ∧
        ∀ answer, report.result = .answer answer →
          ∃ r rest, report.sent = r :: rest ∧ r.NamesAction) ∧
      ('@' ∉ config.controlPlaneUrl.toList → b.url.userAuthorization? = none) := by
  refine ⟨forall_mem_run (fun s st => ?_) steps st,
    fun hat => Url.userAuthorization?_of_parse hat (parse_of_make h).1⟩
  obtain ⟨hsent, hfirst⟩ :=
    sent_step (c := ⟨.cloud b, limit⟩) connected b.sends_cloudAction b.begins_cloudAction s st
  refine ⟨fun r hr => ?_, fun answer hanswer => ?_⟩
  · have hauthentic := (hsent r hr).isAuthentic h
    refine ⟨hauthentic, fun haction => ?_⟩
    obtain ⟨name, body, rfl⟩ := (hsent r hr).isActionRequest haction
    exact (hauthentic.signed haction).nil_iff.trans Option.toList_eq_nil_iff
  · obtain ⟨r, rest, hr, haction⟩ := hfirst answer hanswer
    exact ⟨r, rest, hr, b.namesAction_of_isActionRequest haction⟩

/-- A control plane at an address with a port of its own, in the last second of a day. -/
theorem signed_run_address :
    let config : CloudConfig := ⟨"id", "key", "r", false, some "https://[::1]:8443/", none⟩
    let now : Instant := ⟨86399, 0⟩
    let deletion : Step := ⟨.call (.deleteTool "t"), [⟨false, 0, .whole 200 []⟩], none, none, none⟩
    ∃ b, CloudBackend.make config none now = .ok b ∧ b.host = "[::1]:8443" ∧
      now.date = ⟨1970, 1, 1⟩ ∧
      ∀ report ∈ run ⟨.cloud b, none⟩ true [deletion] ⟨.empty, false⟩,
        (∀ r ∈ report.sent, r.IsAuthentic ⟨"id", "key"⟩ ∧
          (r.NamesAction → r.IsSigned ⟨"id", "key"⟩ [])) ∧
          ∀ answer, report.result = .answer answer →
            ∃ r rest, report.sent = r :: rest ∧ r.NamesAction := by
  intro config now deletion
  have hhost : (CloudBackend.make config none now).toOption.map (·.host) = some "[::1]:8443" := by
    decide +kernel
  obtain ⟨b, hmake, hhost⟩ := map_toOption_eq_some_iff.1 hhost
  obtain ⟨hrun, huser⟩ := signed_run hmake none true [deletion] ⟨.empty, false⟩
  refine ⟨b, hmake, hhost, by decide, fun report hreport => ?_⟩
  obtain ⟨hsent, hanswer⟩ := hrun report hreport
  refine ⟨fun r hr => ⟨(hsent r hr).1, fun haction => ?_⟩, hanswer⟩
  exact ((hsent r hr).2 haction).2 (huser (by decide))

/-- A user in the URL of the control plane is authorized in front of the signature, so that what is
expected of the request is not its authorization, but the second of two. -/
theorem signed_behind_user :
    let config : CloudConfig := ⟨"id", "key", "r", false, some "http://u:p@h/", none⟩
    let deletion : Step := .answered (.deleteTool "t") []
    ∃ b, CloudBackend.make config none ⟨0, 0⟩ = .ok b ∧
      ∃ r, (step ⟨.cloud b, none⟩ true deletion ⟨.empty, false⟩).1.sent = [r] ∧ r.NamesAction ∧
        r.IsSigned ⟨"id", "key"⟩ ["Basic dTpw"] ∧ ¬ r.IsSigned ⟨"id", "key"⟩ [] := by
  intro config deletion
  have hmade : (CloudBackend.make config none ⟨0, 0⟩).toOption.map (fun b =>
      (b.url.userAuthorization?, b.limit, b.isUsable)) = some (some "Basic dTpw", none, true) := by
    decide +kernel
  obtain ⟨b, hmake, hparts⟩ := map_toOption_eq_some_iff.1 hmade
  simp only [Prod.mk.injEq] at hparts
  obtain ⟨huser, hlimit, husable⟩ := hparts
  have hsigned := b.isSigned_request "DeleteSandboxTool" (Cloud.toolBody "t").toText
  rw [huser, (exists_authority_of_make hmake).1] at hsigned
  refine ⟨b, hmake, _, sent_deleteTool hlimit husable "t", rfl, hsigned, fun halone => ?_⟩
  exact List.cons_ne_nil _ _ (hsigned.nil_iff.1 halone)

end AgentSandbox.Session
