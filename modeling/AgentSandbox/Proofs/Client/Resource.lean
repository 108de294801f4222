import AgentSandbox.Proofs.Client.Receiving
import AgentSandbox.Proofs.Client.Requests
import AgentSandbox.Proofs.Cloud.Resource

/-!
# Signed resources in a session

A request that names an action is signed for the root of its host without a query, and sent to the URL
of the configuration as it is.  The two agree if and only if that URL says no more than that
(`Session.signed_resource`); a path or a query in it is sent and not signed
(`Session.unsigned_resource`).
-/

namespace AgentSandbox.Session

open CloudBackend

/-- The resource that is signed is the one that is requested if and only if the URL of the control
plane is the root of its host; so it is if nothing is configured, or nothing behind the host. -/
theorem signed_resource {config : CloudConfig} {requestLimit : Option Nat} {now : Instant}
    {b : CloudBackend} (h : CloudBackend.make config requestLimit now = .ok b) (limit : Option Nat)
    (connected : Bool) (steps : List Step) (st : State) :
    ∃ url, Url.parse config.controlPlaneUrl = .ok url ∧
      (∀ report ∈ run ⟨.cloud b, limit⟩ connected steps st, ∀ r ∈ report.sent, r.NamesAction →
        ∃ s, SignsFor ⟨config.secretId, config.secretKey⟩ now url s r ∧
          (s.resource? = some r.url.resource ↔ url.IsRoot)) ∧
      (config.endpointUrl = none ∨ config.IsBare → url.IsRoot) := by
  obtain ⟨hparse, rfl⟩ := parse_of_make h
  refine ⟨b.url, hparse, forall_mem_run (fun s st r hr haction => ?_) steps st, ?_⟩
  · have hsent := (sent_step (c := ⟨.cloud b, limit⟩) connected b.sends_cloudAction
      b.begins_cloudAction s st).1 r hr
    obtain ⟨subject, hsigns⟩ := (hsent.isActionRequest haction).signsFor
    rw [(exists_authority_of_make h).1] at hsigns
    exact ⟨subject, hsigns, hsigns.url ▸ Signature.resource?_eq_iff subject r.url⟩
  · rintro (hnone | hbare)
    · exact isRoot_of_isBare h (CloudConfig.isBare_of_none hnone)
    · exact isRoot_of_isBare h hbare

/-- The usual control plane is asked for the resource that is signed. -/
theorem signed_resource_usual :
    let config : CloudConfig := ⟨"id", "key", "r", false, none, none⟩
    ∃ b, CloudBackend.make config none ⟨0, 0⟩ = .ok b ∧
      ∀ report ∈ run ⟨.cloud b, none⟩ true [.answered (.deleteTool "t") []] ⟨.empty, false⟩,
        ∀ r ∈ report.sent, r.NamesAction →
          ∃ s, SignsFor ⟨"id", "key"⟩ ⟨0, 0⟩ b.url s r ∧ s.resource? = some r.url.resource := by
  intro config
  have hmade : (CloudBackend.make config none ⟨0, 0⟩).toOption.isSome = true := by decide +kernel
  obtain ⟨b, hmade⟩ := Option.isSome_iff_exists.1 hmade
  have hmake := toOption_eq_some_iff.1 hmade
  obtain ⟨url, hparse, hsigned, hroot⟩ :=
    signed_resource hmake none true [.answered (.deleteTool "t") []] ⟨.empty, false⟩
  obtain rfl := Except.ok.inj (hparse.symm.trans (parse_of_make hmake).1)
  refine ⟨b, hmake, fun report hreport r hr haction => ?_⟩
  obtain ⟨s, hsigns, hiff⟩ := hsigned report hreport r hr haction
  exact ⟨s, hsigns, hiff.2 (hroot (.inl rfl))⟩

/-- A path and a query in the URL of the control plane are requested and not signed. -/
theorem unsigned_resource :
    let config : CloudConfig := ⟨"id", "key", "r", false, some "http://h/api?v=1", none⟩
    let deletion : Step := .answered (.deleteTool "t") []
    ∃ b, CloudBackend.make config none ⟨0, 0⟩ = .ok b ∧
      ∃ r, (step ⟨.cloud b, none⟩ true deletion ⟨.empty, false⟩).1.sent = [r] ∧
        r.url.resource = ("/api".toList, "v=1".toList) ∧
        ∃ s, SignsFor ⟨"id", "key"⟩ ⟨0, 0⟩ b.url s r ∧ s.resource? = some ("/".toList, []) := by
  intro config deletion
  have hmade : (CloudBackend.make config none ⟨0, 0⟩).toOption.map (fun b =>
      (b.url.resource, b.limit, b.isUsable)) = some (("/api".toList, "v=1".toList), none, true) := by
    decide +kernel
  obtain ⟨b, hmake, hparts⟩ := map_toOption_eq_some_iff.1 hmade
  simp only [Prod.mk.injEq] at hparts
  obtain ⟨hresource, hlimit, husable⟩ := hparts
  refine ⟨b, hmake, _, sent_deleteTool hlimit husable "t", hresource, ?_⟩
  obtain ⟨s, hsigns⟩ := IsActionRequest.signsFor ⟨_, _, rfl⟩
  rw [(exists_authority_of_make hmake).1, (parse_of_make hmake).2] at hsigns
  exact ⟨s, hsigns, Signature.resource?_eq s⟩

end AgentSandbox.Session
