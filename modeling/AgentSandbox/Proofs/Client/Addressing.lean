import AgentSandbox.Proofs.Client.Requests
import AgentSandbox.Proofs.E2b.Addresses

/-!
# What a session deletes

A step that deletes an instance sends its request to the address of the id and nothing else
(`Session.addressed_deletion`): an id is one segment below all sandboxes, unless it is read as a full
stop or two, and ids that differ in nothing but tabs and line breaks have one address
(`Session.misaddressed_deletion`).
-/

namespace AgentSandbox.Session

open Url E2bBackend

/-- Every id has an address below that of the service, to which alone its deletion is sent. -/
theorem addressed_deletion {b : E2bBackend} {u : Url}
    (hparse : Url.parse b.config.apiBaseUrl = .ok u) (hsegments : u.hasSegments = true)
    (limit : Option Nat) (connected : Bool) :
    ∃ address : String → Url,
      (∀ id, address id = { u with path := (address id).path } ∧
        Leads u.path.stem id (address id).path.text) ∧
      (∀ id id', held id ≠ "." → held id ≠ ".." → held id' ≠ "." → held id' ≠ ".." →
        (address id = address id' ↔ held id = held id')) ∧
      ∀ (s : Step) (st : State) (id : String), s.command.call? = some (.deleteInstance id) →
        let report := (step ⟨.e2b b, limit⟩ connected s st).1
        (∀ r ∈ report.sent, r.method = .delete ∧ r.url = address id) ∧
          ∀ answer, report.result = .answer answer → report.sent ≠ [] := by
  have hplain := isPlain_of_parse hparse
  refine ⟨E2bBackend.address u, fun id => ⟨address_eq u id, leads_address hplain hsegments id⟩,
    fun id id' => address_inj hplain hsegments, fun s st id hcall => ?_⟩
  obtain ⟨hsent, hfirst⟩ := sent_step_of_call (c := ⟨.e2b b, limit⟩) hcall
    ((sends_deleteInstance hparse hsegments id).map _)
    ((begins_deleteInstance hparse hsegments id).map _) connected st
  refine ⟨hsent, fun answer hanswer => ?_⟩
  obtain ⟨r, rest, hr, -⟩ := hfirst answer hanswer
  exact hr ▸ List.cons_ne_nil r rest

/-- The backend whose service has some URL. -/
def backendAt (url : String) : E2bBackend :=
  ⟨{ E2bConfig.default with apiUrl := some url }, none, ⟨0, 0⟩⟩

/-- The requests that arrive when an instance of a service is deleted. -/
def deletion (url id : String) : List Request :=
  (step ⟨.e2b (backendAt url), none⟩ true
    ⟨.call (.deleteInstance id), [⟨false, 0, .whole 204 []⟩], none, none, none⟩ ⟨.empty, false⟩).1.sent

/-- An id with a solidus is a segment, and the query of the service stays. -/
theorem addressed_deletion_solidus :
    (deletion "http://h/v1/?k=1" "a/b").length = 1 ∧
      ∀ r ∈ deletion "http://h/v1/?k=1" "a/b", r.method = .delete ∧ r.url.query = some "k=1".toList ∧
        ∃ segment, r.url.path.text = "/v1".toList ++ "/sandboxes/".toList ++ segment ∧
          IsSegment segment ∧ unescape segment = Utf8.encode "a/b" := by
  refine ⟨by decide +kernel, fun r hr => ?_⟩
  have hbase : (Url.parse (backendAt "http://h/v1/?k=1").config.apiBaseUrl).toOption.map
      (fun u => (u.hasSegments, u.path.stem, u.query)) =
        some (true, "/v1".toList, some "k=1".toList) := by
    decide +kernel
  obtain ⟨u, hparse, hparts⟩ := map_toOption_eq_some_iff.1 hbase
  simp only [Prod.mk.injEq] at hparts
  obtain ⟨hsegments, hstem, hquery⟩ := hparts
  obtain ⟨address, hleads, -, hsent⟩ := addressed_deletion hparse hsegments none true
  rw [hstem] at hleads
  obtain ⟨hsame, hpath⟩ := hleads "a/b"
  obtain ⟨hmethod, hurl⟩ := (hsent _ _ "a/b" rfl).1 r hr
  refine ⟨hmethod, ?_, ?_⟩
  · rw [hurl, hsame]
    exact hquery
  · rw [hurl]
    exact hpath.segment (by decide) (by decide)

/-- Ids that lead to all sandboxes, out of them and to the sandbox with another id. -/
theorem misaddressed_deletion :
    (deletion "http://h/v1" ".").map (·.url.target) = ["http://h/v1/sandboxes"] ∧
      (deletion "http://h/v1" "..\t").map (·.url.target) = ["http://h/v1/"] ∧
      deletion "http://h/v1" "a\tb" = deletion "http://h/v1" "ab" ∧
      (deletion "http://h/v1" "ab").map (·.url.target) = ["http://h/v1/sandboxes/ab"] := by
  refine ⟨?_, ?_, ?_, ?_⟩ <;> decide +kernel

end AgentSandbox.Session
