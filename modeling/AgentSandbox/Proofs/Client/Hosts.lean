import AgentSandbox.Proofs.Client.Executing
import AgentSandbox.Proofs.Endpoint

/-!
# The hosts of services

A backend gives every service of its instances a host in its region, so that no two services share
one, be it for the execution of code or for a browser, and whatever the ids of the instances are
(`Session.identified_services`).  The URLs that come back from a call for a browser are those of its
host (`Session.exists_token_of_browser`), and so are not shared either.
-/

namespace AgentSandbox

namespace Backend

theorem instanceHost_eq (b : Backend) (port : Nat) (id : String) :
    b.instanceHost port id = serviceHost port id b.region b.domain := by
  cases b <;> rfl

/-- Code is run by the service on one port of the host of the instance. -/
theorem executionBase_eq_instanceHost {b : Backend} (h : b.executeUrl? = none) (id : String) :
    b.executionBase id = "https://" ++ b.instanceHost executionPort id := by
  rw [executionBase_eq h, serviceUrl, instanceHost_eq]

theorem instanceHost_inj {b : Backend} {port port' : Nat} {id id' : String} :
    b.instanceHost port id = b.instanceHost port' id' ↔ port = port' ∧ id = id' := by
  rw [instanceHost_eq, instanceHost_eq, serviceHost_inj]

theorem action_browserUrls (b : Backend) (id : String) (port : Nat) :
    b.action (.browserUrls id port) = Answer.browser <$> b.browserUrls id port := by
  cases b <;> rfl

theorem yields_browserUrls (b : Backend) (id : String) (port : Nat) :
    (b.action (.browserUrls id port)).Yields fun answer =>
      ∃ token, answer = .browser (AgentSandbox.browserUrls (b.instanceHost port id) token) := by
  have hurls : (b.browserUrls id port).Yields fun urls =>
      ∃ token, urls = AgentSandbox.browserUrls (b.instanceHost port id) token := by
    refine (Action.yields_any _).bind fun token _ => ?_
    cases token with
    | some token => exact .ok ⟨token, rfl⟩
    | none => exact .fail _
  rw [action_browserUrls]
  exact hurls.map fun _ ⟨token, h⟩ => ⟨token, congrArg Answer.browser h⟩

end Backend

namespace Session

theorem exists_token_of_browser {c : Client} {connected : Bool} {s : Step} {st : State}
    {id : String} {port : Nat} (hcall : s.command.call? = some (.browserUrls id port))
    {urls : BrowserUrls} (h : (step c connected s st).1.result = .answer (.browser urls)) :
    ∃ token, urls = browserUrls (c.backend.instanceHost port id) token := by
  obtain ⟨token, hurls⟩ := allowed_of_answer hcall (c.backend.yields_browserUrls id port) h
  exact ⟨token, Answer.browser.inj hurls⟩

/-- In every region of every domain, two services have the same host, or the same URL, only if they
are on the same port of the same instance.  So it is with the hosts that a backend gives its
services, of which the one on the port for executions runs the code; and two calls for browsers come
back with the same URLs only if they name the same port of the same instance, whatever the tokens in
them are. -/
theorem identified_services (c : Client) (port port' : Nat) (id id' : String) :
    (∀ region domain,
      (serviceHost port id region domain = serviceHost port' id' region domain ↔
        port = port' ∧ id = id') ∧
      (serviceUrl port id region domain = serviceUrl port' id' region domain ↔
        port = port' ∧ id = id')) ∧
    (c.backend.instanceHost port id = c.backend.instanceHost port' id' ↔
      port = port' ∧ id = id') ∧
    (c.backend.executeUrl? = none →
      (c.backend.executionBase id = "https://" ++ c.backend.instanceHost port' id' ↔
        executionPort = port' ∧ id = id')) ∧
    ∀ (connected : Bool) (s s' : Step) (st st' : State) (urls : BrowserUrls),
      s.command.call? = some (.browserUrls id port) →
      s'.command.call? = some (.browserUrls id' port') →
      (step c connected s st).1.result = .answer (.browser urls) →
      (step c connected s' st').1.result = .answer (.browser urls) →
      port = port' ∧ id = id' := by
  refine ⟨fun region domain => ⟨serviceHost_inj, serviceUrl_inj⟩, Backend.instanceHost_inj,
    fun hown => ?_, ?_⟩
  · rw [Backend.executionBase_eq_instanceHost hown, String.append_right_inj,
      Backend.instanceHost_inj]
  · intro connected s s' st st' urls hcall hcall' hresult hresult'
    obtain ⟨token, rfl⟩ := exists_token_of_browser hcall hresult
    obtain ⟨token', hurls⟩ := exists_token_of_browser hcall' hresult'
    exact Backend.instanceHost_inj.1 (browserUrls_inj hurls).1

/-- Two ids and two ports whose digits run on alike, where one token opens both browsers; and the
host that runs the code of the first instance. -/
theorem identified_services_alike :
    let c : Client := ⟨.e2b (backendIn "ap" "example.com"), none⟩
    let st : State := ⟨(Dictionary.empty.insert "9-a" "t").insert "a" "t", false⟩
    let asking (id : String) (port : Nat) : Step :=
      ⟨.call (.browserUrls id port), [], none, none, none⟩
    let urls : BrowserUrls := browserUrls "499-a.ap.example.com" "t"
    let urls' : BrowserUrls := browserUrls "49-9-a.ap.example.com" "t"
    (step c true (asking "a" 499) st).1.result = .answer (.browser urls) ∧
      (step c true (asking "9-a" 49) st).1.result = .answer (.browser urls') ∧ urls ≠ urls' ∧
      c.backend.executionBase "a" ≠ "https://" ++ c.backend.instanceHost 49 "9-a" := by
  intro c st asking urls urls'
  have hresult : (step c true (asking "a" 499) st).1.result = .answer (.browser urls) := by rfl
  have hresult' : (step c true (asking "9-a" 49) st).1.result = .answer (.browser urls') := by rfl
  obtain ⟨-, -, hexecution, hbrowsers⟩ := identified_services c 499 49 "a" "9-a"
  refine ⟨hresult, hresult', fun hsame => ?_, fun hbase => ?_⟩
  · rw [← hsame] at hresult'
    obtain ⟨hport, -⟩ := hbrowsers true _ _ st st urls rfl rfl hresult hresult'
    exact absurd hport (by decide)
  · obtain ⟨hport, -⟩ := (hexecution rfl).1 hbase
    exact absurd hport (by decide)

end Session

end AgentSandbox
