import AgentSandbox.Proofs.Client.Listening
import AgentSandbox.Proofs.Client.Requests
import AgentSandbox.Proofs.Execution.Address

/-!
# The hosts that code is sent to

A step that runs code in an instance sends it to a host in the region of the domain of the backend,
under which nothing but the first labels depends on the id (`Session.delivered_execution`).  That does
not hold of an id that ends the host or names a user in front of it
(`Session.misdelivered_execution`).
-/

namespace AgentSandbox

open Execution

/-- The instance that a call runs code in. -/
def Call.runsIn? : Call → Option String
  | .execute id _ _ => some id
  | .executeStream id _ _ _ => some id
  | _ => none

namespace Backend

/-- The region in whose domain the instances are found. -/
def region : Backend → String
  | .e2b b => b.config.region
  | .cloud b => b.config.region

/-- The domain below which the instances of all regions are found. -/
def domain : Backend → String
  | .e2b b => b.config.domain
  | .cloud b => b.config.dataPlaneDomain

/-- The execution service that is used in the place of those of the instances. -/
def executeUrl? : Backend → Option String
  | .e2b b => b.config.executeUrl
  | .cloud b => b.config.executeUrl

/-- The request is the one for a token of an instance. -/
def AsksForToken (id : String) (r : Request) : Backend → Prop
  | .e2b _ => False
  | .cloud b => r = b.tokenRequest id

variable {b : Backend} {id : String}

theorem executionBase_eq (h : b.executeUrl? = none) (id : String) :
    b.executionBase id = serviceUrl executionPort id b.region b.domain := by
  cases b with
  | e2b b =>
    have hnone : b.config.executeUrl = none := h
    rw [executionBase, E2bBackend.executionBase, hnone]
    rfl
  | cloud b =>
    have hnone : b.config.executeUrl = none := h
    rw [executionBase, CloudBackend.executionBase, hnone]
    rfl

theorem sends_accessToken (b : Backend) (id : String) :
    (b.accessToken id).Sends fun r => b.AsksForToken id r := by
  cases b with
  | e2b b => exact .token _ fun t => .done _
  | cloud b =>
    have hacquire : (b.acquireToken id).Sends fun r => r = b.tokenRequest id := by
      rw [CloudBackend.acquireToken_eq]
      exact .send rfl fun o => .done _
    exact hacquire.map some

theorem sends_url (base : String) (token : Option String) (code language : String)
    (l : Listeners) :
    (Execution.execute base token code language l).Sends fun r =>
      Url.parse (executeUrl base) = .ok r.url := by
  unfold Execution.execute
  split
  · exact .done _
  · next url hurl => exact .send hurl fun _ => .done _

/-- To run code, a token may be asked for, and everything else is sent to the execution service. -/
theorem sends_execute (b : Backend) (id code language : String) (l : Listeners) :
    (b.execute id code language l).Sends fun r =>
      b.AsksForToken id r ∨ Url.parse (executeUrl (b.executionBase id)) = .ok r.url := by
  rw [execute_eq]
  exact ((b.sends_accessToken id).mono fun _ => .inl).bind fun token =>
    (sends_url _ token code language l).mono fun _ => .inr

theorem sends_action {call : Call} (hcall : call.runsIn? = some id) (b : Backend) :
    (b.action call).Sends fun r =>
      b.AsksForToken id r ∨ Url.parse (executeUrl (b.executionBase id)) = .ok r.url := by
  cases call with
  | execute id' code language =>
    obtain rfl := Option.some.inj hcall
    rw [action_execute]
    exact (b.sends_execute id' code language .none).map _
  | executeStream id' code language l =>
    obtain rfl := Option.some.inj hcall
    rw [action_executeStream]
    exact (b.sends_execute id' code language l).map _
  | _ => cases hcall

end Backend

namespace Session

/-- A step that runs code in an instance sends it to a host in the region of the domain, if it sends it
at all, unless the id names a user or holds what ends a host: then it sends it to the host that the id
names in front of that. -/
theorem delivered_execution {c : Client} {s : Step} {call : Call} {id : String}
    (hcall : s.command.call? = some call) (hruns : call.runsIn? = some id)
    (hown : c.backend.executeUrl? = none) (hregion : IsPlainName c.backend.region)
    (hdomain : IsPlainName c.backend.domain) (connected : Bool) (st : State) :
    ∀ r ∈ (step c connected s st).1.sent,
      c.backend.AsksForToken id r ∨
        (IsHostText id → IsServiceOf id c.backend.region c.backend.domain r.url) ∧
          IsNamedBy id r.url := by
  intro r hr
  refine (forall_mem_sent hcall (Backend.sends_action hruns c.backend) connected st r hr).imp_right
    fun hurl => ?_
  rw [Backend.executionBase_eq hown] at hurl
  exact ⟨fun hid => isServiceOf_of_parse hid hregion hdomain hurl, isNamedBy_of_parse hurl⟩

/-- The backend whose instances are in a region of a domain. -/
def backendIn (region domain : String) : E2bBackend :=
  ⟨{ E2bConfig.default with region := region, domain := domain }, none, ⟨0, 0⟩⟩

/-- Runs code in an instance. -/
def running (id : String) : Step :=
  ⟨.call (.execute id "1" ""), [⟨false, 0, .whole 200 []⟩], none, none, none⟩

/-- The requests that arrive when code is run in an instance whose token is known, the instances being
in a region of a domain. -/
def execution (region domain id : String) : List Request :=
  (step ⟨.e2b (backendIn region domain), none⟩ true (running id)
    ⟨Dictionary.empty.insert id "t", false⟩).1.sent

/-- Where a request goes, and the token that it carries there. -/
def delivery (r : Request) : String × Option String :=
  (r.url.target, r.headers.lookup "x-access-token")

/-- An id in capital letters with an escape. -/
theorem delivered_execution_escaped :
    (execution "ap" "example.com" "Box%2D7").map delivery =
        [("https://49999-box-7.ap.example.com/execute", some "t")] ∧
      ∀ r ∈ execution "ap" "example.com" "Box%2D7",
        IsServiceOf "Box%2D7" "ap" "example.com" r.url := by
  refine ⟨by decide +kernel, fun r hr => ?_⟩
  have h := delivered_execution (c := ⟨.e2b (backendIn "ap" "example.com"), none⟩)
    (s := running "Box%2D7") rfl rfl rfl (by decide) (by decide) true
    ⟨Dictionary.empty.insert "Box%2D7" "t", false⟩ r hr
  exact (h.resolve_left id).1 (by decide)

/-- Ids that take the code and the token to another host: one ends the host, and one names a user.  The
control plane finds the same host for the first one. -/
theorem misdelivered_execution :
    (execution "ap" "example.com" "x.evil.invalid/").map delivery =
        [("https://49999-x.evil.invalid/.ap.example.com/execute", some "t")] ∧
      (execution "ap" "example.com" "x.evil.invalid?").map delivery =
        [("https://49999-x.evil.invalid/?.ap.example.com/execute", some "t")] ∧
      (execution "ap" "example.com" "u@box").map delivery =
        [("https://box.ap.example.com/execute", some "t")] ∧
      let b : CloudBackend := ⟨{ CloudConfig.default with region := "ap" },
        ⟨"http", some ⟨none, some (.domain ['h']), none⟩, .segments [[]], none, none⟩, "h", none,
        ⟨0, 0⟩⟩
      (Url.parse (executeUrl (b.executionBase "x.evil.invalid/"))).toOption.map Url.target =
        some "https://49999-x.evil.invalid/.ap.tencentags.com/execute" := by
  refine ⟨?_, ?_, ?_, ?_⟩ <;> decide +kernel

end Session

end AgentSandbox
