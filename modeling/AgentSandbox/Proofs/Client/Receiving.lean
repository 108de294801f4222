import AgentSandbox.Proofs.Client.Reading
import AgentSandbox.Proofs.Cloud.Signing

/-!
# Whole replies

A call in a step `Receives` the bytes of a reply if it began, sent its first request and the reply
came whole.  The report of the step is then what the call makes of these bytes
(`Session.Step.Receives.step_eq`).  A reply is received if the caller has all the time and does not
cancel (`Session.Step.receives_of_patient`), so in a step that is answered at once
(`Session.Step.receives_answered`).
-/

namespace AgentSandbox

namespace World

variable {c : Caller} {w : World}

/-- A wait without limits comes to its end. -/
theorem wait_of_patient (hcancelled : w.cancelled = false) (hdeadline : c.deadline = none)
    (late : Outcome) (next : World → Finish × World) : w.wait c none late next = next w := by
  unfold wait
  rw [hcancelled, hdeadline, Bool.and_false]
  rfl

theorem receive_of_patient (hcancelled : w.cancelled = false) (hdeadline : c.deadline = none)
    (status : Nat) (chunks : List Chunk) (bytes : List UInt8) :
    ∃ w', receive c none status .complete chunks (.body bytes) w =
      (.outcome (.reply status (.body (bytes ++ chunks.flatMap (·.bytes))) none), w') := by
  induction chunks generalizing bytes w with
  | nil =>
    rw [receive, wait_of_patient hcancelled hdeadline, List.flatMap_nil, List.append_nil]
    exact ⟨_, rfl⟩
  | cons chunk chunks ih =>
    have hpassed : (w.pass chunk.pause).cancelled = false := hcancelled
    rw [receive, wait_of_patient hpassed hdeadline, List.flatMap_cons, ← List.append_assoc]
    exact ih hpassed (bytes ++ chunk.bytes)

/-- An exchange without limits has the reply of the service as its outcome. -/
theorem exchange_of_patient {q : Query} (hwritable : q.request.isWritable = true)
    (hreception : ∀ status, q.reception status = .body []) (hlimit : q.limit = none)
    (hcancelled : w.cancelled = false) (hdeadline : c.deadline = none) {pause status : Nat}
    {chunks : List Chunk} {rest : List Reply}
    (hlink : w.link = .up (⟨false, pause, .answer status chunks .complete⟩ :: rest)) :
    ∃ w', w.exchange c q =
      (.outcome (.reply status (.body (chunks.flatMap (·.bytes))) none), w') := by
  have hcancelled' : (w.cancelled || false) = false := by rw [hcancelled]; rfl
  unfold exchange
  rw [if_pos hwritable, hlimit]
  simp only [Option.map_none]
  rw [wait_of_patient hcancelled hdeadline, hlink]
  simp only [nextReply]
  rw [wait_of_patient hcancelled' hdeadline]
  simp only [respond, hreception]
  exact receive_of_patient hcancelled' hdeadline status chunks []

end World

namespace Session

variable {c : Client} {connected : Bool} {s : Step} {st : State} {call : Call}

/-- The first request of the call in a step was sent, and the reply to it came whole, with a status
and a body. -/
inductive Step.Receives (c : Client) (connected : Bool) (s : Step) (st : State) (call : Call)
    (status : Nat) (body : List UInt8) : Prop where
  | intro {q : Query} {next : Outcome → Action Answer} {received : Received} {w : World}
      (command : s.command.call? = some call)
      (begun : ((s.caller c).heeds && st.cancelled) = false)
      (sends : c.backend.action call = .send q next)
      (replied : (s.world connected st).exchange (s.caller c) q =
        (.outcome (.reply status received none), w))
      (bytes : received.bytes = body) : Step.Receives c connected s st call status body

/-- What is received decides what a step reports: the call goes on with it after its first
request. -/
theorem Step.Receives.step_eq {status : Nat} {body : List UInt8}
    (h : s.Receives c connected st call status body) :
    ∃ q next received w, c.backend.action call = .send q next ∧ received.bytes = body ∧
      ((∀ status, q.reception status = .body []) → w.sent = [q.request]) ∧
      step c connected s st = reportOf call.operation (s.caller c)
        ((next (.reply status received none)).run (s.caller c) w) := by
  obtain @⟨q, next, received, w, hcall, hbegun, hsends, hreplied, hbytes⟩ := h
  refine ⟨q, next, received, w, hsends, hbytes, fun hreception => ?_, ?_⟩
  · have hsent := World.exchange_body (s.caller c) hreception (s.world connected st)
    rw [hreplied] at hsent
    rcases hsent with ⟨-, hnone⟩ | ⟨replies, -, n, hw⟩
    · exact absurd rfl (hnone status received none)
    · exact congrArg World.sent hw
  · have hbegun : ¬ ((s.caller c).heeds && st.cancelled) = true := by
      rw [hbegun]
      exact Bool.false_ne_true
    rw [step_eq_reportOf hcall, if_neg hbegun, hsends, Action.run, hreplied]

/-- A reply that comes whole is received if nothing limits the call and nobody cancels it. -/
theorem Step.receives_of_patient {q : Query} {next : Outcome → Action Answer}
    (hcall : s.command.call? = some call) (hsends : c.backend.action call = .send q next)
    (hwritable : q.request.isWritable = true) (hreception : ∀ status, q.reception status = .body [])
    (hlimit : q.limit = none) (hcancelled : st.cancelled = false)
    (hdeadline : (s.caller c).deadline = none) {pause status : Nat} {chunks : List Chunk}
    {rest : List Reply}
    (hreplies : s.replies = ⟨false, pause, .answer status chunks .complete⟩ :: rest) :
    s.Receives c true st call status (chunks.flatMap (·.bytes)) := by
  have hlink : (s.world true st).link =
      .up (⟨false, pause, .answer status chunks .complete⟩ :: rest) :=
    congrArg Link.up hreplies
  obtain ⟨w, hexchange⟩ :=
    World.exchange_of_patient hwritable hreception hlimit hcancelled hdeadline hlink
  exact .intro hcall (by rw [hcancelled, Bool.and_false]) hsends hexchange rfl

/-- The step of a call that is answered at once, by one whole reply. -/
def Step.answered (call : Call) (body : List UInt8) : Step :=
  ⟨.call call, [⟨false, 0, .whole 200 body⟩], none, none, none⟩

/-- A control plane without limits is heard whole if its request can be written. -/
theorem Step.receives_answered_of_isWritable {b : CloudBackend} {action value : String}
    {next : Outcome → Action Answer} (body : List UInt8)
    (hsends : Backend.cloudAction b call =
      .send ⟨b.request action value, none, fun _ => .body []⟩ next)
    (hwritable : (b.request action value).isWritable = true) :
    (answered call body).Receives ⟨.cloud b, none⟩ true ⟨.empty, false⟩ call 200 body := by
  have hreplies : (answered call body).replies =
      [⟨false, 0, .answer 200 [⟨0, body⟩] .complete⟩] := rfl
  have hbody : [(⟨0, body⟩ : Chunk)].flatMap (·.bytes) = body := List.flatMap_singleton _ _
  have hsends : (⟨.cloud b, none⟩ : Client).backend.action call = _ := hsends
  have hreceived : (answered call body).Receives ⟨.cloud b, none⟩ true ⟨.empty, false⟩ call 200
      ([(⟨0, body⟩ : Chunk)].flatMap (·.bytes)) :=
    receives_of_patient rfl hsends hwritable (fun _ => rfl) rfl rfl rfl hreplies
  rwa [hbody] at hreceived

/-- Whatever a control plane answers, it is sent one request to delete a tool, if nothing is limited
and requests can be written. -/
theorem sent_deleteTool {b : CloudBackend} (hlimit : b.limit = none) (husable : b.isUsable = true)
    (id : String) :
    (step ⟨.cloud b, none⟩ true (.answered (.deleteTool id) []) ⟨.empty, false⟩).1.sent =
      [b.request "DeleteSandboxTool" (Cloud.toolBody id).toText] := by
  have hreceived : (Step.answered (.deleteTool id) []).Receives ⟨.cloud b, none⟩ true
      ⟨.empty, false⟩ (.deleteTool id) 200 [] :=
    Step.receives_answered_of_isWritable [] (by rw [← hlimit]; rfl)
      (b.isWritable_request husable (by decide) _)
  obtain ⟨q, next, received, w, hsends, -, hsent, hstep⟩ := hreceived.step_eq
  cases hsends
  rw [hstep]
  dsimp only
  cases CloudBackend.recordOf "DeleteSandboxTool" Cloud.unitOfDocument?
      (.reply 200 received none) with
  | error e => exact hsent fun _ => rfl
  | ok _ => exact hsent fun _ => rfl

/-- A control plane at `http://h/`, without keys and without a limit. -/
def plain : CloudBackend :=
  ⟨⟨"", "", "r", false, none, none⟩,
    ⟨"http", some ⟨none, some (.domain ['h']), none⟩, .segments [[]], none, none⟩, "h", none,
    ⟨0, 0⟩⟩

theorem Step.receives_answered {action value : String} {next : Outcome → Action Answer}
    (body : List UInt8)
    (hsends : Backend.cloudAction plain call =
      .send ⟨plain.request action value, none, fun _ => .body []⟩ next)
    (haction : Request.isHeaderValue action = true) :
    (answered call body).Receives ⟨.cloud plain, none⟩ true ⟨.empty, false⟩ call 200 body :=
  receives_answered_of_isWritable body hsends
    (plain.isWritable_request (by decide +kernel) haction value)

end Session

end AgentSandbox
