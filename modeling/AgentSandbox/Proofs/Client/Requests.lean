import AgentSandbox.Proofs.Client.Session
import AgentSandbox.Proofs.Exchange.Requests

/-!
# Requests in a session

What holds of the report of every step holds of every report of a session (`Session.forall_mem_run`).
A step sends what its call may send (`Session.forall_mem_sent`), and has no answer without the request
with which its call begins (`Session.sent_step_of_call`).
-/

namespace AgentSandbox.Session

variable {c : Client} {connected : Bool}

/-- What every step reports is reported in every session. -/
theorem forall_mem_run {P : Report → Prop} (h : ∀ s st, P (step c connected s st).1)
    (steps : List Step) (st : State) : ∀ r ∈ run c connected steps st, P r := by
  induction steps generalizing st with
  | nil => exact fun r hr => absurd hr List.not_mem_nil
  | cons s ss ih =>
    intro r hr
    rcases List.mem_cons.1 hr with rfl | hr
    · exact h s st
    · exact ih _ r hr

/-- What a call in a step may send is all that is sent. -/
theorem forall_mem_sent {allowed : Request → Prop} {s : Step} {call : Call}
    (hcall : s.command.call? = some call) (hsends : (c.backend.action call).Sends allowed)
    (connected : Bool) (st : State) : ∀ r ∈ (step c connected s st).1.sent, allowed r := by
  have hnone : ∀ r ∈ ([] : List Request), allowed r := fun r hr => absurd hr List.not_mem_nil
  rw [step_of_call? hcall]
  rcases s.perform_cases c connected (s.caller c) call st with ⟨-, -, h⟩ | ⟨ending, w, hrun, h⟩
  · rw [h]
    exact hnone
  · have hsent := hsends.sent_run (c := s.caller c) (w := s.world connected st) hnone
    rw [hrun] at hsent
    rw [h]
    exact hsent

/-- What comes back from a call in a step is one of the results that the call may have. -/
theorem allowed_of_answer {allowed : Answer → Prop} {s : Step} {call : Call}
    (hcall : s.command.call? = some call) (hyields : (c.backend.action call).Yields allowed)
    {st : State} {answer : Answer} (h : (step c connected s st).1.result = .answer answer) :
    allowed answer := by
  rw [step_of_call? hcall] at h
  rcases s.perform_cases c connected (s.caller c) call st with
    ⟨-, -, hcancelled⟩ | ⟨ending, w, hrun, hreport⟩
  · rw [hcancelled] at h
    cases h
  · rw [hreport] at h
    have hok : ((c.backend.action call).run (s.caller c) (s.world connected st)).1.ok? =
        some answer := by
      rw [hrun]
      exact Result.ok?_of_answer h
    exact hyields.ok?_run hok

/-- What a call in a step may send is all that is sent, and there is no answer without the request
with which the call begins. -/
theorem sent_step_of_call {allowed first : Request → Prop} {s : Step} {call : Call}
    (hcall : s.command.call? = some call) (hsends : (c.backend.action call).Sends allowed)
    (hbegins : (c.backend.action call).Begins first) (connected : Bool) (st : State) :
    (∀ r ∈ (step c connected s st).1.sent, allowed r) ∧
      ∀ answer, (step c connected s st).1.result = .answer answer →
        ∃ r rest, (step c connected s st).1.sent = r :: rest ∧ first r := by
  refine ⟨forall_mem_sent hcall hsends connected st, ?_⟩
  rw [step_of_call? hcall]
  rcases s.perform_cases c connected (s.caller c) call st with ⟨-, -, h⟩ | ⟨ending, w, hrun, h⟩
  · rw [h]
    exact fun answer => nofun
  · rw [h]
    intro answer hanswer
    have hfirst :=
      hbegins.sent_run (c := s.caller c) (w := s.world connected st) (x := answer)
    rw [hrun] at hfirst
    exact hfirst (Result.ok?_of_answer hanswer)

/-- The same of all steps, if every call may only send what is allowed. -/
theorem sent_step (connected : Bool) {allowed first : Request → Prop}
    (hsends : ∀ call, (c.backend.action call).Sends allowed)
    (hbegins : ∀ call, (c.backend.action call).Begins first) (s : Step) (st : State) :
    (∀ r ∈ (step c connected s st).1.sent, allowed r) ∧
      ∀ answer, (step c connected s st).1.result = .answer answer →
        ∃ r rest, (step c connected s st).1.sent = r :: rest ∧ first r := by
  cases hcall : s.command.call? with
  | none =>
    obtain ⟨hsent, hresult⟩ := step_of_not_call c connected hcall st
    rw [hsent]
    exact ⟨fun r hr => absurd hr List.not_mem_nil, fun answer h => absurd h (hresult answer)⟩
  | some call => exact sent_step_of_call hcall (hsends call) (hbegins call) connected st

end AgentSandbox.Session
