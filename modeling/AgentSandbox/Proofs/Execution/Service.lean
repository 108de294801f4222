import AgentSandbox.Execution.Service
import AgentSandbox.Proofs.Exchange.Action

/-!
# Requests to the execution service

Running code has no errors but those of the exchange with the service (`faults_execute`).  It sends
at most one request, whose token is the one given, and there is output only if it was sent
(`sent_submission`).
-/

namespace AgentSandbox.Execution

/-- The request that has some code run, opened by a token. -/
def executionRequest (url : Url) (token code language : String) : Request where
  method := .post
  url := url
  headers := [("content-type", Signature.contentType), ("x-access-token", token)]
  body := (requestBody code language).toText

/-- An error of running code. -/
inductive IsServiceFault : Error → Prop where
  | lost (f : TransportFault) : IsServiceFault (.inContext serviceContext (.transport f))
  | refused (status : Nat) (body : String) : IsServiceFault (.api serviceContext status body)
  | interrupted (output : Output) :
      IsServiceFault (.inContext serviceContext (.interrupted brokenReason output))

theorem IsServiceFault.isFailure {e : Error} (h : IsServiceFault e) : e.IsFailure := by
  cases h <;> rfl

theorem isServiceFault_of_outputOf {o : Outcome} {e : Error} (h : outputOf o = .error e) :
    IsServiceFault e := by
  cases o with
  | fault f =>
    cases h
    exact .lost f
  | reply status received cut =>
    simp only [outputOf] at h
    split at h
    · split at h
      · cases h
      · cases h
        exact .interrupted _
    · cases h
      exact .refused status _

theorem faults_execute (p : TokenCache.Operation → Prop) (base : String) (token : Option String)
    (code language : String) (l : Listeners) :
    (execute base token code language l).Within p IsServiceFault := by
  unfold execute
  split
  · exact .error (.lost .unwritable)
  · exact .send _ fun o => .done fun e => isServiceFault_of_outputOf

theorem within_execute (p : TokenCache.Operation → Prop) (base : String) (token : Option String)
    (code language : String) (l : Listeners) :
    (execute base token code language l).Within p Error.IsFailure :=
  (faults_execute p base token code language l).mono fun _ h => h.isFailure

/-- The only headers of an execution are the type of its body and a token. -/
theorem requestHeaders_cases (token : Option String) :
    requestHeaders token = [("content-type", Signature.contentType)] ∨
      ∃ t, requestHeaders token =
        [("content-type", Signature.contentType), ("x-access-token", t)] := by
  unfold requestHeaders
  cases Text.nonEmpty token with
  | none => exact .inl rfl
  | some t => exact .inr ⟨t, rfl⟩

theorem requestHeaders_of_ne {token : String} (h : token ≠ "") :
    requestHeaders (some token) =
      [("content-type", Signature.contentType), ("x-access-token", token)] := by
  simp [requestHeaders, Text.nonEmpty, h]

theorem exists_reply_of_outputOf {o : Outcome} {output : Output} (h : outputOf o = .ok output) :
    ∃ status received cut, o = .reply status received cut := by
  cases o with
  | fault f => cases h
  | reply status received cut => exact ⟨status, received, cut, rfl⟩

/-- The request that has some code run, with the token that it was given, if that is not empty. -/
def submission (url : Url) (token : Option String) (code language : String) : Request where
  method := .post
  url := url
  headers := requestHeaders token
  body := (requestBody code language).toText

theorem submission_of_ne {token : String} (h : token ≠ "") (url : Url) (code language : String) :
    submission url (some token) code language = executionRequest url token code language := by
  rw [submission, requestHeaders_of_ne h]
  rfl

/-- Nothing is sent and there is no output, or the one request is sent. -/
theorem sent_submission (c : Caller) (base : String) (token : Option String)
    (code language : String) (l : Listeners) (w : World) :
    let r := (execute base token code language l).run c w
    r.2.sent = w.sent ∧ r.1.ok? = none ∨
      ∃ url, Url.parse (executeUrl base) = .ok url ∧
        r.2.sent = w.sent ++ [submission url token code language] := by
  intro r
  rcases hurl : Url.parse (executeUrl base) with f | url
  · have hr : r = (.finished (.error (.inContext serviceContext (.transport .unwritable))), w) := by
      simp only [r, execute, hurl]
      rfl
    rw [hr]
    exact .inl ⟨rfl, rfl⟩
  let q : Query := ⟨submission url token code language, none, reception l⟩
  have hr : r = (Action.send q fun o => .done (outputOf o)).run c w := by
    simp only [r, execute, hurl]
    rfl
  rw [hr, Action.run_send_done]
  rcases World.exchange_sent c q w with ⟨hsame, hnone⟩ | hsent
  · refine .inl ⟨hsame, ?_⟩
    rcases hfinish : (w.exchange c q).1 with o | _ | _ | _
    case outcome =>
      rcases houtput : outputOf o with e | output
      · simp only [Finish.ending, houtput]
        rfl
      · obtain ⟨status, received, cut, rfl⟩ := exists_reply_of_outputOf houtput
        exact absurd hfinish (hnone status received cut)
    all_goals rfl
  · exact .inr ⟨url, rfl, hsent⟩

/-- The same with a token that is not empty. -/
theorem sent_execute (c : Caller) (base : String) {token : String} (htoken : token ≠ "")
    (code language : String) (l : Listeners) (w : World) :
    let r := (execute base (some token) code language l).run c w
    r.2.sent = w.sent ∧ r.1.ok? = none ∨
      ∃ url, Url.parse (executeUrl base) = .ok url ∧
        r.2.sent = w.sent ++ [executionRequest url token code language] := by
  have h := sent_submission c base (some token) code language l w
  simp only [submission_of_ne htoken] at h
  exact h

end AgentSandbox.Execution
