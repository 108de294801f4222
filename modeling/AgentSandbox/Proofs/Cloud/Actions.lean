import AgentSandbox.Client.Basic
import AgentSandbox.Proofs.Execution.Service

/-!
# The actions of the control plane

The outcome of an action stands for the record in the response that it carries, if it carries one
(`recordOf_cases`).  Every call is put together from such actions and from executions, and has the
properties that they have (`cloudAction_closed`): none does anything with the remembered tokens or
has an error that speaks for the caller (`within_cloudAction`).
-/

namespace AgentSandbox

open Cloud Json

/-- An error of an action. -/
inductive Cloud.IsFault (action : String) : Error → Prop where
  | lost (f : TransportFault) : IsFault action (.transport f)
  | cut (f : TransportFault) : IsFault action (.inContext action (.transport f))
  | refused (status : Nat) (body : String) : IsFault action (.api action status body)
  | malformed : IsFault action (.decode action)
  | reported (code text id : String) : IsFault action (.service action code text id)

theorem Cloud.IsFault.isFailure {action : String} {e : Error} (h : IsFault action e) :
    e.IsFailure := by
  cases h <;> rfl

theorem Cloud.isFault_of_openResponse {α : Type} {action : String} {decode : Document → Option α}
    {response : Value} {e : Error} (h : openResponse action decode response = .error e) :
    IsFault action e := by
  unfold openResponse at h
  split at h
  · cases h
    exact .reported _ _ _
  · split at h
    all_goals
      dsimp only at h
      split at h
      · cases h
      · cases h
        exact .malformed

namespace CloudBackend

variable {α β : Type}

/-- The record of an outcome is that of the response in it, unless there is no response. -/
theorem recordOf_cases (action : String) (decode : Document → Option α) (o : Outcome) :
    (∃ e : Error, IsFault action e ∧ recordOf action decode o = .error e) ∨
      ∃ content response, o.accepted action [200] .transport = .ok content ∧
        content.decode action responseOfDocument? = .ok response ∧
        recordOf action decode o = openResponse action decode response := by
  unfold recordOf
  rcases haccepted : o.accepted action [200] .transport with e | content
  · refine .inl ⟨e, ?_, rfl⟩
    rcases Outcome.accepted_eq_error haccepted with ⟨f, rfl⟩ | ⟨status, body, rfl⟩
    · exact .lost f
    · exact .refused status body
  rcases hdecoded : content.decode action responseOfDocument? with e | response
  · refine .inl ⟨e, ?_, by simp only [Bind.bind, Except.bind, hdecoded]⟩
    rcases Content.decode_eq_error hdecoded with ⟨f, rfl⟩ | rfl
    · exact .cut f
    · exact .malformed
  · refine .inr ⟨content, response, rfl, hdecoded, ?_⟩
    simp only [Bind.bind, Except.bind, hdecoded]

theorem isFault_of_recordOf {action : String} {decode : Document → Option α} {o : Outcome}
    {e : Error} (h : recordOf action decode o = .error e) : IsFault action e := by
  rcases recordOf_cases action decode o with ⟨e', he', hr⟩ | ⟨content, response, -, -, hr⟩
  · cases hr.symm.trans h
    exact he'
  · exact isFault_of_openResponse (hr.symm.trans h)

variable (b : CloudBackend)

/-! ## What calls are put together from -/

section

variable {b} {P : (α : Type) → Action α → Prop} (hP : Action.IsClosed P)
  (hcall : ∀ {α : Type} (context action : String) (body : Value) (decode : Document → Option α),
    P α (b.call context action body decode))

include hP hcall

theorem getTool_closed (id : String) : P Tool (b.getTool id) := by
  refine hP.bind (hcall _ _ _ _) fun page => ?_
  split
  · exact hP.ok _
  · exact hP.fail rfl

theorem createTool_closed (c : ToolCreation) : P Tool (b.createTool c) := by
  unfold createTool
  split
  · exact hP.fail rfl
  split
  · exact hP.fail rfl
  · exact hP.map (hcall _ _ _ _) _

theorem getInstance_closed (id : String) : P Instance (b.getInstance id) := by
  refine hP.bind (hcall _ _ _ _) fun page => ?_
  split
  · exact hP.ok _
  · exact hP.fail rfl

theorem acquireToken_closed (id : String) : P String (b.acquireToken id) := by
  refine hP.bind (hcall _ _ _ _) fun token => ?_
  cases token with
  | some t => exact hP.ok t
  | none => exact hP.fail rfl

theorem browserUrls_closed (id : String) (port : Nat) :
    P BrowserUrls ((Backend.cloud b).browserUrls id port) := by
  refine hP.bind (hP.map (acquireToken_closed hP hcall id) some) fun token => ?_
  cases token with
  | some t => exact hP.ok _
  | none => exact hP.fail rfl

/-- Every call is put together from actions of the control plane and executions. -/
theorem cloudAction_closed
    (hexecute : ∀ base token code language l,
      P Execution.Output (Execution.execute base token code language l)) (call : Call) :
    P Answer (Backend.cloudAction b call) := by
  have hrun (id code language : String) (l : Execution.Listeners) :
      P Execution.Output (b.execute id code language l) :=
    hP.bind (acquireToken_closed hP hcall id) fun _ => hexecute _ _ _ _ _
  cases call with
  | createTool c => exact hP.map (createTool_closed hP hcall c) _
  | getTool id => exact hP.map (getTool_closed hP hcall id) _
  | createInstance c => exact hP.map (hP.map (hcall _ _ _ _) _) _
  | getInstance id => exact hP.map (getInstance_closed hP hcall id) _
  | execute id code language => exact hP.map (hrun id code language _) _
  | executeStream id code language l => exact hP.map (hrun id code language l) _
  | accessToken id => exact hP.map (hP.map (acquireToken_closed hP hcall id) some) _
  | browserUrls id port => exact hP.map (browserUrls_closed hP hcall id port) _
  | _ => exact hP.map (hcall _ _ _ _) _

end

/-! ## Tokens and errors -/

theorem within_call (p : TokenCache.Operation → Prop) (context action : String) (body : Value)
    (decode : Document → Option α) :
    (b.call context action body decode).Within p Error.IsFailure := by
  refine .send _ fun o => .done fun e h => ?_
  rcases hrecord : recordOf action decode o with err | a
  · rw [hrecord] at h
    cases h
    exact (isFault_of_recordOf hrecord).isFailure.inContext context
  · rw [hrecord] at h
    cases h

/-- A call of the control plane does nothing with the tokens, and its errors are those of the call
itself. -/
theorem within_cloudAction (p : TokenCache.Operation → Prop) (call : Call) :
    (Backend.cloudAction b call).Within p Error.IsFailure :=
  cloudAction_closed (Action.isClosed_within p) (within_call b p) (Execution.within_execute p) call

end CloudBackend

end AgentSandbox
