import AgentSandbox.Client.Basic
import AgentSandbox.Proofs.Cloud.Reading
import AgentSandbox.Proofs.Json.Bounds

/-!
# How the control plane reports errors

Every call of the control plane has a purpose, the context that its errors are about and the action
that it begins with (`Cloud.purpose`), and fails in this context with whatever error the outcome of
this action stands for (`CloudBackend.failsAs_cloudAction`).  A response with a member `Error` stands
for an error, whatever the member is (`Cloud.recordOf_reported`).  The code and the text are those in
the member, each of them empty if it is missing; but if one of them is there and is no text, both are
empty (`Cloud.reportedError_object`).
-/

namespace AgentSandbox

open Cloud Json

/-! ## Failing as reported -/

/-- The outcome of an action stands for an error, whatever record was expected. -/
def Outcome.Reports (action : String) (o : Outcome) (e : Error) : Prop :=
  ∀ (α : Type) (decode : Document → Option α), CloudBackend.recordOf action decode o = .error e

/-- Nothing is sent, or an action of the control plane first; and then the whole fails in the context
with any error that the outcome reports. -/
inductive Action.FailsAs {α : Type} (b : CloudBackend) (context action : String) :
    Action α → Prop where
  | fail (e : Error) : FailsAs b context action (.fail e)
  | send (body : String) {next : Outcome → Action α}
      (fails : ∀ o e, o.Reports action e → next o = .fail (.inContext context e)) :
      FailsAs b context action (.send ⟨b.request action body, b.limit, fun _ => .body []⟩ next)

namespace Action.FailsAs

variable {α β : Type} {b : CloudBackend} {context action : String} {a : Action α}

theorem bind (h : a.FailsAs b context action) (f : α → Action β) :
    (a.bind f).FailsAs b context action := by
  cases h with
  | fail e => exact .fail e
  | send body fails =>
    refine .send body fun o e he => ?_
    rw [fails o e he]
    rfl

theorem map (h : a.FailsAs b context action) (f : α → β) : (f <$> a).FailsAs b context action :=
  h.bind _

end Action.FailsAs

/-- The context of a call's errors and the action that it begins with. -/
def Cloud.purpose : Call → String × String
  | .createTool _ => ("failed to create tool", "CreateSandboxTool")
  | .updateTool _ => ("failed to update tool", "UpdateSandboxTool")
  | .listTools _ | .getTool _ => ("failed to list tools", "DescribeSandboxToolList")
  | .deleteTool _ => ("failed to delete tool", "DeleteSandboxTool")
  | .createInstance _ => ("failed to create instance", "StartSandboxInstance")
  | .listInstances _ | .getInstance _ =>
    ("failed to list instances", "DescribeSandboxInstanceList")
  | .deleteInstance _ => ("failed to delete instance", "StopSandboxInstance")
  | .execute .. | .executeStream .. | .accessToken _ | .browserUrls .. =>
    (CloudBackend.tokenContext, "AcquireSandboxInstanceToken")
  | .createApiKey _ => ("failed to create API key", "CreateAPIKey")
  | .listApiKeys => ("failed to list API keys", "DescribeAPIKeyList")
  | .deleteApiKey _ => ("failed to delete API key", "DeleteAPIKey")

namespace CloudBackend

variable (b : CloudBackend)

theorem failsAs_call {α : Type} (context action : String) (body : Value)
    (decode : Document → Option α) :
    (b.call context action body decode).FailsAs b context action :=
  .send body.toText fun o e he => by
    rw [he α decode]
    rfl

theorem failsAs_createTool (c : ToolCreation) :
    (b.createTool c).FailsAs b "failed to create tool" "CreateSandboxTool" := by
  unfold createTool
  split
  · exact .fail _
  split
  · exact .fail _
  · exact (b.failsAs_call _ _ _ _).bind _

/-- Every call fails as its first action reports. -/
theorem failsAs_cloudAction (call : Call) :
    (Backend.cloudAction b call).FailsAs b (purpose call).1 (purpose call).2 := by
  have htoken (id : String) :
      (b.acquireToken id).FailsAs b tokenContext "AcquireSandboxInstanceToken" :=
    (b.failsAs_call _ _ _ _).bind _
  cases call with
  | createTool c => exact (b.failsAs_createTool c).map _
  | getTool id => exact ((b.failsAs_call _ _ _ _).bind _).map _
  | createInstance c => exact ((b.failsAs_call _ _ _ _).bind _).map _
  | getInstance id => exact ((b.failsAs_call _ _ _ _).bind _).map _
  | execute id code language => exact ((htoken id).bind _).map _
  | executeStream id code language l => exact ((htoken id).bind _).map _
  | accessToken id => exact ((htoken id).map _).map _
  | browserUrls id port => exact (((htoken id).map _).bind _).map _
  | _ => exact (b.failsAs_call _ _ _ _).map _

end CloudBackend

/-! ## What is reported -/

namespace Cloud

/-- The document in a body is bounded. -/
theorem isBounded_of_documentOf? {bytes : List UInt8} {d : Document}
    (h : documentOf? bytes = some d) : d.IsBounded maxNesting := by
  unfold documentOf? at h
  dsimp only at h
  split at h
  · cases h
  · exact Document.isBounded_of_scan? h

/-- The response in a body is in order. -/
theorem isOrdered_response {bytes : List UInt8} {d : Document} {response : Value}
    (hd : documentOf? bytes = some d) (h : responseOfDocument? d = some response) :
    response.IsOrdered := by
  have hbounded := isBounded_of_documentOf? hd
  obtain ⟨fs, hfs, h⟩ := Option.bind_eq_some_iff.1 h
  unfold Fields.orDefault at h
  split at h
  · cases h
    exact .null
  next e he => exact ((hbounded.of_lookup? hfs he).meaning h).1

/-- The code and the text that a reported error is taken to have. -/
def reportedError (reported : Value) : ReportedError :=
  (ReportedError.ofDocument? (.ofValue reported)).getD ⟨"", ""⟩

/-- The text of a member, empty if there is no such member; `none` if the member is no text. -/
def textAt? (name : String) (ms : List (String × Value)) : Option String :=
  match lookup? name ms with
  | none => some ""
  | some v => v.text?

/-- A response with a member `Error` stands for an error. -/
theorem recordOf_reported (action : String) {received : Received} {d : Document}
    {ms : List (String × Value)} {reported : Value} (hd : documentOf? received.bytes = some d)
    (hresponse : responseOfDocument? d = some (.object ms))
    (hreported : lookup? "Error" ms = some reported) :
    (Outcome.reply 200 received none).Reports action
      (.service action (reportedError reported).code (reportedError reported).text
        (requestId (.object ms))) := by
  intro α decode
  have hmember : (Value.object ms).member? "Error" = some reported := hreported
  rw [recordOf_whole action decode hd, hresponse]
  dsimp only
  unfold openResponse
  rw [hmember]
  rfl

theorem ofDocument?_object {es : List (String × Value)} (h : (Value.object es).IsOrdered) :
    ReportedError.ofDocument? (.ofValue (.object es)) =
      (textAt? "Code" es).bind fun code => (textAt? "Message" es).map fun text => ⟨code, text⟩ := by
  cases h with
  | object hincreasing _ =>
    have hfields := fields?_ofValue ["Code", "Message"] ⟨es, hincreasing⟩
    have htext (name : String) (hname : name ∈ ["Code", "Message"]) :
        (⟨knownMembers ["Code", "Message"] es, false⟩ : Fields).orDefault name Document.text? "" =
          textAt? name es := by
      rw [Fields.orDefault, lookup?_knownMembers, if_pos (List.contains_iff_mem.2 hname), textAt?]
      cases lookup? name es with
      | none => rfl
      | some v => cases v <;> rfl
    rw [ReportedError.ofDocument?, hfields]
    simp only [Option.bind_eq_bind, Option.bind_some, htext "Code" (by decide),
      htext "Message" (by decide)]
    cases textAt? "Code" es <;> cases textAt? "Message" es <;> rfl

/-- An object reports a code and a text, both of them empty if either is no text. -/
theorem reportedError_object {es : List (String × Value)} (h : (Value.object es).IsOrdered) :
    (∀ code text, textAt? "Code" es = some code → textAt? "Message" es = some text →
        reportedError (.object es) = ⟨code, text⟩) ∧
      (textAt? "Code" es = none ∨ textAt? "Message" es = none →
        reportedError (.object es) = ⟨"", ""⟩) := by
  rw [reportedError, ofDocument?_object h]
  refine ⟨fun code text hcode htext => ?_, fun hnone => ?_⟩
  · rw [hcode, htext]
    rfl
  · rcases hnone with hcode | htext
    · rw [hcode]
      rfl
    · rw [htext]
      cases textAt? "Code" es <;> rfl

/-- What is neither an object nor a list reports nothing. -/
theorem reportedError_scalar {v : Value} (hobject : ∀ es, v ≠ .object es)
    (hlist : ∀ vs, v ≠ .list vs) : reportedError v = ⟨"", ""⟩ := by
  cases v with
  | object es => exact absurd rfl (hobject es)
  | list vs => exact absurd rfl (hlist vs)
  | _ => rfl

end Cloud

end AgentSandbox
