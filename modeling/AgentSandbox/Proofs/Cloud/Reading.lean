import AgentSandbox.Client.Basic
import AgentSandbox.Proofs.Cloud.Answering
import AgentSandbox.Proofs.Cloud.Envelope
import AgentSandbox.Proofs.Exchange.Reading
import AgentSandbox.Proofs.Execution.Service

/-!
# How the control plane is understood

Every call of the control plane begins with one action, whose reply is the envelope of a response
with the shape of that action (`Cloud.reading`), and reads it so (`CloudBackend.readsAs_cloudAction`).
Only the token of an instance has to be given.
-/

namespace AgentSandbox

open Cloud Json

namespace Cloud

/-- An envelope around a response. -/
def enveloped (response : Shape) (needs : List String) : Reading :=
  ⟨[200], IsErrorFree, envelopeShape response, needs⟩

/-- What a call reads the reply to its first request as. -/
def reading : Call → Reading
  | .createTool _ => enveloped toolIdShape []
  | .listTools _ | .getTool _ => enveloped toolPageShape []
  | .createInstance _ => enveloped startedShape []
  | .listInstances _ | .getInstance _ => enveloped instancePageShape []
  | .execute .. | .executeStream .. | .accessToken _ | .browserUrls .. =>
    enveloped tokenShape ["Response", "Token"]
  | .createApiKey _ => enveloped createdKeyShape []
  | .listApiKeys => enveloped keysShape []
  | .updateTool _ | .deleteTool _ | .deleteInstance _ | .deleteApiKey _ => enveloped unitShape []

/-- The record in a whole reply is that of the response in its body. -/
theorem recordOf_whole (action : String) {α : Type} (decode : Document → Option α)
    {received : Received} {d : Document} (hd : documentOf? received.bytes = some d) :
    CloudBackend.recordOf action decode (.reply 200 received none) =
      match responseOfDocument? d with
      | some response => openResponse action decode response
      | none => .error (.decode action) := by
  have haccepted : Outcome.accepted action [200] .transport (.reply 200 received none) =
      .ok ⟨received, none⟩ := rfl
  unfold CloudBackend.recordOf
  rw [haccepted]
  simp only [Bind.bind, Except.bind, Content.decode_whole, hd, Option.bind_some]
  cases responseOfDocument? d <;> rfl

theorem openResponse_whole (action : String) {α : Type} {decode : Document → Option α}
    (received : Received) {d : Document} (hd : documentOf? received.bytes = some d)
    (hfit : IsErrorFree d) :
    CloudBackend.recordOf action decode (.reply 200 received none) =
      match openDocument? decode d with
      | some a => .ok a
      | none => .error (.decode action) := by
  unfold openDocument?
  rw [recordOf_whole action decode hd]
  cases hresponse : responseOfDocument? d with
  | none => rfl
  | some response => exact openResponse_of_member? action (hfit response hresponse)

end Cloud

namespace CloudBackend

variable {α : Type} (b : CloudBackend)

theorem reads_call (context action : String) (body : Value) (decode : Document → Option α) :
    (b.call context action body decode).Reads [200] IsErrorFree (openDocument? decode)
      (.inContext context (.decode action)) fun x => .done (.ok x) := by
  refine .send (fun _ _ => rfl) (fun f => ?_) (fun status hstatus f => ?_)
    fun status hstatus bytes d hd hfit => ?_
  · exact ⟨.inContext context (.transport f), trivial, rfl⟩
  · obtain rfl := List.mem_singleton.1 hstatus
    exact ⟨.inContext context (.inContext action (.transport f)), trivial, fun bytes => rfl⟩
  · obtain rfl := List.mem_singleton.1 hstatus
    rw [openResponse_whole action (.body bytes) hd hfit]
    cases openDocument? decode d <;> rfl

/-- An action with nothing that has to be given. -/
theorem readsAs_call (context action : String) (body : Value) {decode : Document → Option α}
    {slots : List (String × Shape × Bool)} (hdecode : (Shape.record slots).Suits decode)
    (hempty : (decode (.record [])).isSome = true) :
    (b.call context action body decode).ReadsAs (enveloped (.record slots) []) :=
  (b.reads_call context action body decode).readsAs (bears_envelope hdecode hempty) ⟨action, rfl⟩ rfl

theorem readsAs_getTool (id : String) : (b.getTool id).ReadsAs (enveloped toolPageShape []) := by
  have hmissing : (Error.notFound "tool" id).IsEarly := trivial
  refine Action.ReadsAs.bind (b.readsAs_call _ _ _ suits_toolPage rfl) fun page => ?_
  split
  · exact .ok _
  · exact .error (hmissing.allowed _)

theorem readsAs_createTool (c : ToolCreation) :
    (b.createTool c).ReadsAs (enveloped toolIdShape []) := by
  unfold createTool
  split
  · exact .fail trivial
  split
  · exact .fail trivial
  · exact Action.ReadsAs.map (b.readsAs_call _ _ _ suits_toolId rfl) _

theorem readsAs_getInstance (id : String) :
    (b.getInstance id).ReadsAs (enveloped instancePageShape []) := by
  have hmissing : (Error.notFound "instance" id).IsEarly := trivial
  refine Action.ReadsAs.bind (b.readsAs_call _ _ _ suits_instancePage rfl) fun page => ?_
  split
  · exact .ok _
  · exact .error (hmissing.allowed _)

/-- A token has to be given. -/
theorem readsAs_acquireToken (id : String) :
    (b.acquireToken id).ReadsAs (enveloped tokenShape ["Response", "Token"]) := by
  have hlacking : (Error.inContext tokenContext
      (.incomplete "AcquireSandboxInstanceToken" "Token")).Lacks "Token" := ⟨_, rfl⟩
  refine .intro (bears_envelope suits_token rfl) ⟨"AcquireSandboxInstanceToken", rfl⟩
    ((b.reads_call _ _ _ _).bind _) (fun token => ?_) fun d token hd htoken => ?_
  · cases token with
    | some t => exact .ok t
    | none => exact .error (hlacking.allowed rfl)
  · obtain ⟨e, he, hdecoded⟩ := exists_of_lacks hd htoken
    obtain ⟨fs, hfs, hdecoded⟩ := Option.bind_eq_some_iff.1 hdecoded
    rw [he.optional hfs] at hdecoded
    cases hdecoded
    exact ⟨_, "Token", rfl, rfl, hlacking⟩

theorem readsAs_execute (id code language : String) (l : Execution.Listeners) :
    (b.execute id code language l).ReadsAs (enveloped tokenShape ["Response", "Token"]) := by
  refine (b.readsAs_acquireToken id).bind fun token => ?_
  refine (Execution.faults_execute _ _ _ _ _ _).mono fun e he => ?_
  have hearly : e.IsEarly := by cases he <;> trivial
  exact hearly.allowed _

theorem readsAs_browserUrls (id : String) (port : Nat) :
    ((Backend.cloud b).browserUrls id port).ReadsAs
      (enveloped tokenShape ["Response", "Token"]) := by
  refine ((b.readsAs_acquireToken id).map some).bind fun token => ?_
  have hmissing : (Error.notFound "access token for instance" id).IsEarly := trivial
  cases token with
  | some t => exact .ok _
  | none => exact .error (hmissing.allowed _)

/-- Every call of the control plane reads the reply to its first request. -/
theorem readsAs_cloudAction (call : Call) :
    (Backend.cloudAction b call).ReadsAs (Cloud.reading call) := by
  cases call with
  | createTool c => exact (b.readsAs_createTool c).map _
  | updateTool u => exact (b.readsAs_call _ _ _ suits_unit rfl).map _
  | listTools q => exact (b.readsAs_call _ _ _ suits_toolPage rfl).map _
  | getTool id => exact (b.readsAs_getTool id).map _
  | deleteTool id => exact (b.readsAs_call _ _ _ suits_unit rfl).map _
  | createInstance c => exact ((b.readsAs_call _ _ _ suits_started rfl).map _).map _
  | listInstances q => exact (b.readsAs_call _ _ _ suits_instancePage rfl).map _
  | getInstance id => exact (b.readsAs_getInstance id).map _
  | deleteInstance id => exact (b.readsAs_call _ _ _ suits_unit rfl).map _
  | execute id code language => exact (b.readsAs_execute id code language _).map _
  | executeStream id code language l => exact (b.readsAs_execute id code language l).map _
  | accessToken id => exact ((b.readsAs_acquireToken id).map _).map _
  | browserUrls id port => exact (b.readsAs_browserUrls id port).map _
  | createApiKey name => exact (b.readsAs_call _ _ _ suits_createdKey rfl).map _
  | listApiKeys => exact (b.readsAs_call _ _ _ suits_keys rfl).map _
  | deleteApiKey id => exact (b.readsAs_call _ _ _ suits_unit rfl).map _

end CloudBackend

end AgentSandbox
