import AgentSandbox.Error
import AgentSandbox.Json.Record

/-!
# The envelope of control plane replies

Every reply of the control plane is an object whose only known member holds the response.  A
response with an error reports it by a code and a text; any other response is the record that was
asked for, where a response of `null` counts as an empty one.
-/

namespace AgentSandbox.Cloud

open Json

/-- The response in an envelope, `null` if there is none. -/
def responseOfDocument? (d : Document) : Option Value := do
  let fs ← d.fields? ["Response"]
  fs.orDefault "Response" Document.value? .null

/-- The code and the text of a reported error. -/
structure ReportedError where
  code : String
  text : String
  deriving DecidableEq

/-- The reported error that a document gives. -/
def ReportedError.ofDocument? (d : Document) : Option ReportedError := do
  let fs ← d.fields? ["Code", "Message"]
  let code ← fs.orDefault "Code" Document.text? ""
  let text ← fs.orDefault "Message" Document.text? ""
  some ⟨code, text⟩

/-- The id by which the service knows a request, empty if it gives none. -/
def requestId (response : Value) : String :=
  ((response.member? "RequestId").bind Value.text?).getD ""

/-- The record that a response to an action gives.  An error that is not of the known form is
reported without code and text. -/
def openResponse {α : Type} (action : String) (decode : Document → Option α) (response : Value) :
    Except Error α :=
  match response.member? "Error" with
  | some reported =>
    let e := (ReportedError.ofDocument? (Document.ofValue reported)).getD ⟨"", ""⟩
    .error (.service action e.code e.text (requestId response))
  | none =>
    let record := match response with
      | .null => .object []
      | v => v
    match decode (Document.ofValue record) with
    | some a => .ok a
    | none => .error (.decode action)

end AgentSandbox.Cloud
