import AgentSandbox.Calendar
import AgentSandbox.Config.Basic
import AgentSandbox.E2b.Form
import AgentSandbox.Endpoint
import AgentSandbox.Exchange.Body
import AgentSandbox.Execution.Service

/-!
# The REST backend

Sandboxes are managed below the URL of the service, with a key in a header.  The token of a sandbox
is given only when the sandbox is made, so it is remembered then and forgotten when the sandbox is
deleted.  Tools and keys are not offered.
-/

namespace AgentSandbox

open Json Execution

/-- A REST service as a backend. -/
structure E2bBackend where
  config : E2bConfig
  /-- The milliseconds that a management request may take. -/
  limit : Option Nat
  now : Instant
  deriving DecidableEq

namespace E2bBackend

open E2b

/-- The URL of the sandboxes, or of one of them. -/
def sandboxesUrl (b : E2bBackend) (id : Option String) : Except Error Url :=
  let base := b.config.apiBaseUrl
  match Url.parse base with
  | .error f => .error (.config ("invalid API URL '" ++ base ++ "': " ++ f.phrase))
  | .ok u =>
    if u.hasSegments then
      let u := u.popEmpty.push "sandboxes"
      .ok ((id.map u.push).getD u)
    else .error (.config ("API URL cannot be a base: " ++ base))

/-- The headers of a management request. -/
def headers (b : E2bBackend) : List (String × String) :=
  [("x-api-key", b.config.apiKey), ("content-type", Signature.contentType)]

/-- A kind of management request: what an error is about, the statuses it accepts, and whether the
body of an accepted reply is read. -/
structure Errand where
  method : Method
  context : String
  accepts : List Nat
  reads : Bool

/-- What the body of a reply is received as. -/
def Errand.reception (e : Errand) (status : Nat) : Received :=
  if e.accepts.contains status && !e.reads then .nothing else .body []

/-- Does an errand. -/
def run (b : E2bBackend) (e : Errand) (id : Option String) (body : String) : Action Content :=
  match b.sandboxesUrl id with
  | .error err => .fail err
  | .ok url =>
    .send ⟨⟨e.method, url, b.headers, body⟩, b.limit, e.reception⟩ fun o =>
      .done (o.accepted e.context e.accepts fun f => .inContext e.context (.transport f))

/-- The error of an operation that the service does not offer. -/
def unsupported (operation : String) : Error :=
  .unsupported operation BackendKind.e2b.name BackendKind.cloud.name

/-- The errand of listing all sandboxes. -/
def listErrand : Errand := ⟨.get, "failed to list instances", [200], true⟩

/-- The errand of making a sandbox. -/
def createErrand : Errand := ⟨.post, "failed to create instance", [200, 201], true⟩

/-- The errand of deleting a sandbox. -/
def deleteErrand : Errand := ⟨.delete, "failed to delete instance", [200, 204], false⟩

/-- All sandboxes. -/
def listAll (b : E2bBackend) : Action (List Instance) := do
  let content ← b.run listErrand none ""
  .done (content.decode "list instances" (Document.listOf? listedOfDocument?))

/-- The page of instances that a query asks for. -/
def listInstances (b : E2bBackend) (q : InstanceQuery) : Action InstancePage := do
  let is ← b.listAll
  pure (pageOf q is)

/-- The instance with an id. -/
def getInstance (b : E2bBackend) (id : String) : Action Instance := do
  let is ← b.listAll
  match is.find? (·.id = id) with
  | some i => pure i
  | none => .fail (.notFound "instance" id)

/-- The instance that was made with an id and a token. -/
def created (b : E2bBackend) (c : InstanceCreation) (id : String) (token : Option String) :
    Instance where
  id := id
  toolId := template c
  toolName := template c
  status := assumedStatus
  createdAt := b.now.timestamp
  accessToken := token
  domain := some (b.config.region ++ "." ++ b.config.domain)

/-- Makes an instance and remembers its token. -/
def createInstance (b : E2bBackend) (c : InstanceCreation) : Action Instance := do
  let content ← b.run createErrand none (creationBody c).toText
  let made ← Action.done (content.decode "create instance" Created.ofDocument?)
  match made.id with
  | none => .fail (.incomplete "create instance" "sandboxID")
  | some id =>
    match made.token with
    | some token => .insertToken id token
    | none => pure ()
    pure (b.created c id made.token)

/-- Deletes an instance and forgets its token. -/
def deleteInstance (b : E2bBackend) (id : String) : Action Unit := do
  let _ ← b.run deleteErrand (some id) ""
  .evictToken id

/-- The URL below which the execution service of an instance is found. -/
def executionBase (b : E2bBackend) (id : String) : String :=
  b.config.executeUrl.getD (serviceUrl executionPort id b.config.region b.config.domain)

/-- Runs code in an instance, with its token if it is known. -/
def execute (b : E2bBackend) (id code language : String) (l : Listeners) : Action Output := do
  let token ← .lookUpToken id
  Execution.execute (b.executionBase id) token code language l

/-- The host of the service on a port of an instance. -/
def instanceHost (b : E2bBackend) (port : Nat) (id : String) : String :=
  serviceHost port id b.config.region b.config.domain

end E2bBackend

end AgentSandbox
