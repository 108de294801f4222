import AgentSandbox.Client.Call
import AgentSandbox.Cloud.Operations
import AgentSandbox.E2b.Backend
import AgentSandbox.Exchange.World

/-!
# Clients

A `Backend` is one of the two kinds of backend, and `Backend.action` is what it does for a call; a
call that the REST service does not offer fails at once.  A `Client` adds a time limit for calls.
`Client.perform` carries out a call in a world: a call of a client that was cancelled does nothing,
and one that is cancelled or not finished in time has no other result.
-/

namespace AgentSandbox

open Execution

/-- A backend of either kind. -/
inductive Backend where
  | e2b (backend : E2bBackend)
  | cloud (backend : CloudBackend)
  deriving DecidableEq

namespace Backend

/-- The kind of a backend. -/
def kind : Backend → BackendKind
  | .e2b _ => .e2b
  | .cloud _ => .cloud

/-- The host of the service on a port of an instance. -/
def instanceHost (port : Nat) (id : String) : Backend → String
  | .e2b b => b.instanceHost port id
  | .cloud b => b.instanceHost port id

/-- The token that opens the services of an instance, if there is one. -/
def accessToken (id : String) : Backend → Action (Option String)
  | .e2b _ => .lookUpToken id
  | .cloud b => some <$> b.acquireToken id

/-- The URLs of the browser of an instance, which need a token. -/
def browserUrls (b : Backend) (id : String) (port : Nat) : Action BrowserUrls := do
  match ← b.accessToken id with
  | some token => pure (AgentSandbox.browserUrls (b.instanceHost port id) token)
  | none => .fail (.notFound "access token for instance" id)

/-- Runs code in an instance. -/
def execute (id code language : String) (l : Listeners) : Backend → Action Output
  | .e2b b => b.execute id code language l
  | .cloud b => b.execute id code language l

/-- What the REST service does for a call. -/
def restAction (b : E2bBackend) (call : Call) : Action Answer :=
  match call with
  | .createInstance c => .instanceOf <$> b.createInstance c
  | .listInstances q => .instances <$> b.listInstances q
  | .getInstance id => .instanceOf <$> b.getInstance id
  | .deleteInstance id => (fun _ => .done) <$> b.deleteInstance id
  | .execute id code language => .output <$> b.execute id code language .none
  | .executeStream id code language l => .output <$> b.execute id code language l
  | .accessToken id => .token <$> (Backend.e2b b).accessToken id
  | .browserUrls id port => .browser <$> (Backend.e2b b).browserUrls id port
  | call => .fail (E2bBackend.unsupported call.operation)

/-- What the control plane does for a call. -/
def cloudAction (b : CloudBackend) : Call → Action Answer
  | .createTool c => .tool <$> b.createTool c
  | .updateTool u => (fun _ => .done) <$> b.updateTool u
  | .listTools q => .tools <$> b.listTools q
  | .getTool id => .tool <$> b.getTool id
  | .deleteTool id => (fun _ => .done) <$> b.deleteTool id
  | .createInstance c => .instanceOf <$> b.createInstance c
  | .listInstances q => .instances <$> b.listInstances q
  | .getInstance id => .instanceOf <$> b.getInstance id
  | .deleteInstance id => (fun _ => .done) <$> b.deleteInstance id
  | .execute id code language => .output <$> b.execute id code language .none
  | .executeStream id code language l => .output <$> b.execute id code language l
  | .accessToken id => .token <$> (Backend.cloud b).accessToken id
  | .browserUrls id port => .browser <$> (Backend.cloud b).browserUrls id port
  | .createApiKey name => .createdKey <$> b.createKey name
  | .listApiKeys => .keys <$> b.listKeys
  | .deleteApiKey id => (fun _ => .done) <$> b.deleteKey id

/-- What a backend does for a call. -/
def action : Backend → Call → Action Answer
  | .e2b b => restAction b
  | .cloud b => cloudAction b

end Backend

/-- A backend with the milliseconds that a call may take. -/
structure Client where
  backend : Backend
  callLimit : Option Nat
  deriving DecidableEq

namespace Client

/-- The ways to build a client. -/
inductive Assembly where
  /-- From a backend that is given no limits. -/
  | bare
  /-- From a backend with the configured limit for requests. -/
  | limited
  /-- From a configuration that is checked first, with its limits for requests and for calls.  The
  one for requests is also one for opening a connection, which takes no time here and is left out. -/
  | configured
  deriving DecidableEq

/-- The milliseconds of some seconds. -/
def milliseconds (seconds : Nat) : Nat := seconds * 1000

/-- The backend that a configuration chooses, with a limit for management requests. -/
def backendOf (c : Config) (limit : Option Nat) (now : Instant) : Except Error Backend :=
  match c.backendKind with
  | .e2b => .ok (.e2b ⟨c.e2b, limit, now⟩)
  | .cloud => (CloudBackend.make c.cloud limit now).map .cloud

/-- The client of a configuration at a moment. -/
def build (a : Assembly) (c : Config) (now : Instant) : Except Error Client :=
  let limit := some (milliseconds c.http.timeoutSeconds)
  match a with
  | .bare => (backendOf c none now).map fun b => ⟨b, none⟩
  | .limited => (backendOf c limit now).map fun b => ⟨b, none⟩
  | .configured => do
    c.validate
    let b ← backendOf c limit now
    .ok ⟨b, (c.http.callTimeoutSeconds.filter (0 < ·)).map milliseconds⟩

/-- The result of a call that ended, if it did: `limit` is the time that the call was given. -/
def resultOf {α : Type} (operation : String) (limit : Option Nat) :
    Ending α → Option (Except Error α)
  | .finished r => some r
  | .cancelled => some (.error (.cancelled operation))
  | .expired => some (.error (.deadline operation (limit.getD 0 / 1000)))
  | .unending => none

/-- Carries out an action for a caller under the name of an operation. -/
def dispatch {α : Type} (operation : String) (caller : Caller) (a : Action α) (w : World) :
    Option (Except Error α) × World :=
  if caller.heeds && w.cancelled then (some (.error (.cancelled operation)), w)
  else
    let r := a.run caller w
    (resultOf operation caller.deadline r.1, r.2)

/-- Carries out a call; the result is absent if the call never ends. -/
def perform (b : Backend) (caller : Caller) (call : Call) (w : World) :
    Option (Except Error Answer) × World :=
  dispatch call.operation caller (b.action call) w

end Client

end AgentSandbox
