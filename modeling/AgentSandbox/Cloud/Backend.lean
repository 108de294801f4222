import AgentSandbox.Cloud.Envelope
import AgentSandbox.Config.Basic
import AgentSandbox.Exchange.Body
import AgentSandbox.Json.Printer
import AgentSandbox.Signature
import AgentSandbox.Url.Reader

/-!
# The control plane

Every operation of the control plane is a request to one URL that names its action in a header and
is signed.  `CloudBackend.make` finds the URL and the host that is signed, and `CloudBackend.call`
performs an action and opens the envelope of its reply.
-/

namespace AgentSandbox

open Json

/-- A control plane as a backend. -/
structure CloudBackend where
  config : CloudConfig
  url : Url
  /-- The host as it is sent and signed: with the port, if that is not the usual one. -/
  host : String
  /-- The milliseconds that a request to the control plane may take. -/
  limit : Option Nat
  now : Instant
  deriving DecidableEq

namespace CloudBackend

/-- The version of the actions that are called. -/
def version : String := "2025-09-20"

/-- The text of a host with the port that was given for it. -/
def hostText (host : Url.Host) (port : Option Nat) : String :=
  (⟨none, some host, port⟩ : Authority).text

/-- The control plane of a configuration. -/
def make (config : CloudConfig) (limit : Option Nat) (now : Instant) : Except Error CloudBackend :=
  match Url.parse config.controlPlaneUrl with
  | .error f =>
    .error (.config
      ("invalid control plane URL '" ++ config.controlPlaneUrl ++ "': " ++ f.phrase))
  | .ok url =>
    match url.authority with
    | some ⟨_, some host, port⟩ => .ok ⟨config, url, hostText host port, limit, now⟩
    | _ => .error (.config ("control plane URL has no host: " ++ url.text))

/-- The keys that requests are signed with. -/
def credentials (b : CloudBackend) : Credentials := ⟨b.config.secretId, b.config.secretKey⟩

/-- The request for an action, signed as it is sent. -/
def request (b : CloudBackend) (action : String) (body : String) : Request where
  method := .post
  url := b.url
  headers :=
    [("authorization",
        Signature.authorization b.credentials ⟨b.host, action, Utf8.encode body⟩ b.now),
      ("content-type", Signature.contentType), ("host", b.host), ("x-tc-action", action),
      ("x-tc-version", version), ("x-tc-region", b.config.region),
      ("x-tc-timestamp", toString b.now.seconds)]
  body := body

/-- The record in the reply to an action. -/
def recordOf {α : Type} (action : String) (decode : Document → Option α) (o : Outcome) :
    Except Error α := do
  let content ← o.accepted action [200] .transport
  let response ← content.decode action Cloud.responseOfDocument?
  Cloud.openResponse action decode response

/-- Performs an action and gives the record that answers it; `context` is what an error is about. -/
def call {α : Type} (b : CloudBackend) (context action : String) (body : Value)
    (decode : Document → Option α) : Action α :=
  .send ⟨b.request action body.toText, b.limit, fun _ => .body []⟩ fun o =>
    .done ((recordOf action decode o).mapError (.inContext context))

end CloudBackend

end AgentSandbox
