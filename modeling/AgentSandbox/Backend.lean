import AgentSandbox.Text.Blank

/-!
# Backends

A client talks to one of two backends: a REST service that only knows sandboxes, and a cloud control
plane that also manages tools and keys.  `BackendKind.ofName` resolves a backend's name; a name that
is not known stands for the REST service.
-/

namespace AgentSandbox

/-- The backends that a client can talk to. -/
inductive BackendKind where
  | e2b
  | cloud
  deriving DecidableEq

/-- What a backend offers besides starting sandboxes and executing code. -/
structure Capabilities where
  tools : Bool
  apiKeys : Bool
  /-- Whether the status of an instance is reported, and not just assumed. -/
  instanceStatus : Bool
  deriving DecidableEq

namespace BackendKind

/-- The name of a backend. -/
def name : BackendKind → String
  | .e2b => "e2b"
  | .cloud => "cloud"

/-- The backend of a name, with blanks around it or in any case of its letters. -/
def ofName (name : String) : BackendKind :=
  if Text.lowerAscii (Text.trimString name) = "cloud" then .cloud else .e2b

/-- One line about a backend. -/
def description : BackendKind → String
  | .e2b => "E2B-compatible REST API (instances and execution only)"
  | .cloud => "Cloud control plane API (tools, instances, API keys)"

/-- What a backend offers. -/
def capabilities : BackendKind → Capabilities
  | .e2b => ⟨false, false, false⟩
  | .cloud => ⟨true, true, true⟩

/-- All backends. -/
def all : List BackendKind := [.e2b, .cloud]

end BackendKind

end AgentSandbox
