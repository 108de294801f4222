import AgentSandbox.Cloud.Answering
import AgentSandbox.Cloud.Asking
import AgentSandbox.Cloud.Backend
import AgentSandbox.Endpoint
import AgentSandbox.Execution.Service

/-!
# The operations of the control plane

Tools, instances and keys are managed by one action each; looking something up is a query for its
id.  To run code in an instance, a token is asked for first, every time.
-/

namespace AgentSandbox.CloudBackend

open Cloud

/-! ## Tools -/

/-- The page of tools that a query asks for. -/
def listTools (b : CloudBackend) (q : ToolQuery) : Action ToolPage :=
  b.call "failed to list tools" "DescribeSandboxToolList" (toolQueryBody q) toolPageOfDocument?

/-- The tool with an id. -/
def getTool (b : CloudBackend) (id : String) : Action Tool := do
  let page ← b.listTools (.one id)
  match page.tools.head? with
  | some t => pure t
  | none => .fail (.notFound "tool" id)

/-- The tool that was made, with the id that the service gave it. -/
def madeTool (c : ToolCreation) (id : String) : Tool where
  id := id
  name := c.name
  toolType := c.toolType
  description := c.description.getD ""
  networkMode := c.networkMode.getD default
  vpcConfig := c.vpcConfig
  tags := c.tags
  roleArn := c.roleArn
  storageMounts := c.storageMounts
  createdAt := ""

/-- Makes a tool, which must have a name and a type. -/
def createTool (b : CloudBackend) (c : ToolCreation) : Action Tool :=
  if c.name.isEmpty then .fail (.invalidArgument "name" "tool name is required")
  else if c.toolType.isEmpty then .fail (.invalidArgument "type" "tool type is required")
  else do
    let id ← b.call "failed to create tool" "CreateSandboxTool" (toolCreationBody c)
      toolIdOfDocument?
    pure (madeTool c id)

/-- Changes a tool. -/
def updateTool (b : CloudBackend) (u : ToolUpdate) : Action Unit :=
  b.call "failed to update tool" "UpdateSandboxTool" (toolUpdateBody u) unitOfDocument?

/-- Deletes a tool. -/
def deleteTool (b : CloudBackend) (id : String) : Action Unit :=
  b.call "failed to delete tool" "DeleteSandboxTool" (toolBody id) unitOfDocument?

/-! ## Instances -/

/-- The domain below which the services of instances are found. -/
def domain (b : CloudBackend) : String := b.config.region ++ "." ++ b.config.dataPlaneDomain

/-- The instance with the domain of its services. -/
def withDomain (b : CloudBackend) (i : Instance) : Instance := { i with domain := some b.domain }

/-- Starts an instance. -/
def createInstance (b : CloudBackend) (c : InstanceCreation) : Action Instance := do
  let i ← b.call "failed to create instance" "StartSandboxInstance" (instanceCreationBody c)
    startedOfDocument?
  pure (b.withDomain i)

/-- The page of instances that a query asks for. -/
def listInstances (b : CloudBackend) (q : InstanceQuery) : Action InstancePage :=
  b.call "failed to list instances" "DescribeSandboxInstanceList" (instanceQueryBody q)
    instancePageOfDocument?

/-- The instance with an id. -/
def getInstance (b : CloudBackend) (id : String) : Action Instance := do
  let page ← b.listInstances (.one id)
  match page.instances.head? with
  | some i => pure (b.withDomain i)
  | none => .fail (.notFound "instance" id)

/-- Stops an instance. -/
def deleteInstance (b : CloudBackend) (id : String) : Action Unit :=
  b.call "failed to delete instance" "StopSandboxInstance" (instanceBody id) unitOfDocument?

/-- What an error of asking for a token is about. -/
def tokenContext : String := "failed to acquire instance token"

/-- Asks for a token that opens the services of an instance. -/
def acquireToken (b : CloudBackend) (id : String) : Action String := do
  let token ← b.call tokenContext "AcquireSandboxInstanceToken" (instanceBody id) tokenOfDocument?
  match token with
  | some t => pure t
  | none =>
    .fail (.inContext tokenContext (.incomplete "AcquireSandboxInstanceToken" "Token"))

/-- The URL below which the execution service of an instance is found. -/
def executionBase (b : CloudBackend) (id : String) : String :=
  b.config.executeUrl.getD
    (serviceUrl executionPort id b.config.region b.config.dataPlaneDomain)

/-- Runs code in an instance, with a token asked for this once. -/
def execute (b : CloudBackend) (id code language : String) (l : Execution.Listeners) :
    Action Execution.Output := do
  let token ← b.acquireToken id
  Execution.execute (b.executionBase id) (some token) code language l

/-- The host of the service on a port of an instance. -/
def instanceHost (b : CloudBackend) (port : Nat) (id : String) : String :=
  serviceHost port id b.config.region b.config.dataPlaneDomain

/-! ## Keys -/

/-- Makes a key, whose secret is given this once. -/
def createKey (b : CloudBackend) (name : String) : Action CreatedApiKey :=
  b.call "failed to create API key" "CreateAPIKey" (keyCreationBody name) createdKeyOfDocument?

/-- All keys. -/
def listKeys (b : CloudBackend) : Action (List ApiKey) :=
  b.call "failed to list API keys" "DescribeAPIKeyList" (.object []) keysOfDocument?

/-- Deletes a key. -/
def deleteKey (b : CloudBackend) (id : String) : Action Unit :=
  b.call "failed to delete API key" "DeleteAPIKey" (keyBody id) unitOfDocument?

end AgentSandbox.CloudBackend
