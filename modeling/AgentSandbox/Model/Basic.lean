import AgentSandbox.Dictionary
import AgentSandbox.Mount.Basic
import AgentSandbox.Text.Blank

/-!
# Tools, instances and keys

The records that every backend speaks of.  A `Tool` is a template from which sandboxes are made, an
`Instance` is a running sandbox, and an `ApiKey` is a credential for the execution service.  A
`NetworkMode` that this library does not know is kept as it was reported.
-/

namespace AgentSandbox

/-- How a sandbox is connected. -/
inductive NetworkMode where
  | isPublic
  | vpc
  | sandbox
  | internalService
  | other (name : String)
  deriving DecidableEq

namespace NetworkMode

instance : Inhabited NetworkMode := ⟨.isPublic⟩

/-- The name of a mode. -/
def name : NetworkMode → String
  | .isPublic => "PUBLIC"
  | .vpc => "VPC"
  | .sandbox => "SANDBOX"
  | .internalService => "INTERNAL_SERVICE"
  | .other name => name

/-- The mode of a known name. -/
def known? (name : String) : Option NetworkMode :=
  if name = "PUBLIC" then some .isPublic
  else if name = "VPC" then some .vpc
  else if name = "SANDBOX" then some .sandbox
  else if name = "INTERNAL_SERVICE" then some .internalService
  else none

/-- The mode of any name: an unknown one is kept. -/
def ofName (name : String) : NetworkMode :=
  (known? name).getD (.other name)

/-- The name as it is looked up when a user types it: trimmed and in upper case. -/
def normalName (input : String) : String :=
  Text.upperAscii (Text.trimString input)

/-- The known mode that a user's text names. -/
def parse? (input : String) : Option NetworkMode :=
  known? (normalName input)

theorem name_ofName (name : String) : (ofName name).name = name := by
  unfold ofName known?
  split
  · next h => exact h.symm
  · split
    · next h => exact h.symm
    · split
      · next h => exact h.symm
      · split
        · next h => exact h.symm
        · rfl

end NetworkMode

/-- The private network of a tool. -/
structure VpcConfig where
  subnetIds : List String
  securityGroupIds : List String
  deriving DecidableEq

/-- A template for sandboxes. -/
structure Tool where
  id : String
  name : String
  toolType : String
  description : String
  networkMode : NetworkMode
  vpcConfig : Option VpcConfig
  tags : Dictionary String
  roleArn : Option String
  storageMounts : List StorageMount
  createdAt : String
  deriving DecidableEq

/-- A running sandbox. -/
structure Instance where
  id : String
  toolId : String
  toolName : String
  status : String
  createdAt : String
  accessToken : Option String
  /-- The domain below which the services of the instance are found. -/
  domain : Option String
  deriving DecidableEq

/-- A key, without its secret. -/
structure ApiKey where
  keyId : String
  name : String
  status : String
  maskedKey : String
  createdAt : String
  deriving DecidableEq

/-- A key that was just made, with its secret, which is shown only now. -/
structure CreatedApiKey where
  keyId : String
  name : String
  apiKey : String
  deriving DecidableEq

/-! ## What is asked of a backend -/

/-- The fields of a tool to be made. -/
structure ToolCreation where
  name : String
  toolType : String
  description : Option String
  networkMode : Option NetworkMode
  vpcConfig : Option VpcConfig
  defaultTimeout : Option String
  tags : Dictionary String
  roleArn : Option String
  storageMounts : List StorageMount

/-- A change to a tool; what is absent stays as it is. -/
structure ToolUpdate where
  toolId : String
  description : Option String
  networkMode : Option NetworkMode
  tags : Option (Dictionary String)

/-- Which tools to list: those with the given ids, or else those that satisfy every criterion. -/
structure ToolQuery where
  toolIds : List String
  offset : Option Nat
  limit : Option Nat
  status : Option String
  toolType : Option String
  createdSince : Option String
  createdSinceTime : Option String
  tags : Dictionary String

/-- The query for one tool. -/
def ToolQuery.one (id : String) : ToolQuery :=
  ⟨[id], none, none, none, none, none, none, .empty⟩

/-- A page of tools and the number of all that match. -/
structure ToolPage where
  tools : List Tool
  totalCount : Nat
  deriving DecidableEq

/-- The fields of an instance to be started. -/
structure InstanceCreation where
  toolId : Option String
  toolName : Option String
  timeoutSeconds : Option Nat
  mountOptions : List MountOption

/-- Which instances to list: those with the given ids, or else those that satisfy every criterion. -/
structure InstanceQuery where
  instanceIds : List String
  toolId : Option String
  status : Option String
  offset : Option Nat
  limit : Option Nat

/-- The query for one instance. -/
def InstanceQuery.one (id : String) : InstanceQuery :=
  ⟨[id], none, none, none, none⟩

/-- A page of instances and the number of all that match. -/
structure InstancePage where
  instances : List Instance
  totalCount : Nat
  deriving DecidableEq

end AgentSandbox
