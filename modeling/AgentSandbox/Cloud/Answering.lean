import AgentSandbox.Json.Record
import AgentSandbox.Model.Basic

/-!
# What the control plane answers

The records of control plane responses.  Every member may be missing or `null`, and then stands for
the empty value of its type: an empty text, list or map, zero, no, the public network, or nothing.
-/

namespace AgentSandbox.Cloud

open Json

variable {α : Type}

/-- A text, empty unless it is given. -/
def textOf (fs : Fields) (name : String) : Option String :=
  (fs.optional name Document.text?).map fun s => s.getD ""

/-- A list, empty unless it is given. -/
def listOf (fs : Fields) (name : String) (decode : Document → Option α) : Option (List α) :=
  (fs.optional name (Document.listOf? decode)).map fun l => l.getD []

/-- The response to a request that is answered with nothing. -/
def unitOfDocument? (d : Document) : Option Unit := (d.fields? []).map fun _ => ()

/-! ## Tools -/

/-- A tag, if it has both a key and a value. -/
def tagOfDocument? (d : Document) : Option (Option (String × String)) := do
  let fs ← d.fields? ["Key", "Value"]
  let key ← fs.optional "Key" Document.text?
  let value ← fs.optional "Value" Document.text?
  some <| key.bind fun k => value.map fun v => (k, v)

/-- A private network. -/
def vpcOfDocument? (d : Document) : Option VpcConfig := do
  let fs ← d.fields? ["SubnetIds", "SecurityGroupIds"]
  let subnetIds ← listOf fs "SubnetIds" Document.text?
  let securityGroupIds ← listOf fs "SecurityGroupIds" Document.text?
  some ⟨subnetIds, securityGroupIds⟩

/-- The mode of a name that may be missing or empty. -/
def modeOf (name : Option String) : NetworkMode :=
  ((Text.nonEmpty name).map NetworkMode.ofName).getD default

/-- A network mode with its private network. -/
def networkOfDocument? (d : Document) : Option (NetworkMode × Option VpcConfig) := do
  let fs ← d.fields? ["NetworkMode", "VpcConfig"]
  let mode ← fs.optional "NetworkMode" Document.text?
  let vpc ← fs.optional "VpcConfig" vpcOfDocument?
  some (modeOf mode, vpc)

/-- A source in the object store. -/
def cosOfDocument? (d : Document) : Option StorageSource := do
  let fs ← d.fields? ["BucketName", "BucketPath", "Endpoint"]
  let bucketName ← textOf fs "BucketName"
  let bucketPath ← textOf fs "BucketPath"
  let endpoint ← fs.optional "Endpoint" Document.text?
  some (.cos bucketName bucketPath (Text.nonEmpty endpoint))

/-- The source of a mount, if it is of a known kind. -/
def sourceOfDocument? (d : Document) : Option (Option StorageSource) := do
  let fs ← d.fields? ["Cos"]
  fs.optional "Cos" cosOfDocument?

/-- A mount. -/
def mountOfDocument? (d : Document) : Option StorageMount := do
  let fs ← d.fields? ["Name", "MountPath", "ReadOnly", "StorageSource"]
  let name ← textOf fs "Name"
  let mountPath ← textOf fs "MountPath"
  let readOnly ← fs.optional "ReadOnly" Document.bool?
  let source ← fs.optional "StorageSource" sourceOfDocument?
  some ⟨name, mountPath, readOnly.getD false, source.join⟩

/-- A tool; a tag without a key or a value is left out, and the last tag of each key wins. -/
def toolOfDocument? (d : Document) : Option Tool := do
  let fs ← d.fields?
    ["ToolId", "ToolName", "ToolType", "Description", "NetworkConfiguration", "Tags", "RoleArn",
      "StorageMounts", "CreateTime"]
  let id ← textOf fs "ToolId"
  let name ← textOf fs "ToolName"
  let toolType ← textOf fs "ToolType"
  let description ← textOf fs "Description"
  let network ← fs.optional "NetworkConfiguration" networkOfDocument?
  let tags ← listOf fs "Tags" tagOfDocument?
  let roleArn ← fs.optional "RoleArn" Document.text?
  let storageMounts ← listOf fs "StorageMounts" mountOfDocument?
  let createdAt ← textOf fs "CreateTime"
  let (mode, vpc) := network.getD (modeOf none, none)
  some ⟨id, name, toolType, description, mode, vpc, Dictionary.ofList (tags.filterMap fun tag => tag),
    Text.nonEmpty roleArn, storageMounts, createdAt⟩

/-- A page of tools. -/
def toolPageOfDocument? (d : Document) : Option ToolPage := do
  let fs ← d.fields? ["SandboxToolSet", "TotalCount"]
  let tools ← listOf fs "SandboxToolSet" toolOfDocument?
  let totalCount ← fs.optional "TotalCount" Document.nat?
  some ⟨tools, totalCount.getD 0⟩

/-- The id of a new tool. -/
def toolIdOfDocument? (d : Document) : Option String := do
  let fs ← d.fields? ["ToolId"]
  textOf fs "ToolId"

/-! ## Instances -/

/-- An instance; the service says nothing of its token and its domain. -/
def instanceOfDocument? (d : Document) : Option Instance := do
  let fs ← d.fields? ["InstanceId", "ToolId", "ToolName", "Status", "CreateTime"]
  let id ← textOf fs "InstanceId"
  let toolId ← textOf fs "ToolId"
  let toolName ← textOf fs "ToolName"
  let status ← textOf fs "Status"
  let createdAt ← textOf fs "CreateTime"
  some ⟨id, toolId, toolName, status, createdAt, none, none⟩

/-- An instance of which nothing is known. -/
def unknownInstance : Instance := ⟨"", "", "", "", "", none, none⟩

/-- A new instance. -/
def startedOfDocument? (d : Document) : Option Instance := do
  let fs ← d.fields? ["Instance"]
  let i ← fs.optional "Instance" instanceOfDocument?
  some (i.getD unknownInstance)

/-- A page of instances. -/
def instancePageOfDocument? (d : Document) : Option InstancePage := do
  let fs ← d.fields? ["InstanceSet", "TotalCount"]
  let instances ← listOf fs "InstanceSet" instanceOfDocument?
  let totalCount ← fs.optional "TotalCount" Document.nat?
  some ⟨instances, totalCount.getD 0⟩

/-- The token of an instance, if it is given and not empty. -/
def tokenOfDocument? (d : Document) : Option (Option String) := do
  let fs ← d.fields? ["Token"]
  let token ← fs.optional "Token" Document.text?
  some (Text.nonEmpty token)

/-! ## Keys -/

/-- A new key. -/
def createdKeyOfDocument? (d : Document) : Option CreatedApiKey := do
  let fs ← d.fields? ["KeyId", "Name", "APIKey"]
  let keyId ← textOf fs "KeyId"
  let name ← textOf fs "Name"
  let apiKey ← textOf fs "APIKey"
  some ⟨keyId, name, apiKey⟩

/-- A key. -/
def keyOfDocument? (d : Document) : Option ApiKey := do
  let fs ← d.fields? ["KeyId", "Name", "Status", "MaskedKey", "CreatedAt"]
  let keyId ← textOf fs "KeyId"
  let name ← textOf fs "Name"
  let status ← textOf fs "Status"
  let maskedKey ← textOf fs "MaskedKey"
  let createdAt ← textOf fs "CreatedAt"
  some ⟨keyId, name, status, maskedKey, createdAt⟩

/-- All keys. -/
def keysOfDocument? (d : Document) : Option (List ApiKey) := do
  let fs ← d.fields? ["APIKeySet"]
  listOf fs "APIKeySet" keyOfDocument?

end AgentSandbox.Cloud
