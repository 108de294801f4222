import AgentSandbox.Json.Record
import AgentSandbox.Model.Basic

/-!
# The JSON form of the model

Every record of the model has a JSON form with fixed field names: `form` writes it and
`ofDocument?` reads it, from a record or from a list of the fields in order.
-/

namespace AgentSandbox

open Json

/-! ## Mounts -/

namespace StorageSource

/-- The JSON form of a source, marked with its type. -/
def form : StorageSource → Value
  | .cos bucketName bucketPath endpoint => .object
      [("type", .text "cos"), ("bucket_name", .text bucketName), ("bucket_path", .text bucketPath),
        ("endpoint", .textOrNull endpoint)]

/-- The source that a document gives.  The whole document must have a meaning, because the type may
stand behind the fields that it governs. -/
def ofDocument? (d : Document) : Option StorageSource := do
  let _ ← d.value?
  let fs ← d.fields? ["type", "bucket_name", "bucket_path", "endpoint"]
  let type ← fs.required "type" Document.text?
  if type = "cos" then
    let bucketName ← fs.required "bucket_name" Document.text?
    let bucketPath ← fs.required "bucket_path" Document.text?
    let endpoint ← fs.nullable "endpoint" Document.text?
    some (.cos bucketName bucketPath endpoint)
  else none

end StorageSource

namespace StorageMount

/-- The JSON form of a mount. -/
def form (m : StorageMount) : Value := .object
  [("name", .text m.name), ("mount_path", .text m.mountPath), ("read_only", .bool m.readOnly),
    ("source", (m.source.map StorageSource.form).getD .null)]

/-- The mount that a document gives. -/
def ofDocument? (d : Document) : Option StorageMount := do
  let fs ← d.fields? ["name", "mount_path", "read_only", "source"]
  let name ← fs.required "name" Document.text?
  let mountPath ← fs.required "mount_path" Document.text?
  let readOnly ← fs.required "read_only" Document.bool?
  let source ← fs.nullable "source" StorageSource.ofDocument?
  some ⟨name, mountPath, readOnly, source⟩

end StorageMount

namespace ReadOnlyOverride

/-- The name of an override. -/
def name : ReadOnlyOverride → String
  | .inherit => "inherit"
  | .force => "force"

/-- The override of a name. -/
def ofName? (name : String) : Option ReadOnlyOverride :=
  if name = "inherit" then some .inherit else if name = "force" then some .force else none

/-- The JSON form of an override. -/
def form (r : ReadOnlyOverride) : Value := .text r.name

/-- The override that a document gives, by its name or as a record that binds its name to `null`. -/
def ofDocument? : Document → Option ReadOnlyOverride
  | .text name => ofName? name
  | .record [(some name, .null)] => ofName? name
  | _ => none

end ReadOnlyOverride

namespace MountOption

/-- The JSON form of a mount option. -/
def form (o : MountOption) : Value := .object
  [("name", .text o.name), ("mount_path", .textOrNull o.mountPath),
    ("sub_path", .textOrNull o.subPath), ("read_only", o.readOnly.form)]

/-- The mount option that a document gives. -/
def ofDocument? (d : Document) : Option MountOption := do
  let fs ← d.fields? ["name", "mount_path", "sub_path", "read_only"]
  let name ← fs.required "name" Document.text?
  let mountPath ← fs.nullable "mount_path" Document.text?
  let subPath ← fs.nullable "sub_path" Document.text?
  let readOnly ← fs.required "read_only" ReadOnlyOverride.ofDocument?
  some ⟨name, mountPath, subPath, readOnly⟩

end MountOption

/-! ## Tools, instances and keys -/

namespace NetworkMode

/-- The JSON form of a mode. -/
def form (m : NetworkMode) : Value := .text m.name

/-- The mode that a document gives. -/
def ofDocument? (d : Document) : Option NetworkMode := d.text?.map ofName

end NetworkMode

namespace VpcConfig

/-- The JSON form of a private network. -/
def form (v : VpcConfig) : Value := .object
  [("subnet_ids", .texts v.subnetIds), ("security_group_ids", .texts v.securityGroupIds)]

/-- The private network that a document gives. -/
def ofDocument? (d : Document) : Option VpcConfig := do
  let fs ← d.fields? ["subnet_ids", "security_group_ids"]
  let subnetIds ← fs.required "subnet_ids" (Document.listOf? Document.text?)
  let securityGroupIds ← fs.required "security_group_ids" (Document.listOf? Document.text?)
  some ⟨subnetIds, securityGroupIds⟩

end VpcConfig

namespace Tool

/-- The JSON form of a tool. -/
def form (t : Tool) : Value := .object
  [("id", .text t.id), ("name", .text t.name), ("tool_type", .text t.toolType),
    ("description", .text t.description), ("network_mode", t.networkMode.form),
    ("vpc_config", (t.vpcConfig.map VpcConfig.form).getD .null),
    ("tags", .textObject t.tags), ("role_arn", .textOrNull t.roleArn),
    ("storage_mounts", .list (t.storageMounts.map StorageMount.form)),
    ("created_at", .text t.createdAt)]

/-- The tool that a document gives. -/
def ofDocument? (d : Document) : Option Tool := do
  let fs ← d.fields?
    ["id", "name", "tool_type", "description", "network_mode", "vpc_config", "tags", "role_arn",
      "storage_mounts", "created_at"]
  let id ← fs.required "id" Document.text?
  let name ← fs.required "name" Document.text?
  let toolType ← fs.required "tool_type" Document.text?
  let description ← fs.required "description" Document.text?
  let networkMode ← fs.required "network_mode" NetworkMode.ofDocument?
  let vpcConfig ← fs.nullable "vpc_config" VpcConfig.ofDocument?
  let tags ← fs.required "tags" (Document.mapOf? Document.text?)
  let roleArn ← fs.nullable "role_arn" Document.text?
  let storageMounts ←
    fs.required "storage_mounts" (Document.listOf? StorageMount.ofDocument?)
  let createdAt ← fs.required "created_at" Document.text?
  some ⟨id, name, toolType, description, networkMode, vpcConfig, tags, roleArn, storageMounts,
    createdAt⟩

end Tool

namespace Instance

/-- The JSON form of an instance. -/
def form (i : Instance) : Value := .object
  [("id", .text i.id), ("tool_id", .text i.toolId), ("tool_name", .text i.toolName),
    ("status", .text i.status), ("created_at", .text i.createdAt),
    ("access_token", .textOrNull i.accessToken), ("domain", .textOrNull i.domain)]

/-- The instance that a document gives. -/
def ofDocument? (d : Document) : Option Instance := do
  let fs ← d.fields?
    ["id", "tool_id", "tool_name", "status", "created_at", "access_token", "domain"]
  let id ← fs.required "id" Document.text?
  let toolId ← fs.required "tool_id" Document.text?
  let toolName ← fs.required "tool_name" Document.text?
  let status ← fs.required "status" Document.text?
  let createdAt ← fs.required "created_at" Document.text?
  let accessToken ← fs.nullable "access_token" Document.text?
  let domain ← fs.nullable "domain" Document.text?
  some ⟨id, toolId, toolName, status, createdAt, accessToken, domain⟩

end Instance

namespace ApiKey

/-- The JSON form of a key. -/
def form (k : ApiKey) : Value := .object
  [("key_id", .text k.keyId), ("name", .text k.name), ("status", .text k.status),
    ("masked_key", .text k.maskedKey), ("created_at", .text k.createdAt)]

/-- The key that a document gives. -/
def ofDocument? (d : Document) : Option ApiKey := do
  let fs ← d.fields? ["key_id", "name", "status", "masked_key", "created_at"]
  let keyId ← fs.required "key_id" Document.text?
  let name ← fs.required "name" Document.text?
  let status ← fs.required "status" Document.text?
  let maskedKey ← fs.required "masked_key" Document.text?
  let createdAt ← fs.required "created_at" Document.text?
  some ⟨keyId, name, status, maskedKey, createdAt⟩

end ApiKey

namespace CreatedApiKey

/-- The JSON form of a key with its secret. -/
def form (k : CreatedApiKey) : Value := .object
  [("key_id", .text k.keyId), ("name", .text k.name), ("api_key", .text k.apiKey)]

/-- The key with its secret that a document gives. -/
def ofDocument? (d : Document) : Option CreatedApiKey := do
  let fs ← d.fields? ["key_id", "name", "api_key"]
  let keyId ← fs.required "key_id" Document.text?
  let name ← fs.required "name" Document.text?
  let apiKey ← fs.required "api_key" Document.text?
  some ⟨keyId, name, apiKey⟩

end CreatedApiKey

/-! ## Pages -/

/-- The JSON form of a page of tools. -/
def ToolPage.form (p : ToolPage) : Value := .object
  [("tools", .list (p.tools.map Tool.form)), ("total_count", .nat p.totalCount)]

/-- The JSON form of a page of instances. -/
def InstancePage.form (p : InstancePage) : Value := .object
  [("instances", .list (p.instances.map Instance.form)), ("total_count", .nat p.totalCount)]

end AgentSandbox
