import AgentSandbox.Json.Value
import AgentSandbox.Model.Basic

/-!
# What the control plane is asked

The body of each control plane request.  A member that has nothing to say is left out: an empty text,
an empty list and a zero where zero means no restriction.  Only an update says what it says: an empty
description or no tags at all are sent, because they change the tool.
-/

namespace AgentSandbox.Cloud

open Json

/-- A text, unless it is absent or empty. -/
def textGiven (s : Option String) : Option Value :=
  (Text.nonEmpty s).map .text

/-- A number, unless it is absent or zero. -/
def natGiven (n : Option Nat) : Option Value :=
  (n.filter (0 < ·)).map .nat

/-- A list of texts, unless it is empty. -/
def textsGiven (ss : List String) : Option Value :=
  if ss.isEmpty then none else some (.texts ss)

/-- A list of records, unless it is empty. -/
def listGiven {α : Type} (form : α → Value) (as : List α) : Option Value :=
  if as.isEmpty then none else some (.list (as.map form))

/-- An object of the members that are given. -/
def record (ms : List (String × Option Value)) : Value := .object (givenMembers ms)

/-! ## Parts of tools -/

/-- One tag. -/
def tagForm (tag : String × String) : Value :=
  record [("Key", some (.text tag.1)), ("Value", some (.text tag.2))]

/-- The tags in the order of their keys. -/
def tagsForm (tags : Dictionary String) : Value := .list (tags.entries.map tagForm)

/-- A private network. -/
def vpcForm (v : VpcConfig) : Value :=
  record [("SubnetIds", textsGiven v.subnetIds), ("SecurityGroupIds", textsGiven v.securityGroupIds)]

/-- A network mode with its private network. -/
def networkForm (mode : NetworkMode) (vpc : Option VpcConfig) : Value :=
  record [("NetworkMode", some (.text mode.name)), ("VpcConfig", vpc.map vpcForm)]

/-- The source of a mount. -/
def sourceForm : StorageSource → Value
  | .cos bucketName bucketPath endpoint =>
    record [("Cos", some (record
      [("BucketName", some (.text bucketName)), ("BucketPath", some (.text bucketPath)),
        ("Endpoint", textGiven endpoint)]))]

/-- A mount. -/
def mountForm (m : StorageMount) : Value :=
  record
    [("Name", some (.text m.name)), ("MountPath", some (.text m.mountPath)),
      ("ReadOnly", some (.bool m.readOnly)), ("StorageSource", m.source.map sourceForm)]

/-- A mount option; a flag that is inherited is left out. -/
def mountOptionForm (o : MountOption) : Value :=
  record
    [("Name", some (.text o.name)), ("MountPath", o.mountPath.map .text),
      ("SubPath", o.subPath.map .text),
      ("ReadOnly", if o.readOnly = .force then some (.bool true) else none)]

/-! ## Queries -/

/-- A criterion that has one of some values, here always one. -/
def criterion (name value : String) : Value :=
  record [("Name", some (.text name)), ("Values", some (.texts [value]))]

/-- A criterion, unless its value is absent or empty. -/
def criterionGiven (name : String) (value : Option String) : List Value :=
  ((Text.nonEmpty value).map (criterion name)).toList

/-- The criteria of a query for tools. -/
def toolCriteria (q : ToolQuery) : List Value :=
  criterionGiven "Status" q.status ++ criterionGiven "ToolType" q.toolType ++
    criterionGiven "created-since" q.createdSince ++
    criterionGiven "created-since-time" q.createdSinceTime ++
    q.tags.entries.map fun tag => criterion ("tag:" ++ tag.1) tag.2

/-- The criteria of a query for instances. -/
def instanceCriteria (q : InstanceQuery) : List Value :=
  criterionGiven "ToolId" q.toolId ++ criterionGiven "Status" q.status

/-- The body of a query: ids, or else a page and criteria. -/
def queryBody (idsName : String) (ids : List String) (offset limit : Option Nat)
    (criteria : List Value) : Value :=
  if ids.isEmpty then
    record
      [("Offset", natGiven offset), ("Limit", natGiven limit), ("Filters", listGiven id criteria)]
  else record [(idsName, some (.texts ids))]

/-- The query for tools. -/
def toolQueryBody (q : ToolQuery) : Value :=
  queryBody "ToolIds" q.toolIds q.offset q.limit (toolCriteria q)

/-- The query for instances. -/
def instanceQueryBody (q : InstanceQuery) : Value :=
  queryBody "InstanceIds" q.instanceIds q.offset q.limit (instanceCriteria q)

/-! ## Changes -/

/-- The tool to be made.  A private network is sent only with the mode that uses it. -/
def toolCreationBody (c : ToolCreation) : Value :=
  let mode := c.networkMode.getD default
  let vpc := if mode = .vpc then c.vpcConfig else none
  record
    [("ToolName", some (.text c.name)), ("ToolType", some (.text c.toolType)),
      ("NetworkConfiguration", some (networkForm mode vpc)),
      ("Description", textGiven c.description), ("DefaultTimeout", textGiven c.defaultTimeout),
      ("Tags", if c.tags.entries.isEmpty then none else some (tagsForm c.tags)),
      ("RoleArn", textGiven c.roleArn), ("StorageMounts", listGiven mountForm c.storageMounts)]

/-- The change to a tool. -/
def toolUpdateBody (u : ToolUpdate) : Value :=
  record
    [("ToolId", some (.text u.toolId)), ("Description", u.description.map .text),
      ("NetworkConfiguration", u.networkMode.map fun mode => networkForm mode none),
      ("Tags", u.tags.map tagsForm)]

/-- The tool to be deleted. -/
def toolBody (id : String) : Value := .object [("ToolId", .text id)]

/-- The instance to be started; its lifetime is given in seconds. -/
def instanceCreationBody (c : InstanceCreation) : Value :=
  record
    [("ToolId", textGiven c.toolId), ("ToolName", textGiven c.toolName),
      ("Timeout", (c.timeoutSeconds.filter (0 < ·)).map fun s => .text (toString s ++ "s")),
      ("MountOptions", listGiven mountOptionForm c.mountOptions)]

/-- The instance to be stopped, or whose token is asked for. -/
def instanceBody (id : String) : Value := .object [("InstanceId", .text id)]

/-- The key to be made. -/
def keyCreationBody (name : String) : Value := .object [("Name", .text name)]

/-- The key to be deleted. -/
def keyBody (id : String) : Value := .object [("KeyId", .text id)]

end AgentSandbox.Cloud
