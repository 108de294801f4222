import AgentSandbox.Endpoint
import AgentSandbox.Execution.Form
import AgentSandbox.Model.Form

/-!
# Calls and answers

A `Call` is something that can be asked of a backend, whichever it is, and an `Answer` is what comes
back.  `Call.operation` is the name by which an error speaks of a call.
-/

namespace AgentSandbox

open Json Execution

/-- What can be asked of a backend. -/
inductive Call where
  | createTool (creation : ToolCreation)
  | updateTool (update : ToolUpdate)
  | listTools (query : ToolQuery)
  | getTool (id : String)
  | deleteTool (id : String)
  | createInstance (creation : InstanceCreation)
  | listInstances (query : InstanceQuery)
  | getInstance (id : String)
  | deleteInstance (id : String)
  | execute (id code language : String)
  /-- Like `execute`, with listeners that hear of the output as it arrives. -/
  | executeStream (id code language : String) (listeners : Listeners)
  | accessToken (id : String)
  /-- The URLs of the browser on a port of an instance. -/
  | browserUrls (id : String) (port : Nat)
  | createApiKey (name : String)
  | listApiKeys
  | deleteApiKey (id : String)

/-- The name of the operation that a call is. -/
def Call.operation : Call → String
  | .createTool _ => "CreateTool"
  | .updateTool _ => "UpdateTool"
  | .listTools _ => "ListTools"
  | .getTool _ => "GetTool"
  | .deleteTool _ => "DeleteTool"
  | .createInstance _ => "CreateInstance"
  | .listInstances _ => "ListInstances"
  | .getInstance _ => "GetInstance"
  | .deleteInstance _ => "DeleteInstance"
  | .execute .. => "Execute"
  | .executeStream .. => "ExecuteStream"
  | .accessToken _ => "AccessToken"
  | .browserUrls .. => "AccessToken"
  | .createApiKey _ => "CreateAPIKey"
  | .listApiKeys => "ListAPIKeys"
  | .deleteApiKey _ => "DeleteAPIKey"

/-- What comes back from a backend. -/
inductive Answer where
  | done
  | tool (tool : Tool)
  | tools (page : ToolPage)
  | instanceOf (state : Instance)
  | instances (page : InstancePage)
  | output (output : Output)
  | token (token : Option String)
  | browser (urls : BrowserUrls)
  | createdKey (key : CreatedApiKey)
  | keys (keys : List ApiKey)

/-- The JSON form of browser URLs. -/
def BrowserUrls.form (b : BrowserUrls) : Value :=
  .object [("vnc_url", .text b.vnc), ("cdp_url", .text b.cdp)]

/-- The JSON form of an answer. -/
def Answer.form : Answer → Value
  | .done => .null
  | .tool t => t.form
  | .tools p => p.form
  | .instanceOf i => i.form
  | .instances p => p.form
  | .output o => o.form
  | .token t => .textOrNull t
  | .browser b => b.form
  | .createdKey k => k.form
  | .keys ks => .list (ks.map ApiKey.form)

end AgentSandbox
