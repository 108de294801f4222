import AgentSandbox.Json.Record
import AgentSandbox.Model.Basic

/-!
# The records of the REST service

What the REST service is asked and what it answers.  Every member of an answer may be missing or
`null`; a sandbox that is listed is taken to be running, because the service does not say.
-/

namespace AgentSandbox.E2b

open Json

/-- The template of a sandbox for which none is chosen. -/
def defaultTemplate : String := "code-interpreter-v1"

/-- The seconds that a sandbox lives unless another time is chosen. -/
def defaultLifetime : Nat := 300

/-- The status of every sandbox. -/
def assumedStatus : String := "running"

/-- The template of a new sandbox: the name of the tool, or else its id, or else the usual one. -/
def template (c : InstanceCreation) : String :=
  (Text.nonEmpty c.toolName).getD ((Text.nonEmpty c.toolId).getD defaultTemplate)

/-- The seconds that a new sandbox lives. -/
def lifetime (c : InstanceCreation) : Nat :=
  (c.timeoutSeconds.filter (0 < ·)).getD defaultLifetime

/-- What is sent to make a sandbox. -/
def creationBody (c : InstanceCreation) : Value :=
  .object [("templateID", .text (template c)), ("timeout", .nat (lifetime c))]

/-- What the service says of a new sandbox: its id and the token that opens it. -/
structure Created where
  id : Option String
  token : Option String
  deriving DecidableEq

/-- The new sandbox that a document gives. -/
def Created.ofDocument? (d : Document) : Option Created := do
  let fs ← d.fields? ["sandboxID", "envdAccessToken"]
  let id ← fs.optional "sandboxID" Document.text?
  let token ← fs.optional "envdAccessToken" Document.text?
  some ⟨Text.nonEmpty id, Text.nonEmpty token⟩

/-- A sandbox that is listed. -/
def listed (id template name startedAt : Option String) : Instance where
  id := id.getD ""
  toolId := template.getD ""
  toolName := (Text.nonEmpty name).getD (template.getD "")
  status := assumedStatus
  createdAt := startedAt.getD ""
  accessToken := none
  domain := none

/-- The listed sandbox that a document gives. -/
def listedOfDocument? (d : Document) : Option Instance := do
  let fs ← d.fields? ["sandboxID", "templateID", "alias", "startedAt"]
  let id ← fs.optional "sandboxID" Document.text?
  let template ← fs.optional "templateID" Document.text?
  let name ← fs.optional "alias" Document.text?
  let startedAt ← fs.optional "startedAt" Document.text?
  some (listed id template name startedAt)

/-! ## Choosing among the listed sandboxes -/

/-- Whether a sandbox satisfies a query. -/
def matchesQuery (q : InstanceQuery) (i : Instance) : Bool :=
  if q.instanceIds.isEmpty then
    q.toolId.all (i.toolId = ·) && q.status.all (i.status = ·)
  else q.instanceIds.contains i.id

/-- The page of the listed sandboxes that a query asks for; a query by id has no pages. -/
def pageOf (q : InstanceQuery) (is : List Instance) : InstancePage :=
  let found := is.filter (matchesQuery q)
  let page :=
    if q.instanceIds.isEmpty then
      let rest := found.drop (q.offset.getD 0)
      (q.limit.map fun n => rest.take n).getD rest
    else found
  ⟨page, found.length⟩

end AgentSandbox.E2b
