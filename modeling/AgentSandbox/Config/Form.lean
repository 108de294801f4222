import AgentSandbox.Config.Basic
import AgentSandbox.Json.Record

/-!
# The JSON form of a configuration

`form` writes a configuration with all its members; `ofDocument?` reads one in which any member may
be missing and then has its default.
-/

namespace AgentSandbox

open Json

namespace HttpConfig

/-- The JSON form of the limits. -/
def form (c : HttpConfig) : Value := .object
  [("timeout_seconds", .nat c.timeoutSeconds),
    ("call_timeout_seconds", .natOrNull c.callTimeoutSeconds)]

/-- The limits that a document gives. -/
def ofDocument? (d : Document) : Option HttpConfig := do
  let fs ← d.fields? ["timeout_seconds", "call_timeout_seconds"]
  let base := HttpConfig.default
  let timeoutSeconds ← fs.orDefault "timeout_seconds" Document.nat? base.timeoutSeconds
  let callTimeoutSeconds ← fs.orDefault "call_timeout_seconds"
    (Document.nullable? Document.nat?) base.callTimeoutSeconds
  some ⟨timeoutSeconds, callTimeoutSeconds⟩

end HttpConfig

namespace E2bConfig

/-- The JSON form of the REST service. -/
def form (c : E2bConfig) : Value := .object
  [("api_key", .text c.apiKey), ("domain", .text c.domain), ("region", .text c.region),
    ("api_url", .textOrNull c.apiUrl), ("execute_url", .textOrNull c.executeUrl)]

/-- The REST service that a document gives. -/
def ofDocument? (d : Document) : Option E2bConfig := do
  let fs ← d.fields? ["api_key", "domain", "region", "api_url", "execute_url"]
  let base := E2bConfig.default
  let apiKey ← fs.orDefault "api_key" Document.text? base.apiKey
  let domain ← fs.orDefault "domain" Document.text? base.domain
  let region ← fs.orDefault "region" Document.text? base.region
  let apiUrl ← fs.orDefault "api_url" (Document.nullable? Document.text?) base.apiUrl
  let executeUrl ← fs.orDefault "execute_url" (Document.nullable? Document.text?) base.executeUrl
  some ⟨apiKey, domain, region, apiUrl, executeUrl⟩

end E2bConfig

namespace CloudConfig

/-- The JSON form of the control plane. -/
def form (c : CloudConfig) : Value := .object
  [("secret_id", .text c.secretId), ("secret_key", .text c.secretKey), ("region", .text c.region),
    ("internal", .bool c.internal), ("endpoint_url", .textOrNull c.endpointUrl),
    ("execute_url", .textOrNull c.executeUrl)]

/-- The control plane that a document gives. -/
def ofDocument? (d : Document) : Option CloudConfig := do
  let fs ← d.fields?
    ["secret_id", "secret_key", "region", "internal", "endpoint_url", "execute_url"]
  let base := CloudConfig.default
  let secretId ← fs.orDefault "secret_id" Document.text? base.secretId
  let secretKey ← fs.orDefault "secret_key" Document.text? base.secretKey
  let region ← fs.orDefault "region" Document.text? base.region
  let internal ← fs.orDefault "internal" Document.bool? base.internal
  let endpointUrl ←
    fs.orDefault "endpoint_url" (Document.nullable? Document.text?) base.endpointUrl
  let executeUrl ← fs.orDefault "execute_url" (Document.nullable? Document.text?) base.executeUrl
  some ⟨secretId, secretKey, region, internal, endpointUrl, executeUrl⟩

end CloudConfig

namespace Config

/-- The JSON form of a configuration. -/
def form (c : Config) : Value := .object
  [("backend", .text c.backend), ("http", c.http.form), ("e2b", c.e2b.form),
    ("cloud", c.cloud.form)]

/-- The configuration that a document gives. -/
def ofDocument? (d : Document) : Option Config := do
  let fs ← d.fields? ["backend", "http", "e2b", "cloud"]
  let base := Config.default
  let backend ← fs.orDefault "backend" Document.text? base.backend
  let http ← fs.orDefault "http" HttpConfig.ofDocument? base.http
  let e2b ← fs.orDefault "e2b" E2bConfig.ofDocument? base.e2b
  let cloud ← fs.orDefault "cloud" CloudConfig.ofDocument? base.cloud
  some ⟨backend, http, e2b, cloud⟩

end Config

end AgentSandbox
