import AgentSandbox.Backend
import AgentSandbox.Error

/-!
# Configuration

A `Config` says which backend to use and how to reach it.  Every member has a default, so a
configuration may be empty; `Config.validate` checks that the chosen backend has its credentials.
-/

namespace AgentSandbox

/-- The time limits of exchanges. -/
structure HttpConfig where
  /-- How long a management request may take. -/
  timeoutSeconds : Nat
  /-- How long a whole call may take, unless it is absent or zero. -/
  callTimeoutSeconds : Option Nat
  deriving DecidableEq

/-- How to reach the REST service. -/
structure E2bConfig where
  apiKey : String
  domain : String
  region : String
  apiUrl : Option String
  executeUrl : Option String
  deriving DecidableEq

/-- How to reach the cloud control plane. -/
structure CloudConfig where
  secretId : String
  secretKey : String
  region : String
  /-- Whether to use the hosts of the internal network. -/
  internal : Bool
  endpointUrl : Option String
  executeUrl : Option String
  deriving DecidableEq

/-- The configuration of a client. -/
structure Config where
  backend : String
  http : HttpConfig
  e2b : E2bConfig
  cloud : CloudConfig
  deriving DecidableEq

/-! ## Defaults -/

/-- The domain below which sandboxes are reached. -/
def publicDomain : String := "tencentags.com"

/-- The region used unless another is chosen. -/
def defaultRegion : String := "ap-guangzhou"

/-- The limits of an empty configuration. -/
def HttpConfig.default : HttpConfig := ⟨60, none⟩

/-- The REST service of an empty configuration. -/
def E2bConfig.default : E2bConfig := ⟨"", publicDomain, defaultRegion, none, none⟩

/-- The control plane of an empty configuration. -/
def CloudConfig.default : CloudConfig := ⟨"", "", defaultRegion, false, none, none⟩

/-- The empty configuration. -/
def Config.default : Config :=
  ⟨BackendKind.e2b.name, HttpConfig.default, E2bConfig.default, CloudConfig.default⟩

/-! ## Where the services are -/

/-- The URL of the REST service, without a solidus at its end. -/
def E2bConfig.apiBaseUrl (c : E2bConfig) : String :=
  match c.apiUrl with
  | some url => Text.dropEndSlashes url
  | none => "https://api." ++ c.region ++ "." ++ c.domain

/-- The host of the control plane. -/
def CloudConfig.controlPlaneEndpoint (c : CloudConfig) : String :=
  if c.internal then "ags.internal.tencentcloudapi.com" else "ags.tencentcloudapi.com"

/-- The domain below which the services of instances are reached. -/
def CloudConfig.dataPlaneDomain (c : CloudConfig) : String :=
  if c.internal then "internal." ++ publicDomain else publicDomain

/-- The URL of the control plane, without a solidus at its end. -/
def CloudConfig.controlPlaneUrl (c : CloudConfig) : String :=
  match c.endpointUrl with
  | some url => Text.dropEndSlashes url
  | none => "https://" ++ c.controlPlaneEndpoint

/-! ## The chosen backend -/

/-- The backend that the configuration chooses. -/
def Config.backendKind (c : Config) : BackendKind := .ofName c.backend

/-- What is missing if the chosen backend has no credentials. -/
def missingCredentials : BackendKind → String
  | .e2b => "E2B API key is required (set AGS_E2B_API_KEY or e2b.api_key in config)"
  | .cloud =>
    "Cloud API credentials are required (set AGS_CLOUD_SECRET_ID/AGS_CLOUD_SECRET_KEY or " ++
      "cloud.secret_id/cloud.secret_key in config)"

/-- Whether the credentials of a backend are all there. -/
def Config.hasCredentials (c : Config) : BackendKind → Bool
  | .e2b => !c.e2b.apiKey.isEmpty
  | .cloud => !c.cloud.secretId.isEmpty && !c.cloud.secretKey.isEmpty

/-- Checks that the chosen backend has its credentials. -/
def Config.validate (c : Config) : Except Error Unit :=
  if c.hasCredentials c.backendKind then .ok ()
  else .error (.config (missingCredentials c.backendKind))

end AgentSandbox
