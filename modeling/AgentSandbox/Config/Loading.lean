import AgentSandbox.Config.Form
import AgentSandbox.Text.Utf8
import AgentSandbox.Toml.Reader

/-!
# Loading a configuration

A configuration is layered: the defaults, then the file, then the environment.  An `Environment`
binds the names of variables to texts; a variable that is set but empty leaves its member as it is,
except for the one that chooses the internal network, which counts as soon as it is set.
-/

namespace AgentSandbox

/-- The variables of an environment, the first binding of a name being the one that holds. -/
abbrev Environment := List (String × String)

/-- The text of a variable, if it is set. -/
def Environment.get? (env : Environment) (name : String) : Option String :=
  lookup? name env

/-- The text of a variable if it is set and not empty, and else the text given. -/
def Environment.override (env : Environment) (name old : String) : String :=
  (Text.nonEmpty (env.get? name)).getD old

/-- Whether a variable's text says yes. -/
def saysYes (text : String) : Bool :=
  ["1", "true", "TRUE", "True"].contains (Text.trimString text)

namespace Config

/-- The configuration after the variables of an environment. -/
def applyEnvironment (c : Config) (env : Environment) : Config where
  backend := env.override "AGS_BACKEND" c.backend
  http := c.http
  e2b := { c.e2b with
    apiKey := env.override "AGS_E2B_API_KEY" c.e2b.apiKey
    domain := env.override "AGS_E2B_DOMAIN" c.e2b.domain
    region := env.override "AGS_E2B_REGION" c.e2b.region }
  cloud := { c.cloud with
    secretId := env.override "AGS_CLOUD_SECRET_ID" c.cloud.secretId
    secretKey := env.override "AGS_CLOUD_SECRET_KEY" c.cloud.secretKey
    region := env.override "AGS_CLOUD_REGION" c.cloud.region
    internal := ((env.get? "AGS_CLOUD_INTERNAL").map saysYes).getD c.cloud.internal }

/-- The configuration that the text of a file describes. -/
def ofText (text : List Char) : Except Error Config :=
  match (Toml.read? text).bind fun v => ofDocument? v.document with
  | some c => .ok c
  | none => .error .toml

/-- The configuration that the content of a file describes, or the default if there is no file. -/
def ofFile : Option (List UInt8) → Except Error Config
  | none => .ok Config.default
  | some content =>
    match Utf8.decodeStrict? content with
    | some text => ofText text
    | none => .error .io

/-- The configuration that a file, if there is one, and an environment make. -/
def load (file : Option (List UInt8)) (env : Environment) : Except Error Config :=
  (ofFile file).map fun c => c.applyEnvironment env

end Config

end AgentSandbox
