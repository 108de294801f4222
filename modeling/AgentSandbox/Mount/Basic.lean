/-!
# Storage mounts

A `StorageMount` is declared on a tool: a source in an object store that appears under a path inside
the sandbox.  A `MountOption` changes a declared mount of the same name for one instance: it may move
the mount, descend into a directory of its source, and make it read-only, but it has no way to make
a read-only mount writable.
-/

namespace AgentSandbox

/-- Where the content of a mount lives. -/
inductive StorageSource where
  /-- A directory of a bucket in the cloud object store, at an endpoint of its own if one is given. -/
  | cos (bucketName : String) (bucketPath : String) (endpoint : Option String)
  deriving DecidableEq

/-- The name of the kind of source. -/
def StorageSource.typeName : StorageSource → String
  | .cos .. => "cos"

/-- A mount declared on a tool; a service may report one without its source. -/
structure StorageMount where
  name : String
  mountPath : String
  readOnly : Bool
  source : Option StorageSource
  deriving DecidableEq

/-- What a mount option says about writing: nothing, or that it is not allowed. -/
inductive ReadOnlyOverride where
  | inherit
  | force
  deriving DecidableEq

/-- A change to a declared mount for one instance, found by the name of the mount. -/
structure MountOption where
  name : String
  mountPath : Option String
  subPath : Option String
  readOnly : ReadOnlyOverride
  deriving DecidableEq

/-- Why a specification is no mount or mount option, or why an option does not apply to a mount. -/
inductive MountError where
  | missingType
  | unsupportedType (found : String)
  | missingField (field : String)
  | notAbsolute (field : String)
  | invalidFlag (field : String) (value : String)
  | loosenReadOnly (name : String)
  | nameMismatch (option : String) (mount : String)
  /-- A fault in the part of a specification that only an object store source has. -/
  | source (cause : MountError)
  deriving DecidableEq

/-- The text shown for a mount error. -/
def MountError.message : MountError → String
  | .missingType => "type is required (currently supported: cos)"
  | .unsupportedType found =>
    "unsupported storage type: " ++ found ++ " (currently supported: cos)"
  | .missingField field => field ++ " is required"
  | .notAbsolute field => field ++ " must be absolute path (start with /)"
  | .invalidFlag field value =>
    field ++ " must be a bare flag or true/false, got '" ++ value ++ "'"
  | .loosenReadOnly name =>
    "readonly on mount option '" ++ name ++
      "' can only tighten permissions; omit it to inherit"
  | .nameMismatch option mount =>
    "mount option '" ++ option ++ "' does not apply to mount '" ++ mount ++ "'"
  | .source cause => "cos config error: " ++ cause.message

end AgentSandbox
