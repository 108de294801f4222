/-!
# Help for specifications

The two texts that explain how a mount and a mount option are specified.
-/

namespace AgentSandbox.Mount

/-- The explanation of mount specifications. -/
def mountHelp : String := "\n".intercalate [
  "Storage mount configuration in key=value format.",
  "",
  "COS storage format:",
  "  type=cos,name=<name>,bucket=<bucket>,src=<source-path>,dst=<target-path>" ++
    "[,readonly][,endpoint=<endpoint>]",
  "",
  "Parameters:",
  "  type      Storage type (required): cos",
  "  name      Mount name, DNS-1123 format (required)",
  "  bucket    COS bucket name (required for cos)",
  "  src       Source path in bucket, must start with / (required for cos)",
  "  dst       Target mount path in container, must start with / (required)",
  "  readonly  Mount as read-only (optional flag)",
  "  endpoint  COS endpoint (optional, defaults to current region)",
  "",
  "Examples:",
  "  --mount \"type=cos,name=data,bucket=my-bucket-1250000000,src=/data,dst=/mnt/data\"",
  "  --mount \"type=cos,name=models,bucket=model-bucket,src=/models,dst=/mnt/models,readonly\""]

/-- The explanation of mount option specifications. -/
def optionHelp : String := "\n".intercalate [
  "Mount option to override tool storage configuration.",
  "",
  "Format:",
  "  name=<name>[,dst=<target-path>][,subpath=<sub-path>][,readonly]",
  "",
  "Parameters:",
  "  name      Storage mount name defined in tool (required)",
  "  dst       Override target mount path in container (optional)",
  "  subpath   Sub-directory isolation path (optional)",
  "  readonly  Force read-only mount (optional, can only tighten permissions)",
  "",
  "Examples:",
  "  --mount-option \"name=data,dst=/workspace,subpath=user-123\"",
  "  --mount-option \"name=models,readonly\""]

end AgentSandbox.Mount
