import AgentSandbox.Execution.Output
import AgentSandbox.Mount.Basic
import AgentSandbox.Status

/-!
# Errors

Why a call failed.  An `Error` is a cause inside any number of contexts, each naming what was being
done.  `Error.root` is the cause, the three predicates and `partialOutput?` look at it only, and
`Error.message` puts the contexts in front of it.  Where a message would go on with the words of a
decoder or of the transport, it ends with a mark in angle brackets.
-/

namespace AgentSandbox

/-- Why an exchange with a remote service failed. -/
inductive TransportFault where
  /-- The request cannot be written: its URL or a header is not valid. -/
  | unwritable
  /-- No answer came in the time allowed for the request. -/
  | timeout
  /-- There was no connection, or it was closed. -/
  | disconnected
  deriving DecidableEq

/-- The mark of a transport fault in a message. -/
def TransportFault.mark : TransportFault → String
  | .unwritable => "<http:builder>"
  | .timeout => "<http:timeout>"
  | .disconnected => "<http>"

/-- Why a call failed. -/
inductive Error where
  | config (text : String)
  | toml
  | unsupported (operation backend alternative : String)
  | notFound (kind id : String)
  | invalidArgument (field reason : String)
  | mount (fault : MountError)
  /-- A reply whose status the call does not accept. -/
  | api (context : String) (status : Nat) (body : String)
  /-- A reply that reports an error of the service. -/
  | service (action code text requestId : String)
  /-- A reply that is not of the expected form. -/
  | decode (context : String)
  /-- A reply without a field that the call needs. -/
  | incomplete (context field : String)
  /-- An execution whose stream broke, with its output so far. -/
  | interrupted (reason : String) (output : Execution.Output)
  | signing (text : String)
  | cancelled (operation : String)
  | deadline (operation : String) (seconds : Nat)
  | io
  | json
  | transport (fault : TransportFault)
  | inContext (context : String) (cause : Error)

namespace Error

/-- The text shown for an error. -/
def message : Error → String
  | .config text => "Configuration error: " ++ text
  | .toml => "TOML parse error: <toml>"
  | .unsupported operation backend alternative =>
    operation ++ " is not supported by the " ++ backend ++ " backend, please use the " ++
      alternative ++ " backend"
  | .notFound kind id => kind ++ " not found: " ++ id
  | .invalidArgument field reason => "invalid " ++ field ++ ": " ++ reason
  | .mount fault => fault.message
  | .api context status body => context ++ ": " ++ statusText status ++ " - " ++ body
  | .service action code text requestId =>
    "[" ++ code ++ "] " ++ text ++ " (action: " ++ action ++ ", request id: " ++ requestId ++ ")"
  | .decode context => "failed to decode response from " ++ context ++ ": <json>"
  | .incomplete context field => "response from " ++ context ++ " is missing " ++ field
  | .interrupted reason _ => "execution stream interrupted: " ++ reason
  | .signing text => "Request signing failed: " ++ text
  | .cancelled operation => operation ++ " was cancelled"
  | .deadline operation seconds =>
    operation ++ " exceeded its deadline of " ++ toString seconds ++ " seconds"
  | .io => "IO error: <io>"
  | .json => "JSON error: <json>"
  | .transport fault => "HTTP error: " ++ fault.mark
  | .inContext context cause => context ++ ": " ++ cause.message

/-- The cause without its contexts. -/
def root : Error → Error
  | .inContext _ cause => cause.root
  | e => e

/-- The error inside some contexts, the last of them outermost. -/
def inContexts (e : Error) (contexts : List String) : Error :=
  contexts.foldl (fun e c => .inContext c e) e

/-- Whether the backend does not offer the operation. -/
def isUnsupported (e : Error) : Bool :=
  match e.root with
  | .unsupported .. => true
  | _ => false

/-- Whether there is no object with the given id. -/
def isNotFound (e : Error) : Bool :=
  match e.root with
  | .notFound .. => true
  | _ => false

/-- Whether the caller ended the call, by cancelling it or by its deadline. -/
def isCancelled (e : Error) : Bool :=
  match e.root with
  | .cancelled _ => true
  | .deadline .. => true
  | _ => false

/-- The output that was decoded before an execution's stream broke. -/
def partialOutput? (e : Error) : Option Execution.Output :=
  match e.root with
  | .interrupted _ output => some output
  | _ => none

@[simp] theorem root_inContext (context : String) (e : Error) :
    (Error.inContext context e).root = e.root := rfl

end Error

end AgentSandbox
