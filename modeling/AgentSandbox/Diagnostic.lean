import AgentSandbox.Backend
import AgentSandbox.Calendar
import AgentSandbox.Execution.Output
import AgentSandbox.Signature
import AgentSandbox.Text.Quoted

/-!
# Diagnostic texts

How records are shown to someone who looks for a fault.  `diagnosticRecord` shows a record by its
name and its fields; a secret key is never shown.
-/

namespace AgentSandbox

/-- A record with the texts of its fields. -/
def diagnosticRecord (name : String) (fields : List (String × String)) : String :=
  name ++ " \x7b " ++ ", ".intercalate (fields.map fun f => f.1 ++ ": " ++ f.2) ++ " \x7d"

/-- A truth value. -/
def diagnosticBool (b : Bool) : String := if b then "true" else "false"

/-- A pair of keys, the secret one hidden. -/
def Credentials.diagnostic (c : Credentials) : String :=
  diagnosticRecord "Credentials"
    [("secret_id", Text.quoted c.secretId), ("secret_key", Text.quoted "***")]

/-- The channels that have a listener. -/
def Execution.Listeners.diagnostic (l : Execution.Listeners) : String :=
  diagnosticRecord "StreamCallbacks"
    [("on_stdout", diagnosticBool l.stdout), ("on_stderr", diagnosticBool l.stderr)]

/-- A fraction of a second, given in milliseconds, without zeros at its end. -/
def fractionOfSecond (ms : Nat) : String :=
  if ms = 0 then ""
  else "." ++ String.ofList (Text.dropEndWhile (· = '0') (paddedNat 3 ms).toList)

/-- A time given in milliseconds: in seconds if it is at least one, in milliseconds if it is at least
one, and else in nanoseconds. -/
def diagnosticDuration (ms : Nat) : String :=
  if 1000 ≤ ms then toString (ms / 1000) ++ fractionOfSecond (ms % 1000) ++ "s"
  else if 0 < ms then toString ms ++ "ms"
  else "0ns"

/-- A client, by its kind of backend and the milliseconds that a call may take. -/
def clientDiagnostic (kind : BackendKind) (limit : Option Nat) : String :=
  diagnosticRecord "SandboxClient"
    [("backend", Text.quoted kind.name),
      ("call_timeout",
        match limit with
        | none => "None"
        | some ms => "Some(" ++ diagnosticDuration ms ++ ")")]

end AgentSandbox
