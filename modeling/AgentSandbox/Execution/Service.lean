import AgentSandbox.Exchange.Action
import AgentSandbox.Json.Printer
import AgentSandbox.Signature
import AgentSandbox.Url.Reader

/-!
# The execution service

Code is run by sending it to the execution service of an instance, which answers with the stream of
events of the execution.  The exchange has no limit of its own: an execution takes as long as the
service keeps the stream open or as the caller waits.
-/

namespace AgentSandbox.Execution

open Json

/-- What an error of the execution service is about. -/
def serviceContext : String := "failed to execute code"

/-- The mark in the place of a transport's reason for breaking off a stream. -/
def brokenReason : String := "<transport>"

/-- The language of code for which none is given. -/
def defaultLanguage : String := "python"

/-- What is sent to the execution service. -/
def requestBody (code language : String) : Value :=
  .object
    [("code", .text code),
      ("language", .text (if language.isEmpty then defaultLanguage else language))]

/-- The headers of a request to the execution service: an empty token is not sent. -/
def requestHeaders (token : Option String) : List (String × String) :=
  ("content-type", Signature.contentType) ::
    ((Text.nonEmpty token).map fun t => ("x-access-token", t)).toList

/-- The URL that code is sent to, `base` being that of the execution service. -/
def executeUrl (base : String) : String := Text.dropEndSlashes base ++ "/execute"

/-- What the body of a reply is received as: the stream of an execution if the request was
accepted. -/
def reception (l : Listeners) (status : Nat) : Received :=
  if status = 200 then .execution l .start else .body []

/-- The output that the outcome of the exchange stands for. -/
def outputOf : Outcome → Except Error Output
  | .fault f => .error (.inContext serviceContext (.transport f))
  | .reply status received cut =>
    if status = 200 then
      match cut with
      | none => .ok received.output
      | some _ => .error (.inContext serviceContext (.interrupted brokenReason received.output))
    else .error (.api serviceContext status (received.rejection cut))

/-- Runs code in an instance whose execution service is below `base`. -/
def execute (base : String) (token : Option String) (code language : String) (l : Listeners) :
    Action Output :=
  match Url.parse (executeUrl base) with
  | .error _ => .fail (.inContext serviceContext (.transport .unwritable))
  | .ok url =>
    .send ⟨⟨.post, url, requestHeaders token, (requestBody code language).toText⟩, none,
      reception l⟩ fun o => .done (outputOf o)

end AgentSandbox.Execution
