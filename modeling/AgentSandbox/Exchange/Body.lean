import AgentSandbox.Exchange.Action
import AgentSandbox.Json.Reader

/-!
# Bodies of management replies

A management request accepts some statuses.  `Outcome.accepted` keeps what was received with one of
them and turns every other reply into an error that quotes its body; `Content.decode` is the record
that a received body gives.  The strings of a body that are not part of the record need not be
UTF-8.
-/

namespace AgentSandbox

open Json

/-- The document in a body.  A string with bytes that are no character is a hole in it. -/
def documentOf? (bytes : List UInt8) : Option Document :=
  let parts := Utf8.decode bytes
  if some illFormed ∈ parts then none else Document.scan? (parts.map (·.getD illFormed))

/-- What was received with an accepted status, and the fault that cut it short. -/
structure Content where
  received : Received
  cut : Option TransportFault

/-- The content of a reply with an accepted status; `context` is what another reply is an error
about, and `lost` the error if there is no reply. -/
def Outcome.accepted (context : String) (accepts : List Nat) (lost : TransportFault → Error) :
    Outcome → Except Error Content
  | .fault f => .error (lost f)
  | .reply status received cut =>
    if accepts.contains status then .ok ⟨received, cut⟩
    else .error (.api context status (received.rejection cut))

/-- The record that a received body gives; `context` is what a failure is about. -/
def Content.decode {α : Type} (context : String) (decode : Document → Option α) (c : Content) :
    Except Error α :=
  match c.cut with
  | some f => .error (.inContext context (.transport f))
  | none =>
    match (documentOf? c.received.bytes).bind decode with
    | some a => .ok a
    | none => .error (.decode context)

end AgentSandbox
