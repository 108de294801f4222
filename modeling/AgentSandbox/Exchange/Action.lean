import AgentSandbox.Error
import AgentSandbox.Exchange.Message
import AgentSandbox.Execution.Decoding
import AgentSandbox.TokenCache

/-!
# Actions

An `Action` is what a call does, one step after the other: it looks up, inserts or evicts an access
token, or it sends a request and goes on with the outcome, and at last it has a result.  An action
says nothing of time, of cancellation or of what the service answers.
-/

namespace AgentSandbox

open Execution

/-- What is made of the body of a reply while it arrives. -/
inductive Received where
  /-- The body is not read. -/
  | nothing
  | body (bytes : List UInt8)
  /-- The body is the stream of an execution, decoded for some listeners. -/
  | execution (listeners : Listeners) (decoder : Decoder)

namespace Received

/-- After some more bytes. -/
def feed (bytes : List UInt8) : Received → Received
  | .nothing => .nothing
  | .body bs => .body (bs ++ bytes)
  | .execution l d => .execution l (d.feed l bytes)

/-- After the proper end of the body. -/
def finish : Received → Received
  | .execution l d => .execution l ⟨.empty, d.finish l⟩
  | r => r

/-- The notices given so far. -/
def notices : Received → List Notice
  | .execution _ d => d.progress.notices
  | _ => []

/-- The bytes of the body. -/
def bytes : Received → List UInt8
  | .body bs => bs
  | _ => []

/-- The text that a service gave with a status that is not accepted; a body that was cut short
counts as none. -/
def rejection (r : Received) (cut : Option TransportFault) : String :=
  if cut.isNone then Utf8.lossyString r.bytes else ""

/-- The output of the execution. -/
def output : Received → Output
  | .execution _ d => d.progress.output
  | _ => .empty

end Received

/-- How an exchange ended for the one who sent the request. -/
inductive Outcome where
  | fault (fault : TransportFault)
  /-- A status, what was received of the body, and the fault that cut the body short. -/
  | reply (status : Nat) (received : Received) (cut : Option TransportFault)

/-- A request with what is to be done about its reply. -/
structure Query where
  request : Request
  /-- The milliseconds after which the exchange is given up. -/
  limit : Option Nat
  /-- What the body of a reply with a given status is received as. -/
  reception : Nat → Received

/-- What a call does. -/
inductive Action (α : Type) where
  | done (result : Except Error α)
  | token (operation : TokenCache.Operation) (next : Option String → Action α)
  | send (query : Query) (next : Outcome → Action α)

namespace Action

variable {α β : Type}

/-- Goes on with the result of an action, unless it is an error. -/
def bind (a : Action α) (f : α → Action β) : Action β :=
  match a with
  | .done (.ok x) => f x
  | .done (.error e) => .done (.error e)
  | .token op next => .token op fun t => (next t).bind f
  | .send q next => .send q fun o => (next o).bind f

instance : Monad Action where
  pure x := .done (.ok x)
  bind := bind

/-- The action that fails. -/
def fail (e : Error) : Action α := .done (.error e)

/-- Looks up the token of an instance. -/
def lookUpToken (id : String) : Action (Option String) :=
  .token (.get id) fun t => .done (.ok t)

/-- Remembers the token of an instance. -/
def insertToken (id token : String) : Action Unit :=
  .token (.insert id token) fun _ => .done (.ok ())

/-- Forgets the token of an instance. -/
def evictToken (id : String) : Action Unit :=
  .token (.evict id) fun _ => .done (.ok ())

end Action

end AgentSandbox
