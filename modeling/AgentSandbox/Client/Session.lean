import AgentSandbox.Client.Basic
import AgentSandbox.Diagnostic

/-!
# Sessions

A session is a sequence of steps of one client, each with the replies that the services are going to
give if there is a network at all.  What lasts from step to step is the remembered tokens and
whether the client was cancelled.  `Session.run` gives a report of each step: what came back, the
requests that arrived, the notices given, and the tokens afterwards.
-/

namespace AgentSandbox

open Execution Json

/-- Whether the cache of a client belongs to the one who built it. -/
def Client.Assembly.sharesTokens (a : Client.Assembly) : Bool := a ≠ .configured

namespace Session

/-- What a client is told to do. -/
inductive Command where
  | call (call : Call)
  /-- The same, asked of the backend itself: neither cancellation nor the limit for calls count. -/
  | unguarded (call : Call)
  | instanceHost (port : Nat) (id : String)
  | capabilities
  | diagnostic
  | cancel
  /-- Gives the client a new cancellation, which is not yet used. -/
  | rescope

/-- One step of a session. -/
structure Step where
  command : Command
  replies : List Reply
  /-- The milliseconds that the call of this step may take, if not those of the client. -/
  callLimit : Option Nat
  cancelAt : Option Nat
  pauseAt : Option (Nat × Nat)

/-- What lasts from step to step. -/
structure State where
  tokens : TokenCache
  cancelled : Bool

/-- The state in which a session starts with some tokens.  A client that is built from a
configuration makes its own cache, so nothing can be put into it beforehand. -/
def State.start (a : Client.Assembly) (tokens : TokenCache) : State :=
  ⟨if a.sharesTokens then tokens else .empty, false⟩

/-- What came back from a step. -/
inductive Result where
  | answer (answer : Answer)
  | text (text : String)
  | capabilities (kind : BackendKind)
  | error (error : Error)
  | nothing
  /-- The call never ends. -/
  | unending

/-- The report of a step. -/
structure Report where
  result : Result
  sent : List Request
  notices : List Notice
  tokens : TokenCache

/-- The time that a call may take in a step. -/
def Step.limit (c : Client) (s : Step) : Option Nat := s.callLimit.or c.callLimit

/-- The world in which a step begins. -/
def Step.world (s : Step) (connected : Bool) (st : State) : World :=
  ⟨if connected then .up s.replies else .down, st.tokens, st.cancelled, 0, [], []⟩

/-- What came back from a call. -/
def Result.ofCall : Option (Except Error Answer) → Result
  | none => .unending
  | some (.ok a) => .answer a
  | some (.error e) => .error e

/-- Carries out a call in a step. -/
def Step.perform (c : Client) (connected : Bool) (s : Step) (caller : Caller) (call : Call)
    (st : State) : Report × State :=
  let r := Client.perform c.backend caller call (s.world connected st)
  (⟨.ofCall r.1, r.2.sent, r.2.notices, r.2.tokens⟩, ⟨r.2.tokens, r.2.cancelled⟩)

/-- Takes one step; `connected` says whether there is a network. -/
def step (c : Client) (connected : Bool) (s : Step) (st : State) : Report × State :=
  let quiet (r : Result) (st : State) : Report × State := (⟨r, [], [], st.tokens⟩, st)
  match s.command with
  | .call call => s.perform c connected ⟨true, s.limit c, s.cancelAt, s.pauseAt⟩ call st
  | .unguarded call => s.perform c connected ⟨false, none, s.cancelAt, s.pauseAt⟩ call st
  | .instanceHost port id => quiet (.text (c.backend.instanceHost port id)) st
  | .capabilities => quiet (.capabilities c.backend.kind) st
  | .diagnostic => quiet (.text (clientDiagnostic c.backend.kind (s.limit c))) st
  | .cancel => quiet .nothing { st with cancelled := true }
  | .rescope => quiet .nothing { st with cancelled := false }

/-- Takes some steps in turn. -/
def run (c : Client) (connected : Bool) : List Step → State → List Report
  | [], _ => []
  | s :: ss, st =>
    let r := step c connected s st
    r.1 :: run c connected ss r.2

end Session

end AgentSandbox
