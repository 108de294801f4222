import AgentSandbox.Exchange.Action

/-!
# Carrying out actions

`Action.run` carries out an action in a `World`, which holds what the service is going to answer,
the tokens, the time that has passed since the call began and whether the caller has cancelled it.
Wherever an exchange has to wait, a cancellation is noticed first, then the limit of the exchange,
which ends it with a fault, and then the deadline of the call, which ends the call.  An exchange
that waits for nothing at all never ends.
-/

namespace AgentSandbox

open Execution

/-- How the caller treats a call. -/
structure Caller where
  /-- Whether a cancellation ends the call. -/
  heeds : Bool
  /-- The milliseconds after which the call is given up. -/
  deadline : Option Nat
  /-- The notice on which the caller cancels, counted from one. -/
  cancelAt : Option Nat
  /-- The notice during which time passes, counted from one, and the milliseconds. -/
  pauseAt : Option (Nat × Nat)
  deriving DecidableEq

/-- The connection to the services, with the replies that they are going to give. -/
inductive Link where
  | down
  | up (replies : List Reply)
  deriving DecidableEq

/-- What a call finds and leaves. -/
structure World where
  link : Link
  tokens : TokenCache
  cancelled : Bool
  /-- The milliseconds since the call began. -/
  elapsed : Nat
  /-- The requests that arrived, in their order. -/
  sent : List Request
  /-- The notices given to listeners, in their order. -/
  notices : List Notice

/-- How an exchange ends. -/
inductive Finish where
  | outcome (outcome : Outcome)
  | cancelled
  | expired
  | unending

namespace World

/-- The world after some milliseconds. -/
def pass (pause : Nat) (w : World) : World := { w with elapsed := w.elapsed + pause }

/-- The world after one more notice. -/
def notify (c : Caller) (w : World) (n : Notice) : World :=
  let count := w.notices.length + 1
  { w with
    notices := w.notices ++ [n]
    cancelled := w.cancelled || c.cancelAt = some count
    elapsed := w.elapsed + ((c.pauseAt.filter (·.1 = count)).map (·.2)).getD 0 }

/-- Waits, and goes on unless something ended the wait: `limit` is the time at which the exchange is
given up with the outcome `late`. -/
def wait (c : Caller) (limit : Option Nat) (late : Outcome) (w : World)
    (next : World → Finish × World) : Finish × World :=
  if c.heeds && w.cancelled then (.cancelled, w)
  else if limit.any (· ≤ w.elapsed) then (.outcome late, w)
  else if c.deadline.any (· ≤ w.elapsed) then (.expired, w)
  else next w

/-- Waits for what never comes. -/
def waitInVain (c : Caller) (limit : Option Nat) (late : Outcome) (w : World) : Finish × World :=
  match limit, c.deadline with
  | none, none => (.unending, w)
  | some l, none => (.outcome late, { w with elapsed := max w.elapsed l })
  | none, some d => (.expired, { w with elapsed := max w.elapsed d })
  | some l, some d =>
    if l ≤ d then (.outcome late, { w with elapsed := max w.elapsed l })
    else (.expired, { w with elapsed := max w.elapsed d })

/-- Receives a body. -/
def receive (c : Caller) (limit : Option Nat) (status : Nat) (ending : BodyEnd) :
    List Chunk → Received → World → Finish × World
  | [], r, w =>
    w.wait c limit (.reply status r (some .timeout)) fun w =>
      match ending with
      | .complete =>
        let r' := r.finish
        (.outcome (.reply status r' none),
          (r'.notices.drop r.notices.length).foldl (notify c) w)
      | .broken => (.outcome (.reply status r (some .disconnected)), w)
      | .silence => w.waitInVain c limit (.reply status r (some .timeout))
  | chunk :: chunks, r, w =>
    (w.pass chunk.pause).wait c limit (.reply status r (some .timeout)) fun w =>
      let r' := r.feed chunk.bytes
      receive c limit status ending chunks r'
        ((r'.notices.drop r.notices.length).foldl (notify c) w)

/-- What a response to a request leads to. -/
def respond (c : Caller) (q : Query) (limit : Option Nat) (w : World) :
    Response → Finish × World
  | .closed => (.outcome (.fault .disconnected), w)
  | .silence => w.waitInVain c limit (.fault .timeout)
  | .answer status chunks ending =>
    match q.reception status with
    | .nothing => (.outcome (.reply status .nothing none), w)
    | r => receive c limit status ending chunks r w

/-- The reply to the next request, and the replies behind it. -/
def nextReply : List Reply → Reply × List Reply
  | [] => (.unprepared, [])
  | r :: rs => (r, rs)

/-- Exchanges a request for its reply. -/
def exchange (c : Caller) (q : Query) (w : World) : Finish × World :=
  if q.request.isWritable then
    let limit := q.limit.map (w.elapsed + ·)
    w.wait c limit (.fault .timeout) fun w =>
      match w.link with
      | .down => (.outcome (.fault .disconnected), w)
      | .up replies =>
        let (reply, replies) := nextReply replies
        let w := { w with
          link := .up replies
          sent := w.sent ++ [q.request]
          cancelled := w.cancelled || reply.cancels }
        (w.pass reply.pause).wait c limit (.fault .timeout) fun w => w.respond c q limit reply.response
  else (.outcome (.fault .unwritable), w)

end World

/-- How a call ends. -/
inductive Ending (α : Type) where
  | finished (result : Except Error α)
  | cancelled
  | expired
  | unending

/-- Carries out an action. -/
def Action.run {α : Type} (c : Caller) : Action α → World → Ending α × World
  | .done r, w => (.finished r, w)
  | .token op next, w =>
    (next (TokenCache.answer w.tokens op)).run c { w with tokens := TokenCache.after w.tokens op }
  | .send q next, w =>
    match w.exchange c q with
    | (.outcome o, w) => (next o).run c w
    | (.cancelled, w) => (.cancelled, w)
    | (.expired, w) => (.expired, w)
    | (.unending, w) => (.unending, w)

end AgentSandbox
