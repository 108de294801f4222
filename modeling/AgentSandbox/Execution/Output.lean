import AgentSandbox.Execution.Event

/-!
# The output of an execution

`Output.record` folds an event into the output gathered so far.  A listener that is registered for a
channel gets the text of every event on that channel at that moment; `Progress` keeps the output and
the notices given together.
-/

namespace AgentSandbox.Execution

/-- What an execution printed and returned, and its last fault. -/
structure Output where
  stdout : List String
  stderr : List String
  results : List (List (String × Json.Value))
  fault : Option Fault

namespace Output

/-- No output. -/
def empty : Output := ⟨[], [], [], none⟩

instance : Inhabited Output := ⟨empty⟩

/-- Whether the executed code ended in a fault. -/
def hasFault (o : Output) : Bool := o.fault.isSome

/-- The output with an event added; a later fault replaces an earlier one. -/
def record (o : Output) : Event → Output
  | .stdout text => { o with stdout := o.stdout ++ [text] }
  | .stderr text => { o with stderr := o.stderr ++ [text] }
  | .result payload => { o with results := o.results ++ [payload] }
  | .fault f => { o with fault := some f }

/-- The output of one part of an execution followed by that of the next. -/
def append (a b : Output) : Output where
  stdout := a.stdout ++ b.stdout
  stderr := a.stderr ++ b.stderr
  results := a.results ++ b.results
  fault := b.fault.or a.fault

end Output

/-- The channels that can be listened to. -/
inductive Channel where
  | stdout
  | stderr
  deriving DecidableEq

/-- The channels that have a listener. -/
structure Listeners where
  stdout : Bool
  stderr : Bool
  deriving DecidableEq

/-- Nobody listens. -/
def Listeners.none : Listeners := ⟨false, false⟩

/-- A text given to the listener of a channel. -/
structure Notice where
  channel : Channel
  text : String
  deriving DecidableEq

/-- The notice that an event causes, if its channel has a listener. -/
def Event.notice? (l : Listeners) : Event → Option Notice
  | .stdout text => if l.stdout then some ⟨.stdout, text⟩ else none
  | .stderr text => if l.stderr then some ⟨.stderr, text⟩ else none
  | _ => none

/-- The output gathered so far and the notices given for it. -/
structure Progress where
  output : Output
  notices : List Notice

namespace Progress

/-- Nothing gathered. -/
def empty : Progress := ⟨.empty, []⟩

instance : Inhabited Progress := ⟨empty⟩

/-- The progress with an event added. -/
def record (l : Listeners) (p : Progress) (e : Event) : Progress :=
  ⟨p.output.record e, p.notices ++ (e.notice? l).toList⟩

/-- The progress with the event of a line added, if the line reports one. -/
def line (l : Listeners) (p : Progress) (bytes : List UInt8) : Progress :=
  match Event.ofLine? bytes with
  | some e => p.record l e
  | none => p

/-- The progress of one part followed by that of the next. -/
def append (a b : Progress) : Progress :=
  ⟨a.output.append b.output, a.notices ++ b.notices⟩

end Progress

end AgentSandbox.Execution
