import AgentSandbox.Json.Reader
import AgentSandbox.Text.Blank
import AgentSandbox.Text.Utf8

/-!
# Execution events

A running execution reports events, one JSON object a line.  `Event.ofLine?` decodes a line; a line
that is blank, that is no JSON object, that has no known type or whose text is no string reports
nothing.  `Event.form` is the object that reports an event.
-/

namespace AgentSandbox.Execution

/-- A fault in the executed code, which is part of its output. -/
structure Fault where
  name : String
  value : String
  traceback : String
  deriving DecidableEq

/-- Something that an execution reports. -/
inductive Event where
  | stdout (text : String)
  | stderr (text : String)
  /-- A result: all members of the object that reports it. -/
  | result (payload : List (String × Json.Value))
  | fault (fault : Fault)

/-- The text bound to a name, if it is bound to a text. -/
def textMember? (name : String) (members : List (String × Json.Value)) : Option String :=
  (lookup? name members).bind Json.Value.text?

namespace Event

/-- The event that the members of an object report, by their type. -/
def ofMembers? (members : List (String × Json.Value)) : Option Event :=
  match textMember? "type" members with
  | some "stdout" => (textMember? "text" members).map .stdout
  | some "stderr" => (textMember? "text" members).map .stderr
  | some "result" => some (.result members)
  | some "error" => some <| .fault
      ⟨(textMember? "name" members).getD "", (textMember? "value" members).getD "",
        (textMember? "traceback" members).getD ""⟩
  | _ => none

/-- The event that the text of a line reports. -/
def ofText? (line : List Char) : Option Event :=
  match Json.Value.read? (Text.trim line) with
  | some (.object members) => ofMembers? members
  | _ => none

/-- The event that a line of bytes reports; ill-formed parts count as replacement characters. -/
def ofLine? (line : List UInt8) : Option Event :=
  ofText? (Utf8.decodeLossy line)

/-- The object that reports an event. -/
def form : Event → Json.Value
  | .stdout text => .object [("type", .text "stdout"), ("text", .text text)]
  | .stderr text => .object [("type", .text "stderr"), ("text", .text text)]
  | .result payload => .object payload
  | .fault f => .object
      [("type", .text "error"), ("name", .text f.name), ("value", .text f.value),
        ("traceback", .text f.traceback)]

end Event

end AgentSandbox.Execution
