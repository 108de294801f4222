import AgentSandbox.Binary64
import AgentSandbox.Dictionary

/-!
# JSON values

A `Json.Value` is what a JSON text means.  A number is an integer of at most 64 bits or a finite
floating-point number; an object is a list of members, which a reader leaves in increasing order of
their names and a record is free to write in an order of its own.
-/

namespace AgentSandbox.Json

/-- A number: an integer as it is, anything else in binary. -/
inductive Number where
  | int (n : Int)
  | float (x : Binary64)
  deriving DecidableEq

/-- The meaning of a JSON text. -/
inductive Value where
  | null
  | bool (b : Bool)
  | number (n : Number)
  | text (s : String)
  | list (items : List Value)
  | object (members : List (String × Value))

instance : Inhabited Value := ⟨.null⟩

namespace Value

/-- The number that a natural number is. -/
def nat (n : Nat) : Value := .number (.int n)

/-- A text, or `null` for none. -/
def textOrNull : Option String → Value
  | none => .null
  | some s => .text s

/-- A natural number, or `null` for none. -/
def natOrNull : Option Nat → Value
  | none => .null
  | some n => .nat n

/-- The list of some texts. -/
def texts (ss : List String) : Value := .list (ss.map .text)

/-- The object that binds texts to texts. -/
def textObject (d : Dictionary String) : Value :=
  .object (d.entries.map fun e => (e.1, .text e.2))

/-- The text, if the value is one. -/
def text? : Value → Option String
  | .text s => some s
  | _ => none

/-- The members, if the value is an object. -/
def members? : Value → Option (List (String × Value))
  | .object ms => some ms
  | _ => none

/-- The member of an object, if the value is an object that has it. -/
def member? (name : String) : Value → Option Value
  | .object ms => lookup? name ms
  | _ => none

end Value

/-- The members whose value is given, under their names and in their order. -/
def givenMembers (ms : List (String × Option Value)) : List (String × Value) :=
  ms.filterMap fun m => m.2.map (m.1, ·)

end AgentSandbox.Json
