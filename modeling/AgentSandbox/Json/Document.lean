import AgentSandbox.Json.Value

/-!
# JSON documents as written

A `Json.Document` is the tree of a text before it is given a meaning: the members of a record stand
in the order in which they were written, repeated names included, and a part that is well-formed but
has no value (a number out of range, a string with an unpaired surrogate or with bytes that are no
character, a container nested too deeply) is a hole.  A hole that a reader of the document never
looks at does no harm.  `Document.value?` is the meaning of a document without holes, where the last
member of each name wins, and `Document.ofValue` is a document that has a given meaning.
-/

namespace AgentSandbox.Json

/-- The tree of a JSON text; `hole` is a part without a value, and so is a name `none`. -/
inductive Document where
  | null
  | bool (b : Bool)
  | number (n : Number)
  | text (s : String)
  | list (items : List Document)
  | record (members : List (Option String × Document))
  | hole

instance : Inhabited Document := ⟨.null⟩

mutual

/-- The meaning of a document, if no part of it is a hole. -/
def Document.value? : Document → Option Value
  | .null => some .null
  | .bool b => some (.bool b)
  | .number n => some (.number n)
  | .text s => some (.text s)
  | .list items => (itemValues? items).map .list
  | .record members =>
    (memberValues? members).map fun ms => .object (Dictionary.ofList ms).entries
  | .hole => none

/-- The meanings of the items of a list. -/
def itemValues? : List Document → Option (List Value)
  | [] => some []
  | d :: ds =>
    match d.value?, itemValues? ds with
    | some v, some vs => some (v :: vs)
    | _, _ => none

/-- The meanings of the members of a record, in the order written. -/
def memberValues? : List (Option String × Document) → Option (List (String × Value))
  | [] => some []
  | (name, d) :: ms =>
    match name, d.value?, memberValues? ms with
    | some k, some v, some vs => some ((k, v) :: vs)
    | _, _, _ => none

end

mutual

/-- The document that spells a value. -/
def Document.ofValue : Value → Document
  | .null => .null
  | .bool b => .bool b
  | .number n => .number n
  | .text s => .text s
  | .list items => .list (itemDocuments items)
  | .object members => .record (memberDocuments members)

/-- The documents that spell the items of a list. -/
def itemDocuments : List Value → List Document
  | [] => []
  | v :: vs => Document.ofValue v :: itemDocuments vs

/-- The members that spell those of an object. -/
def memberDocuments : List (String × Value) → List (Option String × Document)
  | [] => []
  | (k, v) :: ms => (some k, Document.ofValue v) :: memberDocuments ms

end

end AgentSandbox.Json
