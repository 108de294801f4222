import AgentSandbox.Json.Document

/-!
# Decoding records

A record type has named fields in a fixed order.  A document gives it either as a record, where
unknown members are ignored and a known one may stand only once, or as a list of the fields in
order, where a list may be too short but never too long.  `Document.fields?` is what a document
gives; `Fields.required`, `Fields.orDefault`, `Fields.nullable` and `Fields.optional` then decode one field
each and say what happens to a field that is not given.
-/

namespace AgentSandbox.Json

/-- Whether the names of some members are all different. -/
def distinctNames : List (String × Document) → Bool
  | [] => true
  | m :: ms => (lookup? m.1 ms).isNone && distinctNames ms

/-- The members with a known name, in the order written; `none` if a name is a hole. -/
def knownMembers? (known : List String) :
    List (Option String × Document) → Option (List (String × Document))
  | [] => some []
  | (none, _) :: _ => none
  | (some name, d) :: ms =>
    (knownMembers? known ms).map fun rest =>
      if known.contains name then (name, d) :: rest else rest

/-- The fields that a document gives, and whether it gave them by position. -/
structure Fields where
  given : List (String × Document)
  positional : Bool

/-- The fields of the record type with the field names `names` that the document gives. -/
def Document.fields? (names : List String) : Document → Option Fields
  | .record members => do
    let given ← knownMembers? names members
    if distinctNames given then some ⟨given, false⟩ else none
  | .list items => if items.length ≤ names.length then some ⟨names.zip items, true⟩ else none
  | _ => none

namespace Fields

variable {α : Type}

/-- The field decoded, which must be given. -/
def required (fs : Fields) (name : String) (decode : Document → Option α) : Option α :=
  (lookup? name fs.given).bind decode

/-- The field decoded, or `default` if it is not given. -/
def orDefault (fs : Fields) (name : String) (decode : Document → Option α) (default : α) :
    Option α :=
  match lookup? name fs.given with
  | none => some default
  | some d => decode d

end Fields

namespace Document

variable {α : Type}

/-- A text. -/
def text? : Document → Option String
  | .text s => some s
  | _ => none

/-- A truth value. -/
def bool? : Document → Option Bool
  | .bool b => some b
  | _ => none

/-- A natural number, in no other form than that of an integer. -/
def nat? : Document → Option Nat
  | .number (.int (.ofNat n)) => some n
  | _ => none

/-- An optional part: `null` for none. -/
def nullable? (decode : Document → Option α) : Document → Option (Option α)
  | .null => some none
  | d => (decode d).map some

/-- A list of parts. -/
def listOf? (decode : Document → Option α) : Document → Option (List α)
  | .list items => items.mapM decode
  | _ => none

/-- The members of a map, each name with its decoded part, in the order written. -/
def mapEntries? (decode : Document → Option α) :
    List (Option String × Document) → Option (List (String × α))
  | [] => some []
  | (none, _) :: _ => none
  | (some name, d) :: ms =>
    match decode d, mapEntries? decode ms with
    | some v, some rest => some ((name, v) :: rest)
    | _, _ => none

/-- A map from texts; the last member of each name wins. -/
def mapOf? (decode : Document → Option α) : Document → Option (Dictionary α)
  | .record members => (mapEntries? decode members).map Dictionary.ofList
  | _ => none

end Document

/-- An optional field: `null` for none, and none also if it is not given, which is not allowed by
position. -/
def Fields.nullable {α : Type} (fs : Fields) (name : String) (decode : Document → Option α) :
    Option (Option α) :=
  match lookup? name fs.given with
  | none => if fs.positional then none else some none
  | some d => d.nullable? decode

/-- A field that may be `null` or not given at all, also by position. -/
def Fields.optional {α : Type} (fs : Fields) (name : String) (decode : Document → Option α) :
    Option (Option α) :=
  fs.orDefault name (Document.nullable? decode) none

end AgentSandbox.Json
