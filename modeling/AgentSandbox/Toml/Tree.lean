import AgentSandbox.Dictionary
import AgentSandbox.Json.Document

/-!
# Tables of a configuration file

A TOML file fills a tree of tables.  A table is opened by a header, comes about because a header
names something inside it, or comes about because a dotted key does; `openTable`, `openElement` and
`bind` extend a tree by a header or a binding and refuse what would define a table twice, open a
table that was written whole, or bind a key again.
-/

namespace AgentSandbox.Toml

/-- A value of the language. -/
inductive Value where
  | text (s : String)
  | int (n : Int)
  /-- A floating-point number; its value is never asked for. -/
  | float
  | bool (b : Bool)
  /-- A date, a time or both, as written. -/
  | moment (written : String)
  | array (items : List Value)
  | table (entries : List (String × Value))

instance : Inhabited Value := ⟨.float⟩

/-- How a table came about. -/
inductive Origin where
  /-- By its own header. -/
  | header
  /-- By the header of something inside it. -/
  | inner
  /-- By a dotted key. -/
  | dotted
  deriving DecidableEq

/-- What a key of a table that is being filled stands for. -/
inductive Node where
  | value (v : Value)
  | table (origin : Origin) (entries : List (String × Node))
  /-- An array whose elements are opened by headers one after the other. -/
  | elements (tables : List (List (String × Node)))

instance : Inhabited Node := ⟨.value .float⟩

/-- The entries of a table that is being filled. -/
abbrev Entries := List (String × Node)

/-- The entries with an existing key standing for something else. -/
def Entries.set (key : String) (node : Node) (es : Entries) : Entries :=
  es.map fun e => if e.1 = key then (key, node) else e

/-- The list with its last item changed, if it has one. -/
def mapLast? {α : Type} (f : α → Option α) : List α → Option (List α)
  | [] => none
  | [x] => (f x).map ([·])
  | x :: xs => (mapLast? f xs).map (x :: ·)

/-- Changes the table at a path of a header; tables on the way come about if they are missing, and an
array of tables stands for its last element. -/
def modifyAt (change : Entries → Option Entries) : List String → Entries → Option Entries
  | [], es => change es
  | key :: keys, es =>
    match lookup? key es with
    | none => (modifyAt change keys []).map fun inner => es ++ [(key, .table .inner inner)]
    | some (.value _) => none
    | some (.table origin inner) =>
      (modifyAt change keys inner).map fun inner => es.set key (.table origin inner)
    | some (.elements tables) =>
      (mapLast? (modifyAt change keys) tables).map fun tables => es.set key (.elements tables)

/-- Opens the table with this key by a header. -/
def openHere (key : String) (es : Entries) : Option Entries :=
  match lookup? key es with
  | none => some (es ++ [(key, .table .header [])])
  | some (.table .inner inner) => some (es.set key (.table .header inner))
  | some _ => none

/-- Opens one more element of the array with this key by a header. -/
def openElementHere (key : String) (es : Entries) : Option Entries :=
  match lookup? key es with
  | none => some (es ++ [(key, .elements [[]])])
  | some (.elements tables) => some (es.set key (.elements (tables ++ [[]])))
  | some _ => none

/-- Binds a dotted key in a table to a value.  The keys before the last one lead through tables that
have no header, and the value goes into a table that only dotted keys fill. -/
def bindHere (last : String) (v : Value) : List String → Entries → Option Entries
  | [], es =>
    match lookup? last es with
    | none => some (es ++ [(last, .value v)])
    | some _ => none
  | key :: keys, es =>
    match lookup? key es with
    | none => (bindHere last v keys []).map fun inner => es ++ [(key, .table .dotted inner)]
    | some (.value _) => none
    | some (.table .header _) => none
    | some (.table .inner inner) =>
      if keys.isEmpty then none
      else (bindHere last v keys inner).map fun inner => es.set key (.table .inner inner)
    | some (.table .dotted inner) =>
      (bindHere last v keys inner).map fun inner => es.set key (.table .dotted inner)
    | some (.elements tables) =>
      if keys.isEmpty then none
      else (mapLast? (bindHere last v keys) tables).map fun tables => es.set key (.elements tables)

/-- A key with the keys that lead to it. -/
structure Path where
  before : List String
  last : String

/-- All keys of a path. -/
def Path.keys (p : Path) : List String := p.before ++ [p.last]

/-- The tree with the table at a path opened. -/
def openTable (p : Path) (root : Entries) : Option Entries :=
  modifyAt (openHere p.last) p.before root

/-- The tree with one more element opened in the array at a path. -/
def openElement (p : Path) (root : Entries) : Option Entries :=
  modifyAt (openElementHere p.last) p.before root

/-- The tree with a key bound to a value in the table at `current`. -/
def bind (current : List String) (p : Path) (v : Value) (root : Entries) : Option Entries :=
  modifyAt (bindHere p.last v p.before) current root

mutual

/-- The value that a finished node stands for. -/
def Node.finish : Node → Value
  | .value v => v
  | .table _ entries => .table (finishEntries entries)
  | .elements tables => .array (finishTables tables)

/-- The entries of a finished table. -/
def finishEntries : List (String × Node) → List (String × Value)
  | [] => []
  | (key, node) :: es => (key, node.finish) :: finishEntries es

/-- The elements of a finished array of tables. -/
def finishTables : List (List (String × Node)) → List Value
  | [] => []
  | es :: tables => .table (finishEntries es) :: finishTables tables

end

/-- The name of the only member of the record that a date or a time is to a reader of records. -/
def momentField : String := "$__toml_private_datetime"

mutual

/-- The document in which records are looked for; a floating-point number has no value there. -/
def Value.document : Value → Json.Document
  | .text s => .text s
  | .int n => .number (.int n)
  | .float => .hole
  | .bool b => .bool b
  | .moment written => .record [(some momentField, .text written)]
  | .array items => .list (itemDocuments items)
  | .table entries => .record (entryDocuments entries)

/-- The documents of the items of an array. -/
def itemDocuments : List Value → List Json.Document
  | [] => []
  | v :: vs => v.document :: itemDocuments vs

/-- The members of the record of a table. -/
def entryDocuments : List (String × Value) → List (Option String × Json.Document)
  | [] => []
  | (key, v) :: es => (some key, v.document) :: entryDocuments es

end

end AgentSandbox.Toml
